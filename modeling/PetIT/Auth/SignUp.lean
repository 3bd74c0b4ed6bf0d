/-
Sign-up. An account is never taken back: a sign-up whose later steps fail leaves its account, and its
email cannot be signed up again. As long as the display name is committed, a sign-up reports once, and what
it reports is what became of its document.
-/
import PetIT.Auth.Service

namespace PetIT.Auth

open Store

/-! ## Definitions -/

/-- The uid of the account the attempt was given. -/
def Attempt.uid (a : Attempt) : Option String :=
  match a.phase with
  | .writing user _ _ => some user.userId
  | .creating | .rejected => none

/-- What the write of the document has made the service tell its delegate. -/
def DocumentReported (user : UserModel) : Half → List Callback → Prop
  | .inFlight, l => l = []
  | .applied, l => l = [.didCreateNewAccount user]
  | .failed, l => ∃ error, l = [.didRecieveErrorCreatingAccount error]

/-- What the delegate has been told of the attempt, and whether its document is there. -/
def Attempt.Reports (a : Attempt) (users : Collection String String Value) : Prop :=
  match a.phase with
  | .creating => a.callbacks = []
  | .rejected => ∃ error, a.callbacks = [.didRecieveErrorCreatingAccount error]
  | .writing user commit document =>
    (commit ≠ .failed → DocumentReported user document a.callbacks) ∧
      (users.lookup user.userId ≠ none ↔ document = .applied)

/-- Auth has an account of the uid and the email. -/
def State.HasAccount (s : State) (uid email : String) : Prop := ∃ x ∈ s.accounts, x.uid = uid ∧ x.email = email

/-- Every attempt has been reported on as it stands, with an account of its own, and every user document is that of an
account. -/
structure Inv (s : State) : Prop where
  reports : ∀ (k : Nat) (a : Attempt), s.attempts[k]? = some a → a.Reports s.users
  account : ∀ (k : Nat) (a : Attempt), s.attempts[k]? = some a → ∀ uid ∈ a.uid, s.HasAccount uid a.email
  uids : ∀ (i j : Nat) (a b : Attempt), s.attempts[i]? = some a → s.attempts[j]? = some b → a.uid ≠ none →
    a.uid = b.uid → i = j
  users : ∀ uid, s.users.lookup uid ≠ none → ∃ x ∈ s.accounts, x.uid = uid

/-! ## Every step keeps the invariant -/

variable {s s' : State}

theorem Inv.init : Inv State.init := by
  constructor <;> simp [State.init]

/-- An attempt's report is about its own document only. -/
theorem Attempt.Reports.congr {a : Attempt} {users users' : Collection String String Value}
    (h : ∀ uid ∈ a.uid, users'.lookup uid = users.lookup uid) (hr : a.Reports users) : a.Reports users' := by
  unfold Attempt.Reports at *
  cases hp : a.phase with
  | creating => rw [hp] at hr; exact hr
  | rejected => rw [hp] at hr; exact hr
  | writing user commit document =>
    rw [hp] at hr
    have hu : users'.lookup user.userId = users.lookup user.userId := h _ (by unfold Attempt.uid; rw [hp]; rfl)
    show _ ∧ (users'.lookup user.userId ≠ none ↔ _)
    rw [hu]
    exact hr

/-- An attempt moves on with the account it has, and writes no document but its own. -/
theorem Inv.set (hi : Inv s) {k : Nat} {a a' : Attempt} {users' : Collection String String Value}
    (hk : s.attempts[k]? = some a) (huid : a'.uid = a.uid) (hemail : a'.email = a.email)
    (hr : a'.Reports users') (hother : ∀ uid, a.uid ≠ some uid → users'.lookup uid = s.users.lookup uid) :
    Inv { s with attempts := s.attempts.set k a', users := users' } := by
  have hget : ∀ (j : Nat) (b : Attempt), (s.attempts.set k a')[j]? = some b →
      ∃ b₀, s.attempts[j]? = some b₀ ∧ b.uid = b₀.uid ∧ b.email = b₀.email :=
    Slots.forall_set (P := fun j (b : Attempt) => ∃ b₀, s.attempts[j]? = some b₀ ∧ b.uid = b₀.uid ∧
      b.email = b₀.email) (fun j b hj => ⟨b, hj, rfl, rfl⟩) ⟨a, hk, huid, hemail⟩
  refine ⟨fun j b hj => ?_, fun j b hj uid hu => ?_, fun i j b d hb hd hne he => ?_, fun uid hu => ?_⟩
  · rcases Slots.set_cases hj with ⟨rfl, rfl⟩ | ⟨hjk, hb⟩
    · exact hr
    -- the document of another attempt is that of another uid
    · refine (hi.reports j b hb).congr fun uid hu => hother uid fun h => hjk ?_
      exact hi.uids j k b a hb hk (by rw [hu]; simp) (hu.trans h.symm)
  · obtain ⟨b₀, hb, hbu, hbe⟩ := hget j b hj
    rw [hbe]
    exact hi.account j b₀ hb uid (hbu ▸ hu)
  · obtain ⟨b₀, hb₀, hbu, -⟩ := hget i b hb
    obtain ⟨d₀, hd₀, hdu, -⟩ := hget j d hd
    exact hi.uids i j b₀ d₀ hb₀ hd₀ (hbu ▸ hne) (hbu.symm.trans (he.trans hdu))
  · by_cases ha : a.uid = some uid
    · obtain ⟨x, hx, hxu, -⟩ := hi.account k a hk uid ha
      exact ⟨x, hx, hxu⟩
    · rw [hother uid ha] at hu
      exact hi.users uid hu

/-- An account keeps its uid and its email under a change of name. -/
theorem mem_commitDisplayName (user : UserModel) {x : Account} (hx : x ∈ s.accounts) :
    ∃ y ∈ (s.commitDisplayName user).accounts, y.uid = x.uid ∧ y.email = x.email := by
  refine ⟨_, List.mem_map.2 ⟨x, hx, rfl⟩, ?_, ?_⟩ <;> split <;> rfl

theorem Inv.commitDisplayName (hi : Inv s) (user : UserModel) : Inv (s.commitDisplayName user) := by
  refine ⟨hi.reports, fun k a hk uid hu => ?_, hi.uids, fun uid hu => ?_⟩
  · obtain ⟨x, hx, h1, h2⟩ := hi.account k a hk uid hu
    obtain ⟨y, hy, h3, h4⟩ := mem_commitDisplayName user hx
    exact ⟨y, hy, h3.trans h1, h4.trans h2⟩
  · obtain ⟨x, hx, h1⟩ := hi.users uid hu
    obtain ⟨y, hy, h3, -⟩ := mem_commitDisplayName user hx
    exact ⟨y, hy, h3.trans h1⟩

/-- An attempt is given a new account. -/
theorem Inv.createdUser (hi : Inv s) {k : Nat} {a : Attempt} {uid : String} {user : UserModel}
    (hk : s.attempts[k]? = some a) (hp : a.phase = .creating) (hu : user.userId = uid)
    (hf : ∀ x ∈ s.accounts, x.uid ≠ uid ∧ x.email ≠ a.email) :
    Inv { s with
      accounts := s.accounts ++ [⟨uid, a.email, a.password, none⟩]
      currentUser := some uid
      attempts := s.attempts.set k { a with
        phase := .writing user .inFlight .inFlight
        callbacks := a.callbacks ++ [] } } := by
  subst hu
  -- the uid is new, so it is on no document and on no other attempt
  have hnodoc : s.users.lookup user.userId = none := by
    by_contra hne
    obtain ⟨x, hx, h⟩ := hi.users _ hne
    exact (hf x hx).1 h
  have hnew : ∀ (j : Nat) (b : Attempt), s.attempts[j]? = some b → b.uid ≠ some user.userId := by
    intro j b hb hbu
    obtain ⟨x, hx, h, -⟩ := hi.account j b hb _ hbu
    exact (hf x hx).1 h
  have hold : ∀ uid email, s.HasAccount uid email → ∃ x ∈ s.accounts ++ [⟨user.userId, a.email, a.password, none⟩],
      x.uid = uid ∧ x.email = email := fun uid email ⟨x, hx, h⟩ => ⟨x, List.mem_append_left _ hx, h⟩
  have hcb := hi.reports k a hk
  unfold Attempt.Reports at hcb
  rw [hp] at hcb
  refine ⟨Slots.forall_set hi.reports ?_, ?_, fun i j b d hb hd hne he => ?_, fun uid hu => ?_⟩
  · exact ⟨fun _ => by rw [List.append_nil]; exact hcb, by simp [hnodoc]⟩
  · refine Slots.forall_set (fun j b hb uid hu => hold _ _ (hi.account j b hb uid hu)) fun uid hu => ?_
    cases hu
    exact ⟨_, List.mem_append_right _ (List.mem_singleton_self _), rfl, rfl⟩
  · rcases Slots.set_cases hb with ⟨rfl, rfl⟩ | ⟨-, hb'⟩ <;> rcases Slots.set_cases hd with ⟨rfl, rfl⟩ | ⟨-, hd'⟩
    · rfl
    · exact absurd he.symm (hnew j d hd')
    · exact absurd he (hnew i b hb')
    · exact hi.uids i j b d hb' hd' hne he
  · obtain ⟨x, hx, h⟩ := hi.users uid hu
    exact ⟨x, List.mem_append_left _ hx, h⟩

theorem Attempt.uid_of_writing {a : Attempt} {user : UserModel} {commit document : Half}
    (h : a.phase = .writing user commit document) : a.uid = some user.userId := by
  unfold Attempt.uid
  rw [h]

/-- An attempt moves on, its document left as it is. -/
theorem Inv.report (hi : Inv s) {k : Nat} {a : Attempt} {phase : AttemptPhase} {c : Option Callback}
    (hk : s.attempts[k]? = some a)
    (huid : Attempt.uid { a with phase := phase, callbacks := a.callbacks ++ c.toList } = a.uid)
    (hr : Attempt.Reports { a with phase := phase, callbacks := a.callbacks ++ c.toList } s.users) :
    Inv (s.report k a phase c).1 :=
  hi.set hk huid rfl hr fun _ _ => rfl

/-- What an attempt that has its account has reported. -/
theorem Inv.reports_writing (hi : Inv s) {k : Nat} {a : Attempt} {user : UserModel} {commit document : Half}
    (hk : s.attempts[k]? = some a) (hp : a.phase = .writing user commit document) :
    (commit ≠ .failed → DocumentReported user document a.callbacks) ∧
      (s.users.lookup user.userId ≠ none ↔ document = .applied) := by
  have hr := hi.reports k a hk
  unfold Attempt.Reports at hr
  rw [hp] at hr
  exact hr

theorem Inv.handle {e : Event} {c : Option Callback} (hi : Inv s) (h : Auth.handle s e = some (s', c)) : Inv s' := by
  cases e with
  | createNewAccount username email password =>
    cases h
    refine ⟨Slots.forall_concat hi.reports rfl, Slots.forall_concat hi.account (fun uid hu => by cases hu), ?_,
      hi.users⟩
    intro i j a b ha hb hne he
    rcases Slots.concat_cases ha with ha | ⟨rfl, rfl⟩
    · rcases Slots.concat_cases hb with hb | ⟨rfl, rfl⟩
      · exact hi.uids i j a b ha hb hne he
      · exact absurd he hne
    · exact absurd rfl hne
  | createUserReply k result date =>
    obtain ⟨a, hk, hp, ⟨error, -, h⟩ | ⟨uid, -, hf, h⟩⟩ := createUserReply_some h
    · cases h
      have hr := hi.reports k a hk
      unfold Attempt.Reports at hr
      rw [hp] at hr
      refine hi.report hk (by simp [Attempt.uid, hp]) ⟨error, ?_⟩
      show a.callbacks ++ _ = _
      rw [show a.callbacks = [] from hr]
      rfl
    · cases h
      exact hi.createdUser hk hp rfl hf
  | commitReply k error =>
    obtain ⟨a, user, document, hk, hp, ⟨message, -, h⟩ | ⟨-, h⟩⟩ := commitReply_some h
    · cases h
      obtain ⟨-, h2⟩ := hi.reports_writing hk hp
      exact hi.report hk (by simp [Attempt.uid, hp]) ⟨fun h => absurd rfl h, h2⟩
    · cases h
      obtain ⟨h1, h2⟩ := hi.reports_writing hk hp
      refine (hi.commitDisplayName user).report hk (by simp [Attempt.uid, hp]) ⟨fun _ => ?_, h2⟩
      rw [Option.toList_none, List.append_nil]
      exact h1 (by simp)
  | documentReply k error =>
    obtain ⟨a, user, commit, hk, hp, ⟨message, -, h⟩ | ⟨-, h⟩⟩ := documentReply_some h
    · cases h
      obtain ⟨h1, h2⟩ := hi.reports_writing hk hp
      refine hi.report hk (by simp [Attempt.uid, hp]) ⟨fun hc => ⟨message, ?_⟩, by simpa using h2⟩
      rw [show a.callbacks = [] from h1 hc]
      rfl
    · cases h
      obtain ⟨h1, -⟩ := hi.reports_writing hk hp
      refine hi.set hk (by simp [Attempt.uid, hp]) rfl ⟨fun hc => ?_, by simp [Collection.lookup_setData]⟩
        fun uid hu => ?_
      · rw [show a.callbacks = [] from h1 hc]
        rfl
      · rw [Attempt.uid_of_writing hp] at hu
        rw [Collection.lookup_setData, if_neg fun h => hu (by rw [h])]
  | signInExistingAccount email password => cases h; exact ⟨hi.reports, hi.account, hi.uids, hi.users⟩
  | signInReply i result =>
    obtain ⟨m, -, rfl, -⟩ | ⟨uid, -, rfl, -⟩ := signInReply_some h <;>
    exact ⟨hi.reports, hi.account, hi.uids, hi.users⟩
  | signOutAccount error =>
    cases error <;> cases h <;> exact ⟨hi.reports, hi.account, hi.uids, hi.users⟩

theorem Inv.exec {es : List Event} (h : Run.exec Auth.step State.init es = some s) : Inv s :=
  Run.exec_inv (fun _ _ _ hi hs => by
    obtain ⟨c, hs⟩ := step_some.1 hs
    exact hi.handle hs) Inv.init h

/-! ## Accounts stay -/

theorem State.HasAccount.step {uid email : String} {e : Event} (ha : s.HasAccount uid email)
    (h : Auth.step s e = some s') : s'.HasAccount uid email := by
  obtain ⟨c, h⟩ := step_some.1 h
  obtain ⟨x, hx, hu, he⟩ := ha
  cases e with
  | createNewAccount username email password => cases h; exact ⟨x, hx, hu, he⟩
  | createUserReply k result date =>
    obtain ⟨a, -, -, ⟨error, -, h⟩ | ⟨uid, -, -, h⟩⟩ := createUserReply_some h
    · cases h; exact ⟨x, hx, hu, he⟩
    · cases h; exact ⟨x, List.mem_append_left _ hx, hu, he⟩
  | commitReply k error =>
    obtain ⟨a, user, document, -, -, ⟨message, -, h⟩ | ⟨-, h⟩⟩ := commitReply_some h
    · cases h; exact ⟨x, hx, hu, he⟩
    · cases h
      obtain ⟨y, hy, h1, h2⟩ := mem_commitDisplayName user hx
      exact ⟨y, hy, h1.trans hu, h2.trans he⟩
  | documentReply k error =>
    obtain ⟨a, user, commit, -, -, ⟨message, -, h⟩ | ⟨-, h⟩⟩ := documentReply_some h <;>
    · cases h; exact ⟨x, hx, hu, he⟩
  | signInExistingAccount email password => cases h; exact ⟨x, hx, hu, he⟩
  | signInReply i result =>
    obtain ⟨m, -, rfl, -⟩ | ⟨uid, -, rfl, -⟩ := signInReply_some h <;> exact ⟨x, hx, hu, he⟩
  | signOutAccount error => cases error <;> cases h <;> exact ⟨x, hx, hu, he⟩

/-- An email with an account is not given another. -/
theorem State.HasAccount.rejects {uid uid' email date : String} {j : Nat} {b : Attempt} (ha : s.HasAccount uid email)
    (hb : s.attempts[j]? = some b) (he : b.email = email) :
    Auth.step s (.createUserReply j (.ok uid') date) = none := by
  by_contra hne
  obtain ⟨s', hs⟩ := Option.ne_none_iff_exists'.1 hne
  obtain ⟨c, hs⟩ := step_some.1 hs
  have hs : createUserReply s j (.ok uid') date = some (s', c) := hs
  obtain ⟨a, hk, -, ⟨error, herr, -⟩ | ⟨uid, -, hf, -⟩⟩ := createUserReply_some hs
  · cases herr
  · rw [hb] at hk; cases hk
    obtain ⟨x, hx, -, hxe⟩ := ha
    exact (hf x hx).2 (hxe.trans he.symm)

/-- A rejected attempt leaves nothing, and reports it. -/
theorem createUserReply_error {k : Nat} {error date : String}
    (h : Auth.step s (.createUserReply k (.error error) date) = some s') :
    s'.accounts = s.accounts ∧ s'.users = s.users ∧ ∀ a' ∈ s'.attempts[k]?, a'.phase = .rejected := by
  obtain ⟨c, h⟩ := step_some.1 h
  have h : createUserReply s k (.error error) date = some (s', c) := h
  obtain ⟨a, hk, -, ⟨m, -, h⟩ | ⟨uid, herr, -⟩⟩ := createUserReply_some h
  · cases h
    refine ⟨rfl, rfl, fun a' ha' => ?_⟩
    rw [show _ = some _ from Slots.getElem?_set_self hk] at ha'
    cases ha'; rfl
  · cases herr

/-! ## What a sign-up reports, and what it leaves -/

/-- A sign-up Auth rejects reports that once and leaves nothing. One that is given an account, with its
display name committed, reports once, when the write of its document ends: a new account if the document
is there, and an error if not. Either way its account stays, and no other sign-up gets its email. -/
theorem signUp_reports (es : List Event) (s : State) (h : Run.exec step State.init es = some s) :
    (∀ (k : Nat) (a : Attempt), s.attempts[k]? = some a → a.Reports s.users) ∧
    (∀ k error date s', step s (.createUserReply k (.error error) date) = some s' →
      s'.accounts = s.accounts ∧ s'.users = s.users ∧ ∀ a' ∈ s'.attempts[k]?, a'.phase = .rejected) ∧
    (∀ (k : Nat) (a : Attempt) user commit document, s.attempts[k]? = some a →
      a.phase = .writing user commit document → ∀ fs s', Run.exec step s fs = some s' →
        s'.HasAccount user.userId a.email ∧ ∀ (j : Nat) (b : Attempt) uid date, s'.attempts[j]? = some b →
          b.email = a.email → step s' (.createUserReply j (.ok uid) date) = none) := by
  have hi : Inv s := Inv.exec h
  refine ⟨hi.reports, fun k error date s' hs => createUserReply_error hs,
    fun k a user commit document hk hp fs s' hs => ?_⟩
  have ha : s'.HasAccount user.userId a.email := Run.exec_inv (I := fun s => s.HasAccount user.userId a.email)
    (fun _ _ _ ha hs => ha.step hs) (hi.account k a hk _ (Attempt.uid_of_writing hp)) hs
  exact ⟨ha, fun j b uid date hb he => ha.rejects hb he⟩

/-- Ann signs up; her account is made and named, and the write of her document is still in flight. -/
def sampleSignUp : List Event := [
  .createNewAccount "Ann" "ann@mail.com" "secret",
  .createUserReply 0 (.ok "ann") "2019-03-27T10:00:00Z",
  .commitReply 0 none]

theorem signUp_reports_sample : ∃ s a user,
    Run.exec step State.init (sampleSignUp ++ [.documentReply 0 none]) = some s ∧
    s.attempts[0]? = some a ∧ a.callbacks = [.didCreateNewAccount user] := by
  have hx : (Run.exec step State.init (sampleSignUp ++ [.documentReply 0 none])).map (fun s => (s.attempts[0]?).map
      (·.phase)) =
        some (some (.writing (newUser "ann" "Ann" "ann@mail.com" "2019-03-27T10:00:00Z") .applied .applied)) := by
    decide
  obtain ⟨s, hs, hx⟩ := Option.map_eq_some_iff.1 hx
  obtain ⟨a, ha, hp⟩ := Option.map_eq_some_iff.1 hx
  have hr := (signUp_reports _ s hs).1 0 a ha
  unfold Attempt.Reports at hr
  rw [hp] at hr
  exact ⟨s, a, _, hs, ha, hr.1 (by decide)⟩

/-! ## A sign-up is not all or nothing -/

/-- One callback, a new account just when every step succeeded; and after an error nothing that the attempt
has made is left. -/
def AllOrNothing (s : State) (a : Attempt) : Prop :=
  a.callbacks.length = 1 ∧
  ((∃ user, .didCreateNewAccount user ∈ a.callbacks) ↔ ∃ user, a.phase = .writing user .applied .applied) ∧
  ((∃ error, .didRecieveErrorCreatingAccount error ∈ a.callbacks) →
    ∀ uid ∈ a.uid, (∀ x ∈ s.accounts, x.uid ≠ uid) ∧ s.users.lookup uid = none)

/-- The write of Ann's document fails: she is told of an error, and her account is still there. -/
theorem signUp_not_allOrNothing : ¬ ∀ es s, Run.exec step State.init es = some s →
    ∀ a ∈ s.attempts, a.Settled → AllOrNothing s a := by
  intro h
  have hx : (Run.exec step State.init (sampleSignUp ++ [.documentReply 0 (some "unavailable")])).map (fun s =>
      (s.accounts.map (·.uid), (s.attempts[0]?).map fun a => (a.phase, a.callbacks))) =
        some (["ann"], some (.writing (newUser "ann" "Ann" "ann@mail.com" "2019-03-27T10:00:00Z") .applied .failed,
          [.didRecieveErrorCreatingAccount "unavailable"])) := by
    decide
  obtain ⟨s, hs, hx⟩ := Option.map_eq_some_iff.1 hx
  simp only [Prod.mk.injEq] at hx
  obtain ⟨a, ha, hp⟩ := Option.map_eq_some_iff.1 hx.2
  simp only [Prod.mk.injEq] at hp
  have hset : a.Settled := by
    unfold Attempt.Settled
    rw [hp.1]
    exact ⟨by decide, by decide⟩
  obtain ⟨-, -, hnone⟩ := h _ s hs a (List.mem_of_getElem? ha) hset
  obtain ⟨hacc, -⟩ := hnone ⟨"unavailable", by rw [hp.2]; exact List.mem_singleton_self _⟩ "ann"
    (by rw [Attempt.uid_of_writing hp.1]; rfl)
  have hann : "ann" ∈ s.accounts.map (·.uid) := by rw [hx.1]; exact List.mem_singleton_self _
  obtain ⟨x, hx, hxu⟩ := List.mem_map.1 hann
  exact hacc x hx hxu

end PetIT.Auth
