/-
The visible screen and the session. Nothing moves the two together: the app delegate alone reads one off
the other, and each later step moves one of them because of the other. They agree, whenever no request is
in flight, in the runs in which no sign-out throws and every success finds the screen that is to show it; and
the first step that does not leaves them apart.
-/
import PetIT.Session.System

namespace PetIT.Session

open Auth

/-! ## Definitions -/

/-- Auth has a signed-in user. -/
def State.SignedIn (s : State) : Prop := s.service.currentUser.isSome = true

instance (s : State) : Decidable s.SignedIn := inferInstanceAs (Decidable (_ = true))

/-- The main tab bar is visible just when Auth has a user, and a log-in screen just when it has none. -/
def State.Agrees (s : State) : Prop :=
  (s.window.MainVisible ↔ s.SignedIn) ∧ (s.window.LoginVisible ↔ ¬ s.SignedIn)

/-- No request of a sign-up or a sign-in is in flight. -/
def State.Quiet (s : State) : Prop := s.service.signIns = [] ∧ ∀ a ∈ s.service.attempts, a.Settled

/-- The attempt waits for its document. -/
def isWriting : AttemptPhase → Bool
  | .writing _ _ .inFlight => true
  | _ => false

/-- The document of the new account is being written. -/
def Writing (a : Attempt) : Prop := isWriting a.phase = true

/-- The step moves the screen with the session: a sign-out does not throw; a success that leaves a user
signed in finds the main tab bar visible already, or the screen that presents it on top with nothing over it, or
another sign-up still writing; a failed document leaves nobody signed in behind the log-in screens; and
nobody is shown the main tab bar signed out. -/
def Followed (s : State) : Event → Prop
  | .signOutButtonPressed error => error = none
  | .signInReply _ (.ok _) =>
    s.window.MainVisible ∨ s.window.Ready false ∨ ∃ a ∈ s.service.attempts, Writing a
  | .documentReply k none =>
    (s.SignedIn → s.window.MainVisible ∨ s.window.Ready true ∨ ∃ a ∈ s.service.attempts.eraseIdx k, Writing a) ∧
      (s.window.Ready true → s.SignedIn)
  | .documentReply k (some _) =>
    s.SignedIn → s.window.MainVisible ∨ ∃ a ∈ s.service.attempts.eraseIdx k, Writing a
  | _ => True

instance (a : Attempt) : Decidable (Writing a) := inferInstanceAs (Decidable (_ = true))

instance (s : State) (e : Event) : Decidable (Followed s e) := by
  unfold Followed
  split <;> infer_instance

/-! ## The window -/

variable {w : Window} {b : Bool}

theorem Window.Ready.not_mainVisible (h : w.Ready b) : ¬ w.MainVisible := by
  unfold Window.Ready at h
  subst h
  simp [Window.MainVisible]

theorem loginVisible_iff : w.LoginVisible ↔ ¬ w.MainVisible := by
  unfold Window.LoginVisible Window.MainVisible
  rcases w with ⟨_ | create, m⟩ <;> simp

theorem present_mainTabBar : (w.present b .mainTabBar).MainVisible ↔ w.MainVisible ∨ w.Ready b := by
  unfold Window.present
  split
  · rename_i h
    exact iff_of_true (Or.inr rfl) (Or.inr h)
  · rename_i h
    exact ⟨Or.inl, fun hw => hw.resolve_right h⟩

theorem present_alert {a : Alert} : (w.present b (.alert a)).MainVisible ↔ w.MainVisible := by
  unfold Window.present
  split
  · rename_i h
    refine iff_of_false ?_ h.not_mainVisible
    unfold Window.Ready at h
    subst h
    simp [Window.MainVisible]
  · exact Iff.rfl

theorem showLoginView_not_visible (w : Window) : ¬ w.showLoginView.MainVisible := by
  simp [Window.MainVisible, Window.showLoginView]

/-! ## The attempts -/

theorem writing_set {l : List Attempt} {k : Nat} {p x : Attempt} (hk : l[k]? = some p) (hx : Writing p → Writing x)
    (h : ∃ a ∈ l, Writing a) : ∃ a ∈ l.set k x, Writing a := by
  obtain ⟨a, ha, hw⟩ := h
  obtain ⟨j, hj⟩ := List.mem_iff_getElem?.1 ha
  obtain ⟨q, hq, hw⟩ := Slots.get_set (P := Writing) hk hx ⟨a, hj, hw⟩
  exact ⟨q, List.mem_of_getElem? hq, hw⟩

theorem writing_set_other {l : List Attempt} {k : Nat} {x : Attempt} (h : ∃ a ∈ l.eraseIdx k, Writing a) :
    ∃ a ∈ l.set k x, Writing a := by
  obtain ⟨a, ha, hw⟩ := h
  obtain ⟨j, hj, ha⟩ := List.mem_eraseIdx_iff_getElem?.1 ha
  exact ⟨a, List.mem_of_getElem? (by rw [List.getElem?_set_ne (Ne.symm hj), ha]), hw⟩

theorem Writing.not_settled {a : Attempt} (h : Writing a) : ¬ a.Settled := by
  unfold Writing isWriting at h
  split at h
  · rename_i hp
    unfold Attempt.Settled
    rw [hp]
    exact fun hs => hs.2 rfl
  · cases h

/-! ## The invariant -/

/-- Whoever sees the main tab bar is signed in; whoever is signed in sees it, or is about to. -/
structure Inv (s : State) : Prop where
  main : s.window.MainVisible → s.SignedIn
  user : s.SignedIn → s.window.MainVisible ∨ ∃ a ∈ s.service.attempts, Writing a

variable {s s' : State}

theorem Inv.agrees (hi : Inv s) (hq : s.Quiet) : s.Agrees := by
  have hm : s.window.MainVisible ↔ s.SignedIn := by
    refine ⟨hi.main, fun hu => (hi.user hu).resolve_right ?_⟩
    rintro ⟨a, ha, hw⟩
    exact hw.not_settled (hq.2 a ha)
  exact ⟨hm, loginVisible_iff.trans (not_congr hm)⟩

theorem Inv.launch (service : Auth.State) : Inv (launch service) := by
  constructor
  · intro h
    unfold Session.launch Window.MainVisible at h
    unfold State.SignedIn
    by_cases hu : service.currentUser.isSome = true
    · exact hu
    · simp [hu] at h
  · intro h
    refine Or.inl (Or.inl ?_)
    exact if_pos h

theorem handle_some {e : Auth.Event} (h : s.handle e = some s') :
    ∃ service c, Auth.handle s.service e = some (service, c) ∧ s' = ⟨service, s.window.told c⟩ := by
  unfold State.handle at h
  obtain ⟨⟨service, c⟩, hs, rfl⟩ := Option.map_eq_some_iff.1 h
  exact ⟨service, c, hs, rfl⟩

/-- A step that changes neither the user nor whether the main tab bar is visible, and stops no write. -/
theorem Inv.congr (hi : Inv s) (hu : s'.service.currentUser = s.service.currentUser)
    (hm : s'.window.MainVisible ↔ s.window.MainVisible)
    (hw : (∃ a ∈ s.service.attempts, Writing a) → ∃ a ∈ s'.service.attempts, Writing a) : Inv s' := by
  constructor
  · intro h
    unfold State.SignedIn
    rw [hu]
    exact hi.main (hm.1 h)
  · intro h
    unfold State.SignedIn at h
    rw [hu] at h
    exact (hi.user h).imp hm.2 hw

theorem Inv.createUserReply (hi : Inv s) {k : Nat} {result : Except String String} {date : String}
    (h : s.handle (.createUserReply k result date) = some s') : Inv s' := by
  obtain ⟨service, c, hs, rfl⟩ := handle_some h
  obtain ⟨a, hk, hp, ⟨error, -, h⟩ | ⟨uid, -, -, h⟩⟩ := createUserReply_some hs
  · cases h
    refine hi.congr rfl present_alert (writing_set hk fun hw => ?_)
    unfold Writing at hw
    rw [hp] at hw; cases hw
  · cases h
    refine ⟨fun _ => rfl, fun _ => Or.inr ⟨_, List.mem_of_getElem? (Slots.getElem?_set_self hk), rfl⟩⟩

theorem Inv.commitReply (hi : Inv s) {k : Nat} {error : Option String}
    (h : s.handle (.commitReply k error) = some s') : Inv s' := by
  obtain ⟨service, c, hs, rfl⟩ := handle_some h
  obtain ⟨a, user, document, hk, hp, hc⟩ := commitReply_some hs
  have hw : Writing a → document = .inFlight := by
    intro hw
    unfold Writing at hw
    rw [hp] at hw
    cases document
    · rfl
    · cases hw
    · cases hw
  rcases hc with ⟨message, -, h⟩ | ⟨-, h⟩
  · cases h
    exact hi.congr rfl present_alert (writing_set hk fun h => by rw [hw h]; rfl)
  · cases h
    exact hi.congr rfl Iff.rfl (writing_set hk fun h => by rw [hw h]; rfl)

theorem Inv.documentReply (hi : Inv s) {k : Nat} {error : Option String} (hg : Followed s (.documentReply k error))
    (h : s.handle (.documentReply k error) = some s') : Inv s' := by
  obtain ⟨service, c, hs, rfl⟩ := handle_some h
  obtain ⟨a, user, commit, hk, -, ⟨message, rfl, hr⟩ | ⟨rfl, hr⟩⟩ := documentReply_some hs
  · cases hr
    refine ⟨fun hm => hi.main (present_alert.1 hm), fun hu => ?_⟩
    exact (hg hu).imp present_alert.2 writing_set_other
  · cases hr
    refine ⟨fun hm => ?_, fun hu => ?_⟩
    · exact (present_mainTabBar.1 hm).elim hi.main hg.2
    · rcases hg.1 hu with hm | hr | hw
      · exact Or.inl (present_mainTabBar.2 (Or.inl hm))
      · exact Or.inl (present_mainTabBar.2 (Or.inr hr))
      · exact Or.inr (writing_set_other hw)

theorem Inv.signInReply (hi : Inv s) {i : Nat} {result : Except String String} (hg : Followed s (.signInReply i result))
    (h : s.handle (.signInReply i result) = some s') : Inv s' := by
  obtain ⟨service, c, hs, rfl⟩ := handle_some h
  obtain ⟨error, -, rfl, rfl⟩ | ⟨uid, rfl, rfl, rfl⟩ := signInReply_some hs
  · exact hi.congr rfl present_alert id
  · refine ⟨fun _ => rfl, fun _ => ?_⟩
    rcases hg with hm | hr | hw
    · exact Or.inl (present_mainTabBar.2 (Or.inl hm))
    · exact Or.inl (present_mainTabBar.2 (Or.inr hr))
    · exact Or.inr hw

theorem Inv.step {e : Event} (hi : Inv s) (hg : Followed s e) (h : Session.step s e = some s') : Inv s' := by
  cases e with
  | launch => cases h; exact Inv.launch _
  | loginButtonPressed email password =>
    obtain ⟨-, h⟩ := Run.guard_bind.1 h
    split at h
    · cases h; exact hi
    · obtain ⟨service, c, hs, rfl⟩ := handle_some h
      cases hs; exact hi.congr rfl Iff.rfl id
  | createAccountTapped =>
    obtain ⟨hr, h⟩ := Run.guard_bind.1 h
    cases h
    refine hi.congr rfl (iff_of_false ?_ hr.not_mainVisible) id
    exact Window.Ready.not_mainVisible rfl
  | showLoginViewTapped =>
    obtain ⟨hr, h⟩ := Run.guard_bind.1 h
    cases h
    refine hi.congr rfl (iff_of_false ?_ hr.not_mainVisible) id
    exact Window.Ready.not_mainVisible rfl
  | createAccountButtonPressed username email password =>
    obtain ⟨-, h⟩ := Run.guard_bind.1 h
    split at h
    · cases h; exact hi
    · obtain ⟨service, c, hs, rfl⟩ := handle_some h
      cases hs
      refine hi.congr rfl Iff.rfl fun ⟨a, ha, hw⟩ => ⟨a, List.mem_append_left _ ha, hw⟩
  | okTapped =>
    have h : Session.okTapped s = some s' := h
    unfold Session.okTapped at h
    split at h
    · rename_i a hm
      cases h
      refine hi.congr rfl ?_ id
      unfold Window.MainVisible
      rw [hm]
      simp
    · cases h
  | signOutButtonPressed error =>
    obtain ⟨hm, h⟩ := Run.guard_bind.1 h
    obtain ⟨t, ht, h⟩ := Option.bind_eq_some_iff.1 h
    obtain ⟨service, c, hs, rfl⟩ := handle_some ht
    -- a sign-out that throws would leave the user signed in behind the log-in screen
    cases hg
    cases hs
    cases h
    exact ⟨fun hm => absurd hm (showLoginView_not_visible s.window), fun hu => by cases hu⟩
  | createUserReply k result date => exact hi.createUserReply h
  | commitReply k error => exact hi.commitReply h
  | documentReply k error => exact hi.documentReply hg h
  | signInReply i result => exact hi.signInReply hg h

/-! ## A step that is not followed -/

/-- The first step that is not followed leaves the screen and the session apart. -/
theorem Inv.not_agrees {e : Event} (hi : Inv s) (hg : ¬ Followed s e) (h : Session.step s e = some s') :
    ¬ s'.Agrees := by
  rintro ⟨hm, -⟩
  cases e with
  | signOutButtonPressed error =>
    obtain ⟨hv, h⟩ := Run.guard_bind.1 h
    obtain ⟨t, ht, h⟩ := Option.bind_eq_some_iff.1 h
    obtain ⟨service, c, hs, rfl⟩ := handle_some ht
    rcases error with _ | message
    · exact hg rfl
    · cases hs
      cases h
      exact showLoginView_not_visible s.window (hm.2 (hi.main hv))
  | signInReply i result =>
    obtain ⟨service, c, hs, rfl⟩ := handle_some h
    obtain ⟨error, rfl, -, -⟩ | ⟨uid, rfl, rfl, rfl⟩ := signInReply_some hs
    · exact hg trivial
    · rcases present_mainTabBar.1 (hm.2 rfl) with hv | hr
      · exact hg (Or.inl hv)
      · exact hg (Or.inr (Or.inl hr))
  | documentReply k error =>
    obtain ⟨service, c, hs, rfl⟩ := handle_some h
    obtain ⟨a, user, commit, hk, -, ⟨message, rfl, hr⟩ | ⟨rfl, hr⟩⟩ := documentReply_some hs
    · cases hr
      exact hg fun hu => Or.inl (present_alert.1 (hm.2 hu))
    · cases hr
      refine hg ⟨fun hu => ?_, fun hr => hm.1 (present_mainTabBar.2 (Or.inr hr))⟩
      rcases present_mainTabBar.1 (hm.2 hu) with hv | hr
      · exact Or.inl hv
      · exact Or.inr (Or.inl hr)
  | _ => exact hg trivial

/-! ## The visible screen agrees with the session -/

/-- Ann starts the app and signs up, up to the write of her document. -/
def sampleSession : List Event := [
  .createAccountTapped,
  .createAccountButtonPressed "Ann" "ann@mail.com" "secret",
  .createUserReply 0 (.ok "ann") "2019-03-27T10:00:00Z",
  .commitReply 0 none]

end PetIT.Session
