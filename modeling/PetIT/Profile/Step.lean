/-
What an event of the profile system can do to the accounts, the storage, the collection and the requests
in flight, whatever the screens show: `step_core` reads every event once.
-/
import PetIT.Profile.System
import PetIT.Run.Basic
import PetIT.Run.Slots

namespace PetIT.Profile

/-- The part of the state that outlives the screens. -/
structure Core where
  creates : List Create
  saves : List Save
  users : Store.Collection String String Value
  auth : String → AuthProfile
  puts : List (Put Nat)
  created : List UserModel
  commits : List (Applied AuthProfile)
  updates : List (Applied Document)

/-- The part of the state that the profiles depend on. -/
def State.core (s : State) : Core :=
  ⟨s.creates, s.saves, s.users, s.auth, s.puts, s.created, s.commits, s.updates⟩

/-- The save moves on. -/
def Core.setPhase (c : Core) (k : Nat) (p : Save) (phase : SavePhase) : Core :=
  { c with saves := c.saves.set k { p with phase := phase } }

/-- The upload of save `k`. -/
def Save.put (p : Save) (k : Nat) : Put Nat := ⟨k, p.captured.path, p.captured.imageData⟩

/-- What the event does to the core. -/
inductive CoreStep (resolve : String → Option String) (e : Event) (c : Core) : Core → Prop where
  | idle : CoreStep resolve e c c
  | called {user : UserModel} (he : e = .createUser user)
      (fresh : ∀ x ∈ c.creates, x.user.userId ≠ user.userId) (hn : c.users.lookup user.userId = none) :
      CoreStep resolve e c { c with creates := c.creates ++ [⟨user, .inFlight⟩] }
  | created {k : Nat} {x : Create} (he : e = .createUserReply k none) (hk : c.creates[k]? = some x)
      (hx : x.phase = .inFlight) :
      CoreStep resolve e c { c with
        users := c.users.setData x.user.userId x.user.createUser
        creates := c.creates.set k { x with phase := .applied }
        created := x.user :: c.created }
  | notCreated {k : Nat} {x : Create} (hk : c.creates[k]? = some x) (hx : x.phase = .inFlight) :
      CoreStep resolve e c { c with creates := c.creates.set k { x with phase := .failed } }
  | pressed {i : Nat} {cap : Captured} (he : e = .saveButtonPressed i (some cap.uid)) :
      CoreStep resolve e c { c with saves := c.saves ++ [⟨i, cap, .uploading⟩] }
  | uploaded {k : Nat} {p : Save} (hk : c.saves[k]? = some p) (hp : p.phase = .uploading) :
      CoreStep resolve e c { c.setPhase k p .fetchingURL with puts := p.put k :: c.puts }
  | uploadFailed {k : Nat} {p : Save} (hk : c.saves[k]? = some p) (hp : p.phase = .uploading) :
      CoreStep resolve e c (c.setPhase k p .failed)
  | linked {k : Nat} {p : Save} {url : String} (hk : c.saves[k]? = some p) (hp : p.phase = .fetchingURL)
      (hurl : resolve url = some p.captured.path) :
      CoreStep resolve e c (c.setPhase k p (.writing url .inFlight .inFlight))
  | linkFailed {k : Nat} {p : Save} {message : String} (he : e = .downloadURLReply k (.error message))
      (hk : c.saves[k]? = some p) (hp : p.phase = .fetchingURL) :
      CoreStep resolve e c (c.setPhase k p .failed)
  | committed {k : Nat} {p : Save} {url : String} {update : Half} (he : e = .commitReply k none)
      (hk : c.saves[k]? = some p) (hp : p.phase = .writing url .inFlight update) :
      CoreStep resolve e c { c.setPhase k p (.writing url .applied update) with
        auth := Function.update c.auth p.captured.uid (p.captured.changeRequest url)
        commits := ⟨k, p.captured.uid, p.captured.changeRequest url⟩ :: c.commits }
  | commitFailed {k : Nat} {p : Save} {url message : String} {update : Half}
      (he : e = .commitReply k (some message)) (hk : c.saves[k]? = some p)
      (hp : p.phase = .writing url .inFlight update) :
      CoreStep resolve e c (c.setPhase k p (.writing url .failed update))
  | updated {k : Nat} {p : Save} {url : String} {commit : Half} {d : Document} (he : e = .updateReply k none)
      (hk : c.saves[k]? = some p) (hp : p.phase = .writing url commit .inFlight)
      (hd : c.users.lookup p.captured.uid = some d) :
      CoreStep resolve e c { c.setPhase k p (.writing url commit .applied) with
        users := c.users.setData p.captured.uid (d.merge (p.captured.updateData url))
        updates := ⟨k, p.captured.uid, p.captured.updateData url⟩ :: c.updates }
  | updateFailed {k : Nat} {p : Save} {url message : String} {commit : Half}
      (he : e = .updateReply k (some message)) (hk : c.saves[k]? = some p)
      (hp : p.phase = .writing url commit .inFlight) :
      CoreStep resolve e c (c.setPhase k p (.writing url commit .failed))

/-! ## Reading the handlers -/

variable {resolve : String → Option String} {s s' : State}

theorem createUser_some {user : UserModel} (h : createUser s user = some s') :
    (∀ c ∈ s.creates, c.user.userId ≠ user.userId) ∧ s.users.lookup user.userId = none ∧
      s' = { s with creates := s.creates ++ [⟨user, .inFlight⟩] } := by
  unfold createUser at h
  obtain ⟨hg, h⟩ := Run.guard_bind.1 h
  cases h; exact ⟨hg.1, hg.2, rfl⟩

theorem createUserReply_some {k : Nat} {error : Option String} (h : createUserReply s k error = some s') :
    ∃ c, s.creates[k]? = some c ∧ c.phase = .inFlight ∧
      ((error = none ∧ s' = { s with
          users := s.users.setData c.user.userId c.user.createUser
          creates := s.creates.set k { c with phase := .applied }
          created := c.user :: s.created }) ∨
       (∃ message, error = some message ∧
          s' = { s with creates := s.creates.set k { c with phase := .failed } })) := by
  unfold createUserReply at h
  obtain ⟨c, hc, h⟩ := Option.bind_eq_some_iff.1 h
  obtain ⟨hg, h⟩ := Run.guard_bind.1 h
  refine ⟨c, hc, hg, ?_⟩
  rcases error with _ | message
  · cases h; exact Or.inl ⟨rfl, rfl⟩
  · cases h; exact Or.inr ⟨message, rfl, rfl⟩

theorem touch_some {i : Nat} {t : Touch} (h : touch s i t = some s') :
    ∃ scr scr', s.screens[i]? = some scr ∧ scr.touch t = some scr' ∧
      s' = { s with screens := s.screens.set i scr' } := by
  unfold touch at h
  obtain ⟨scr, hscr, h⟩ := Option.bind_eq_some_iff.1 h
  obtain ⟨scr', ht, h⟩ := Option.bind_eq_some_iff.1 h
  cases h; exact ⟨scr, scr', hscr, ht, rfl⟩

/-- A save is one of the user who was signed in. -/
theorem capture_uid {scr : EditScreen} {u : Option String} {cap : Captured} (h : scr.capture u = some cap) :
    u = some cap.uid := by
  unfold EditScreen.capture at h
  split at h
  · split at h <;> cases h
    rfl
  · cases h

theorem saveButtonPressed_some {i : Nat} {u : Option String} (h : saveButtonPressed s i u = some s') :
    ∃ scr, s.screens[i]? = some scr ∧ scr.saveEnabled = true ∧ scr.Live ∧
      ((scr.capture u = none ∧ s'.core = s.core) ∨
       (∃ cap, scr.capture u = some cap ∧
          s' = { s with
            screens := s.screens.set i { scr with saveEnabled := false }
            saves := s.saves ++ [⟨i, cap, .uploading⟩] })) := by
  unfold saveButtonPressed at h
  obtain ⟨scr, hscr, h⟩ := Option.bind_eq_some_iff.1 h
  obtain ⟨⟨h1, h2⟩, h⟩ := Run.guard_bind.1 h
  refine ⟨scr, hscr, h1, h2, ?_⟩
  dsimp only at h
  split at h
  · rename_i hc; cases h; exact Or.inl ⟨hc, rfl⟩
  · rename_i cap hc; cases h; exact Or.inr ⟨cap, hc, rfl⟩

theorem uploadReply_some {k : Nat} {ok : Bool} (h : uploadReply s k ok = some s') :
    ∃ p, s.saves[k]? = some p ∧ p.phase = .uploading ∧
      s' = if ok then { s.setPhase k p .fetchingURL with puts := p.put k :: s.puts }
        else s.setPhase k p .failed := by
  unfold uploadReply at h
  obtain ⟨p, hp, h⟩ := Option.bind_eq_some_iff.1 h
  obtain ⟨hg, h⟩ := Run.guard_bind.1 h
  refine ⟨p, hp, hg, ?_⟩
  cases ok <;> cases h <;> rfl

theorem downloadURLReply_some {k : Nat} {reply : Except String String}
    (h : downloadURLReply resolve s k reply = some s') :
    ∃ p, s.saves[k]? = some p ∧ p.phase = .fetchingURL ∧
      ((∃ message, reply = .error message ∧
          s' = (s.setPhase k p .failed).showAlert p.screen ⟨"Error Saving Photo", message⟩) ∨
       (∃ url, reply = .ok url ∧ resolve url = some p.captured.path ∧
          s'.core = (s.setPhase k p (.writing url .inFlight .inFlight)).core)) := by
  unfold downloadURLReply at h
  obtain ⟨p, hp, h⟩ := Option.bind_eq_some_iff.1 h
  obtain ⟨hg, h⟩ := Run.guard_bind.1 h
  refine ⟨p, hp, hg, ?_⟩
  rcases reply with message | url
  · cases h; exact Or.inl ⟨message, rfl, rfl⟩
  · obtain ⟨hr, h⟩ := Run.guard_bind.1 h
    cases h; exact Or.inr ⟨url, rfl, hr, rfl⟩

theorem commitReply_some {k : Nat} {error : Option String} (h : commitReply s k error = some s') :
    ∃ p url update, s.saves[k]? = some p ∧ p.phase = .writing url .inFlight update ∧
      ((error = none ∧ s' = { s.setPhase k p (.writing url .applied update) with
          auth := Function.update s.auth p.captured.uid (p.captured.changeRequest url)
          commits := ⟨k, p.captured.uid, p.captured.changeRequest url⟩ :: s.commits }) ∨
       (∃ message, error = some message ∧ s' = (s.setPhase k p (.writing url .failed update)).showAlert
          p.screen ⟨"Error Saving Account Info", message⟩)) := by
  unfold commitReply at h
  obtain ⟨p, hp, h⟩ := Option.bind_eq_some_iff.1 h
  split at h
  · rename_i url update hph
    refine ⟨p, url, update, hp, hph, ?_⟩
    rcases error with _ | message
    · cases h; exact Or.inl ⟨rfl, rfl⟩
    · cases h; exact Or.inr ⟨message, rfl, rfl⟩
  · cases h

theorem updateReply_some {k : Nat} {error : Option String} (h : updateReply s k error = some s') :
    ∃ p url commit, s.saves[k]? = some p ∧ p.phase = .writing url commit .inFlight ∧
      ((error = none ∧ ∃ d, s.users.lookup p.captured.uid = some d ∧
          s' = { s.setPhase k p (.writing url commit .applied) with
            users := s.users.setData p.captured.uid (d.merge (p.captured.updateData url))
            updates := ⟨k, p.captured.uid, p.captured.updateData url⟩ :: s.updates }) ∨
       (∃ message, error = some message ∧ s' = (s.setPhase k p (.writing url commit .failed)).showAlert
          p.screen ⟨"Error Saving Account Info", message⟩)) := by
  unfold updateReply at h
  obtain ⟨p, hp, h⟩ := Option.bind_eq_some_iff.1 h
  split at h
  · rename_i url commit hph
    refine ⟨p, url, commit, hp, hph, ?_⟩
    rcases error with _ | message
    · obtain ⟨c, hc, h⟩ := Option.bind_eq_some_iff.1 h
      obtain ⟨d, hd, rfl⟩ := Store.Collection.updateData_eq_some.1 hc
      cases h; exact Or.inl ⟨rfl, d, hd, rfl⟩
    · cases h; exact Or.inr ⟨message, rfl, rfl⟩
  · cases h

/-! ## Every event, once -/

theorem step_core {e : Event} (h : step resolve s e = some s') : CoreStep resolve e s.core s'.core := by
  cases e with
  | createUser user =>
    obtain ⟨hf, hn, rfl⟩ := createUser_some h
    exact .called rfl hf hn
  | createUserReply k error =>
    obtain ⟨c, hk, hc, ⟨rfl, rfl⟩ | ⟨m, -, rfl⟩⟩ := createUserReply_some h
    · exact .created rfl hk hc
    · exact .notCreated hk hc
  | openEdit owner => cases h; exact .idle
  | touch i t =>
    obtain ⟨scr, scr', -, -, rfl⟩ := touch_some h
    exact .idle
  | saveButtonPressed i u =>
    obtain ⟨scr, -, -, -, ⟨-, hc⟩ | ⟨cap, hcap, rfl⟩⟩ := saveButtonPressed_some h
    · rw [hc]; exact .idle
    · exact .pressed (by rw [capture_uid hcap])
  | uploadReply k ok =>
    obtain ⟨p, hk, hp, rfl⟩ := uploadReply_some h
    cases ok
    · exact .uploadFailed hk hp
    · exact .uploaded hk hp
  | downloadURLReply k reply =>
    obtain ⟨p, hk, hp, ⟨m, rfl, rfl⟩ | ⟨url, -, hurl, hc⟩⟩ := downloadURLReply_some h
    · exact .linkFailed rfl hk hp
    · rw [hc]; exact .linked hk hp hurl
  | commitReply k error =>
    obtain ⟨p, url, u, hk, hp, ⟨rfl, rfl⟩ | ⟨m, rfl, rfl⟩⟩ := commitReply_some h
    · exact .committed rfl hk hp
    · exact .commitFailed rfl hk hp
  | updateReply k error =>
    obtain ⟨p, url, c, hk, hp, ⟨rfl, d, hd, rfl⟩ | ⟨m, rfl, rfl⟩⟩ := updateReply_some h
    · exact .updated rfl hk hp hd
    · exact .updateFailed rfl hk hp

end PetIT.Profile
