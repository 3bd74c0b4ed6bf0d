/-
Where the listeners of a session end. Every fetch that succeeds registers one, the Job List keeps the handle
of its last only, and the Map and the Profile never remove theirs. They stay one for each screen, and none is
left after a sign-out, in exactly the runs in which no screen is answered twice or too late, and the user
signs out with the Job List's listener registered and no other.
-/
import PetIT.Run.Basic
import PetIT.Listener.System

namespace PetIT.Listener

/-! ## Definitions -/

/-- `listener` has not been unwrapped unset, each screen has one listener at most, and no user none at all. -/
def State.Contained (s : State) : Prop :=
  s.trapped = false ∧ (∀ screen, s.registered.countP (·.screen = screen) ≤ 1) ∧
    (s.currentUser = none → s.registered = [])

/-- A user that is fetched finds the controller gone, or a session in which it has no listener yet. A user
who signs out finds the Job List's listener registered and no other; before the Job List has loaded, none. -/
def Clean (s : State) : Event → Prop
  | .fetchUserReply i (.ok (_ :: _)) => ∀ f ∈ s.fetches[i]?, s.isAlive f.screen = true →
      s.currentUser.isSome = true ∧ ∀ r ∈ s.registered, r.screen ≠ f.screen
  | .willSignOut none => (∀ r ∈ s.registered, r.screen = .jobList) ∧
      (s.signOutDelegate = true ↔ ∃ r ∈ s.registered, r.screen = .jobList)
  | _ => True

/-! ## What an event does -/

/-- An event that leaves the listeners and the user alone. -/
structure Frame (s s' : State) : Prop where
  trapped : s'.trapped = s.trapped
  currentUser : s'.currentUser = s.currentUser
  registered : s'.registered = s.registered
  nextId : s'.nextId = s.nextId
  listener : s'.listener .jobList = s.listener .jobList

/-- A listener is added for a screen; the Job List keeps its handle. -/
structure Added (s : State) (screen : Screen) (s' : State) : Prop where
  trapped : s'.trapped = s.trapped
  currentUser : s'.currentUser = s.currentUser
  registered : ∃ ownerId, s'.registered = s.registered ++ [⟨s.nextId, screen, ownerId⟩]
  nextId : s'.nextId = s.nextId + 1
  listener : s'.listener .jobList = if screen = .jobList then some s.nextId else s.listener .jobList

/-- What an event makes of the listeners. -/
inductive Change (s : State) : Event → State → Prop
  | frame {e s'} (he : Clean s e) (h : Frame s s') : Change s e s'
  | added {i d ds f s'} (hf : s.fetches[i]? = some f) (ha : s.isAlive f.screen = true) (h : Added s f.screen s') :
      Change s (.fetchUserReply i (.ok (d :: ds))) s'
  | signedOut {id} (hu : s.currentUser.isSome = true) (hd : s.signOutDelegate = true)
      (hl : s.listener .jobList = some id) : Change s (.willSignOut none)
      { s with currentUser := none, registered := s.registered.filter fun r => r.id ≠ id, loginShown := true }
  | signedOutNil (hu : s.currentUser.isSome = true) (hd : s.signOutDelegate = true)
      (hl : s.listener .jobList = none) : Change s (.willSignOut none)
      { s with currentUser := none, trapped := true, loginShown := true }
  | signedOutAlone (hu : s.currentUser.isSome = true) (hd : s.signOutDelegate = false) :
      Change s (.willSignOut none) { s with currentUser := none, loginShown := true }

variable {s s' : State} {e : Event} {screen : Screen}

theorem fetchUser_frame (s : State) (screen : Screen) : Frame s (s.fetchUser screen) := by
  unfold State.fetchUser
  split <;> exact ⟨rfl, rfl, rfl, rfl, rfl⟩

theorem viewDidLoad_frame (s : State) (screen : Screen) : Frame s (screen.viewDidLoad s) := by
  cases screen with
  | jobList =>
    have h := fetchUser_frame { s with signOutDelegate := true } .jobList
    exact ⟨h.trapped, h.currentUser, h.registered, h.nextId, h.listener⟩
  | map => exact fetchUser_frame s .map
  | profile => exact ⟨rfl, rfl, rfl, rfl, rfl⟩

theorem fetched_added (s : State) (screen : Screen) (user : UserModel) :
    Added s screen (screen.fetched s user) := by
  cases screen <;> exact ⟨rfl, rfl, ⟨_, rfl⟩, rfl, rfl⟩

theorem fetchUserReply_change {i : Nat} {reply : Except String (List Document)} {f : Fetch}
    (hf : s.fetches[i]? = some f)
    (h : (match UserModel.fetchUser reply with
      | none => some { s with fetches := s.fetches.eraseIdx i }
      | some result => some (State.completed { s with fetches := s.fetches.eraseIdx i } f.screen result)) =
        some s') : Change s (.fetchUserReply i reply) s' := by
  have hgone : s.isAlive f.screen ≠ true → Clean s (.fetchUserReply i reply) := by
    intro ha
    rcases reply with error | _ | ⟨d, ds⟩
    · trivial
    · trivial
    · intro f' hf' ha'
      rw [hf] at hf'
      cases hf'
      exact absurd ha' ha
  rcases reply with error | _ | ⟨d, ds⟩
  · cases h
    refine .frame trivial ?_
    unfold State.completed
    split <;> exact ⟨rfl, rfl, rfl, rfl, rfl⟩
  · cases h; exact .frame trivial ⟨rfl, rfl, rfl, rfl, rfl⟩
  · cases h
    by_cases ha : s.isAlive f.screen = true
    · have hc := fetched_added { s with fetches := s.fetches.eraseIdx i } f.screen (UserModel.ofDict d)
      unfold State.completed
      rw [if_pos ha]
      exact .added hf ha ⟨hc.trapped, hc.currentUser, hc.registered, hc.nextId, hc.listener⟩
    · unfold State.completed
      rw [if_neg ha]
      exact .frame (hgone ha) ⟨rfl, rfl, rfl, rfl, rfl⟩

theorem didSignOut_of_some {id : Nat} (h : s.listener .jobList = some id) : JobListViewController.didSignOut s =
    { s with registered := s.registered.filter fun r => r.id ≠ id, loginShown := true } := by
  unfold JobListViewController.didSignOut
  rw [h]

theorem didSignOut_of_none (h : s.listener .jobList = none) :
    JobListViewController.didSignOut s = { s with trapped := true } := by
  unfold JobListViewController.didSignOut
  rw [h]

theorem signOutAccount_change (hu : s.currentUser.isSome = true) :
    Change s (.willSignOut none) { signOutAccount s none with loginShown := true } := by
  unfold signOutAccount
  by_cases hd : s.signOutDelegate = true
  · rw [if_pos hd]
    cases hl : s.listener .jobList with
    | none =>
      rw [didSignOut_of_none (s := { s with currentUser := none }) hl]
      exact .signedOutNil hu hd hl
    | some id =>
      rw [didSignOut_of_some (s := { s with currentUser := none }) hl]
      exact .signedOut hu hd hl
  · rw [if_neg hd]
    exact .signedOutAlone hu (by simpa using hd)

theorem step_change (h : step s e = some s') : s.trapped = false ∧ Change s e s' := by
  obtain ⟨ht, h⟩ := Run.guard_bind.1 h
  refine ⟨ht, ?_⟩
  cases e with
  | viewDidLoad screen =>
    obtain ⟨-, h⟩ := Run.guard_bind.1 h
    cases h
    have hf := viewDidLoad_frame { s with isViewLoaded := Function.update s.isViewLoaded screen true } screen
    exact .frame trivial ⟨hf.trapped, hf.currentUser, hf.registered, hf.nextId, hf.listener⟩
  | viewDidAppear =>
    obtain ⟨-, h⟩ := Run.guard_bind.1 h
    cases h; exact .frame trivial (fetchUser_frame s .jobList)
  | viewWillAppear =>
    obtain ⟨-, h⟩ := Run.guard_bind.1 h
    cases h; exact .frame trivial (fetchUser_frame s .profile)
  | refresh =>
    obtain ⟨-, h⟩ := Run.guard_bind.1 h
    cases h; exact .frame trivial (fetchUser_frame s .jobList)
  | fetchUserReply i reply =>
    obtain ⟨f, hf, h⟩ := Option.bind_eq_some_iff.1 h
    exact fetchUserReply_change hf h
  | willSignOut error =>
    obtain ⟨hu, h⟩ := Run.guard_bind.1 h
    cases h
    rcases error with _ | message
    · exact signOutAccount_change hu
    · exact .frame trivial ⟨rfl, rfl, rfl, rfl, rfl⟩
  | release screen =>
    obtain ⟨-, h⟩ := Run.guard_bind.1 h
    cases h; exact .frame trivial ⟨rfl, rfl, rfl, rfl, rfl⟩

/-! ## The invariant -/

/-- As long as the user is signed in, the Job List's handle is that of its listener. -/
structure Inv (s : State) : Prop where
  fresh : ∀ r ∈ s.registered, r.id < s.nextId
  held : s.currentUser.isSome = true → ∀ r ∈ s.registered,
    (r.screen = .jobList ↔ s.listener .jobList = some r.id)
  kept : s.currentUser.isSome = true → ∀ id, s.listener .jobList = some id → ∃ r ∈ s.registered, r.id = id

theorem Inv.init (user : Option String) : Inv (State.init user) := by
  constructor <;> simp [State.init]

theorem Inv.frame (hi : Inv s) (h : Frame s s') : Inv s' := by
  obtain ⟨-, hu, hr, hn, hl⟩ := h
  constructor
  · rw [hr, hn]; exact hi.fresh
  · rw [hu, hr, hl]; exact hi.held
  · rw [hu, hr, hl]; exact hi.kept

/-- A listener added for a screen that has none. -/
theorem Inv.added (hi : Inv s) (hu : s.currentUser.isSome = true) (hs : ∀ r ∈ s.registered, r.screen ≠ screen)
    (h : Added s screen s') : Inv s' := by
  obtain ⟨-, hu', ⟨ownerId, hr⟩, hn, hl⟩ := h
  constructor
  · rw [hr, hn]
    intro r hr'
    rcases List.mem_append.1 hr' with hr' | hr'
    · exact Nat.lt_succ_of_lt (hi.fresh r hr')
    · rw [List.mem_singleton] at hr'
      subst hr'; exact Nat.lt_succ_self _
  · rw [hr, hl]
    intro _ r hmem
    rcases List.mem_append.1 hmem with hold | hnew
    · split
      · -- the new handle is the Job List's, and no listener before was
        rename_i hj
        refine iff_of_false (hj ▸ hs r hold) fun h => ?_
        exact (hi.fresh r hold).ne' (Option.some.inj h)
      · exact hi.held hu r hold
    · rw [List.mem_singleton] at hnew
      subst hnew
      split
      · rename_i hj
        exact iff_of_true hj rfl
      · rename_i hj
        refine iff_of_false hj fun h => ?_
        obtain ⟨r, hr, hid⟩ := hi.kept hu _ h
        exact (hi.fresh r hr).ne hid
  · rw [hr, hl]
    intro _ id h
    split at h
    · cases h
      exact ⟨_, List.mem_append_right _ (List.mem_singleton_self _), rfl⟩
    · obtain ⟨r, hr, hid⟩ := hi.kept hu id h
      exact ⟨r, List.mem_append_left _ hr, hid⟩

theorem Inv.step (hi : Inv s) (hg : Clean s e) (h : Listener.step s e = some s') : Inv s' := by
  obtain ⟨-, hc⟩ := step_change h
  cases hc with
  | frame _ hf => exact hi.frame hf
  | added hf ha hd => exact hi.added (hg _ hf ha).1 (hg _ hf ha).2 hd
  | signedOut => exact ⟨fun r hr => hi.fresh r (List.mem_filter.1 hr).1, nofun, nofun⟩
  | signedOutNil | signedOutAlone => exact ⟨hi.fresh, nofun, nofun⟩

/-! ## One event -/

theorem State.Contained.frame (hs : s.Contained) (h : Frame s s') : s'.Contained := by
  unfold State.Contained
  rw [h.trapped, h.currentUser, h.registered]
  exact hs

theorem contained_added (hs : s.Contained) (h : Added s screen s') :
    s'.Contained ↔ s.currentUser.isSome = true ∧ ∀ r ∈ s.registered, r.screen ≠ screen := by
  obtain ⟨ht, hc, hu⟩ := hs
  obtain ⟨ht', hu', ⟨ownerId, hr⟩, -, -⟩ := h
  -- one more for its own screen, and nothing takes it away again
  have hcount : ∀ c, s'.registered.countP (·.screen = c) =
      s.registered.countP (·.screen = c) + if screen = c then 1 else 0 := by
    intro c
    rw [hr, List.countP_append]
    simp [List.countP_cons]
  constructor
  · rintro ⟨-, hc', hn⟩
    refine ⟨Option.isSome_iff_ne_none.2 fun h => ?_, fun r hm hj => ?_⟩
    · have := hn (hu'.trans h)
      rw [hr] at this
      exact List.append_ne_nil_of_right_ne_nil _ (List.cons_ne_nil _ _) this
    · have h1 := hc' screen
      have h2 : 0 < s.registered.countP (·.screen = screen) := List.countP_pos_iff.2 ⟨r, hm, by simpa using hj⟩
      rw [hcount, if_pos rfl] at h1
      omega
  · rintro ⟨hsome, hn⟩
    refine ⟨ht'.trans ht, fun c => ?_, fun h => ?_⟩
    · rw [hcount]
      split
      · subst c
        rw [List.countP_eq_zero.2 (by simpa using hn)]
      · exact hc c
    · rw [hu'] at h
      rw [h] at hsome; cases hsome

theorem Inv.filter_eq_nil (hi : Inv s) (hu : s.currentUser.isSome = true) {id : Nat}
    (hl : s.listener .jobList = some id) :
    (s.registered.filter fun r => r.id ≠ id) = [] ↔ ∀ r ∈ s.registered, r.screen = .jobList := by
  rw [List.filter_eq_nil_iff]
  refine forall₂_congr fun r hr => ?_
  rw [hi.held hu r hr, hl, Option.some.injEq, eq_comm (a := id)]
  simp

/-- A sign-out leaves no listener when the Job List's is the only one. -/
theorem Inv.contained_signedOut (hi : Inv s) (ht : s.trapped = false) (hu : s.currentUser.isSome = true) {id : Nat}
    (hl : s.listener .jobList = some id) : State.Contained
      { s with currentUser := none, registered := s.registered.filter fun r => r.id ≠ id, loginShown := true } ↔
      ∀ r ∈ s.registered, r.screen = .jobList := by
  rw [← hi.filter_eq_nil hu hl]
  refine ⟨fun h => h.2.2 rfl, fun h => ⟨ht, fun c => ?_, fun _ => h⟩⟩
  dsimp only
  rw [h]
  exact Nat.zero_le _

/-- An event keeps the listeners contained exactly when it is clean. -/
theorem Change.contained_iff (hi : Inv s) (hs : s.Contained) (h : Change s e s') : s'.Contained ↔ Clean s e := by
  cases h with
  | frame he hf => exact iff_of_true (hs.frame hf) he
  | added hf ha hd =>
    rw [contained_added hs hd]
    refine ⟨fun h f' hf' _ => ?_, fun h => h _ hf ha⟩
    rw [hf] at hf'
    cases hf'; exact h
  | @signedOut id hu hd hl =>
    rw [hi.contained_signedOut hs.1 hu hl]
    -- the handle is that of a listener, so the Job List has one
    obtain ⟨r, hr, hid⟩ := hi.kept hu id hl
    have hj : r.screen = .jobList := (hi.held hu r hr).2 (hid ▸ hl)
    exact ⟨fun h => ⟨h, iff_of_true hd ⟨r, hr, hj⟩⟩, fun h => h.1⟩
  | signedOutNil hu hd hl =>
    refine iff_of_false (fun h => Bool.false_ne_true h.1.symm) ?_
    rintro ⟨-, hj⟩
    obtain ⟨r, hr, hj⟩ := hj.1 hd
    rw [hi.held hu r hr, hl] at hj
    cases hj
  | signedOutAlone hu hd =>
    constructor
    · rintro ⟨-, -, hn⟩
      have hn : s.registered = [] := hn rfl
      unfold Clean
      simp [hn, hd]
    · rintro ⟨hall, hj⟩
      have hn : s.registered = [] := by
        refine List.eq_nil_iff_forall_not_mem.2 fun r hr => ?_
        have := hj.2 ⟨r, hr, hall r hr⟩
        rw [hd] at this; cases this
      exact ⟨hs.1, hs.2.1, fun _ => hn⟩

/-! ## The listeners of a session -/

/-- Each screen has one listener at most and none is left when the user has signed out, in every state of a
run, exactly when each user that is fetched is fetched for a screen without a listener, in the session or
for a screen that is gone, and the user signs out with the Job List's listener registered and no other. -/
theorem listeners_contained (user : Option String) (es : List Event) :
    Run.Always step State.Contained (State.init user) es ↔ Run.Guarded step Clean (State.init user) es :=
  Run.always_iff_guarded (I := Inv) (fun _ _ _ hi _ hg h => hi.step hg h)
    (fun _ _ _ hi hs h => (step_change h).2.contained_iff hi hs) (Inv.init user) ⟨rfl, by simp [State.init]⟩

/-- The document of a user. -/
def sampleUser : Document := UserModel.createUser
  ⟨"ann", "Ann", "ann@mail.com", none, none, "2019-03-27T10:00:00Z", none, none, none, none, none, none⟩

/-- The Job List is loaded and appears, and the user is fetched both times. -/
def sampleLaunch : List Event := [
  .viewDidLoad .jobList, .viewDidAppear, .fetchUserReply 0 (.ok [sampleUser]), .fetchUserReply 0 (.ok [sampleUser])]

/-- The Job List has two listeners as soon as it is there. -/
theorem listeners_not_contained : ¬ ∀ user es, Run.Always step State.Contained (State.init user) es := by
  intro h
  have hx : (Run.exec step (State.init (some "ann")) sampleLaunch).map
      (fun s => s.registered.countP (·.screen = .jobList)) = some 2 := by
    decide
  obtain ⟨s, hs, hx⟩ := Option.map_eq_some_iff.1 hx
  have := ((h _ _).final hs).2.1 .jobList
  omega

end PetIT.Listener
