/-
The spinner of the Job List. A pull starts it, and so does every listener that is registered; a listener that calls
back queues a block that stops it. So a pull after which no listener is registered leaves it turning, until some
listener of before happens to call back.
-/
import PetIT.Listener.Contained

namespace PetIT.Listener

namespace Refresh

/-! ## State -/

/-- The listeners, with the Job List's `refreshControl`. -/
structure State where
  base : Listener.State
  refreshing : Bool := false
  /-- the blocks in the main queue that end the refreshing -/
  endBlocks : Nat := 0
  /-- the listeners of the Job List that have called back -/
  reported : List Nat := []

/-- No listener has called back, and nothing is refreshing. -/
def State.init (user : Option String) : State := { base := .init user }

/-- An event of the listeners, a callback of one of them, or a block that ends the refreshing. -/
inductive Event where
  | base (e : Listener.Event)
  /-- a listener's callback, with a snapshot or with an error -/
  | report (id : Nat)
  | endRefreshing

/-- The event is a reply that registers a listener for the Job List, which is there. -/
def begins (s : Listener.State) : Listener.Event → Bool
  | .fetchUserReply i (.ok (_ :: _)) =>
    match s.fetches[i]? with
    | some f => f.screen = .jobList && s.isAlive .jobList
    | none => false
  | _ => false

/-- What can happen next. The control is pulled when it is not refreshing. -/
def step (s : State) : Event → Option State
  | .base .refresh => do
    guard (s.refreshing = false)
    let base ← Listener.step s.base .refresh
    some { s with base := base, refreshing := true }
  | .base e => do
    let base ← Listener.step s.base e
    some { s with base := base, refreshing := s.refreshing || begins s.base e }
  | .report id => do
    guard (s.base.trapped = false ∧ ∃ r ∈ s.base.registered, r.id = id ∧ r.screen = .jobList)
    some { s with endBlocks := s.endBlocks + 1, reported := s.reported ++ [id] }
  | .endRefreshing => do
    guard (s.base.trapped = false ∧ 0 < s.endBlocks)
    -- the block holds the controller weakly
    some { s with endBlocks := s.endBlocks - 1, refreshing := s.refreshing && !s.base.isAlive .jobList }

/-- Every listener of the Job List has called back, and its blocks have run. -/
structure State.Quiet (s : State) : Prop where
  endBlocks : s.endBlocks = 0
  reported : ∀ r ∈ s.base.registered, r.screen = .jobList → r.id ∈ s.reported

/-- A pull that has come to nothing: no block has ended the refreshing since, and no listener has been registered
for the Job List. -/
def Stuck (user : Option String) (es : List Event) (s : State) : Prop :=
  ∃ before since t, es = before ++ .base .refresh :: since ∧
    Run.exec step (State.init user) (before ++ [.base .refresh]) = some t ∧ (∀ e ∈ since, e ≠ .endRefreshing) ∧
    ∀ r ∈ s.base.registered, r.screen = .jobList → r ∈ t.base.registered

/-! ## The listeners below -/

variable {b b' : Listener.State} {e : Listener.Event}

/-- What an event makes of the Job List's listeners as long as the Job List is on screen. -/
inductive Listed (b : Listener.State) (e : Listener.Event) (b' : Listener.State) : Prop
  | same (hb : begins b e = false) (hn : b.nextId ≤ b'.nextId)
      (hr : ∀ r : Registration, r.screen = .jobList → (r ∈ b'.registered ↔ r ∈ b.registered))
  | added {ownerId : Option String} (hb : begins b e = true) (hn : b'.nextId = b.nextId + 1)
      (hr : b'.registered = b.registered ++ [⟨b.nextId, .jobList, ownerId⟩])

theorem fetchUser_kept (b : Listener.State) (screen : Screen) :
    (b.fetchUser screen).loginShown = b.loginShown ∧ (b.fetchUser screen).isAlive = b.isAlive := by
  unfold Listener.State.fetchUser
  split <;> exact ⟨rfl, rfl⟩

theorem viewDidLoad_kept (b : Listener.State) (screen : Screen) :
    (screen.viewDidLoad b).loginShown = b.loginShown ∧ (screen.viewDidLoad b).isAlive = b.isAlive := by
  cases screen with
  | jobList => exact fetchUser_kept { b with signOutDelegate := true } .jobList
  | map => exact fetchUser_kept b .map
  | profile => exact ⟨rfl, rfl⟩

theorem completed_kept (b : Listener.State) (screen : Screen) (result : Except String UserModel) :
    (b.completed screen result).loginShown = b.loginShown ∧ (b.completed screen result).isAlive = b.isAlive := by
  unfold Listener.State.completed
  split
  · cases result with
    | error => exact ⟨rfl, rfl⟩
    | ok user => cases screen <;> exact ⟨rfl, rfl⟩
  · exact ⟨rfl, rfl⟩

/-- The tab bar is there as long as the log-in screen is not, and so are its controllers. -/
theorem step_kept (h : Listener.step b e = some b') (hs : b'.loginShown = false) :
    b.loginShown = false ∧ b'.isAlive = b.isAlive := by
  obtain ⟨-, h⟩ := Run.guard_bind.1 h
  cases e with
  | viewDidLoad screen =>
    obtain ⟨-, h⟩ := Run.guard_bind.1 h
    cases h
    have hk := viewDidLoad_kept { b with isViewLoaded := Function.update b.isViewLoaded screen true } screen
    exact ⟨hk.1.symm.trans hs, hk.2⟩
  | viewDidAppear =>
    obtain ⟨-, h⟩ := Run.guard_bind.1 h
    cases h
    have hk := fetchUser_kept b .jobList
    exact ⟨hk.1.symm.trans hs, hk.2⟩
  | viewWillAppear =>
    obtain ⟨-, h⟩ := Run.guard_bind.1 h
    cases h
    have hk := fetchUser_kept b .profile
    exact ⟨hk.1.symm.trans hs, hk.2⟩
  | refresh =>
    obtain ⟨-, h⟩ := Run.guard_bind.1 h
    cases h
    have hk := fetchUser_kept b .jobList
    exact ⟨hk.1.symm.trans hs, hk.2⟩
  | fetchUserReply i reply =>
    obtain ⟨f, -, h⟩ := Option.bind_eq_some_iff.1 h
    dsimp only at h
    split at h
    · cases h; exact ⟨hs, rfl⟩
    · rename_i result hr
      cases h
      have hk := completed_kept { b with fetches := b.fetches.eraseIdx i } f.screen result
      exact ⟨hk.1.symm.trans hs, hk.2⟩
  | willSignOut error =>
    obtain ⟨-, h⟩ := Run.guard_bind.1 h
    cases h; cases hs
  | release screen =>
    obtain ⟨⟨hl, -⟩, h⟩ := Run.guard_bind.1 h
    cases h
    rw [hl] at hs; cases hs

theorem Frame.listed (h : Frame b b') (hb : begins b e = false) : Listed b e b' :=
  .same hb h.nextId.ge fun r _ => by rw [h.registered]

theorem begins_reply {i : Nat} {d : Document} {ds : List Document} {f : Fetch} (hf : b.fetches[i]? = some f) :
    begins b (.fetchUserReply i (.ok (d :: ds))) = (f.screen = .jobList && b.isAlive .jobList) := by
  simp only [begins, hf]

theorem fetchUserReply_listed {i : Nat} {d : Document} {ds : List Document} {f : Fetch}
    (hf : b.fetches[i]? = some f) : Listed b (.fetchUserReply i (.ok (d :: ds)))
      (Listener.State.completed { b with fetches := b.fetches.eraseIdx i } f.screen (.ok (UserModel.ofDict d))) := by
  unfold Listener.State.completed
  by_cases ha : b.isAlive f.screen = true
  · obtain ⟨-, -, ⟨ownerId, hr⟩, hn, -⟩ :=
      fetched_added { b with fetches := b.fetches.eraseIdx i } f.screen (UserModel.ofDict d)
    rw [if_pos ha]
    by_cases hj : f.screen = .jobList
    · rw [hj] at ha hr hn ⊢
      exact .added ((begins_reply hf).trans (by simp [hj, ha])) hn hr
    · refine .same ((begins_reply hf).trans (by simp [hj])) (hn ▸ Nat.le_succ _) fun r hrj => ?_
      rw [hr, List.mem_append, List.mem_singleton, or_iff_left]
      rintro rfl
      exact hj hrj
  · rw [if_neg ha]
    refine .same ((begins_reply hf).trans ?_) le_rfl fun r _ => Iff.rfl
    by_cases hj : f.screen = .jobList
    · rw [hj] at ha
      simp [ha]
    · simp [hj]

theorem step_listed (h : Listener.step b e = some b') (hs : b'.loginShown = false) : Listed b e b' := by
  have hchange := (step_change h).2
  cases e with
  | viewDidLoad | viewDidAppear | viewWillAppear | refresh =>
    cases hchange with
    | frame _ hf => exact Frame.listed hf rfl
  | fetchUserReply i reply =>
    obtain ⟨-, h⟩ := Run.guard_bind.1 h
    obtain ⟨f, hf, h⟩ := Option.bind_eq_some_iff.1 h
    rcases reply with message | _ | ⟨d, ds⟩
    · cases h
      unfold Listener.State.completed
      split <;> exact .same rfl le_rfl fun r _ => Iff.rfl
    · cases h; exact .same rfl le_rfl fun r _ => Iff.rfl
    · cases h; exact fetchUserReply_listed hf
  | willSignOut error =>
    obtain ⟨-, h⟩ := Run.guard_bind.1 h
    obtain ⟨-, h⟩ := Run.guard_bind.1 h
    cases h; cases hs
  | release screen =>
    obtain ⟨-, h⟩ := Run.guard_bind.1 h
    obtain ⟨⟨hl, -⟩, h⟩ := Run.guard_bind.1 h
    cases h
    rw [hl] at hs; cases hs

/-! ## What the events make of the spinner -/

variable {user : Option String} {s s' : State} {es : List Event} {f : Event}

/-- A pull with no block since. -/
def Pulled (es : List Event) : Prop :=
  ∃ before since, es = before ++ .base .refresh :: since ∧ ∀ e ∈ since, e ≠ .endRefreshing

/-- A listener of the Job List has not called back. -/
def State.Unreported (s : State) : Prop := ∃ r ∈ s.base.registered, r.screen = .jobList ∧ r.id ∉ s.reported

/-- The events behind the spinner, as long as the Job List is on screen. -/
structure Traced (user : Option String) (es : List Event) (s : State) : Prop where
  alive : s.base.isAlive .jobList = true
  fresh : ∀ r ∈ s.base.registered, r.screen = .jobList → r.id < s.base.nextId
  reported : ∀ id ∈ s.reported, id < s.base.nextId
  pulled : Pulled es → s.refreshing = true
  refreshing : s.refreshing = true → Stuck user es s ∨ 0 < s.endBlocks ∨ s.Unreported

theorem Pulled.of_concat (h : Pulled (es ++ [f])) : f = .base .refresh ∨ f ≠ .endRefreshing ∧ Pulled es := by
  obtain ⟨before, since, hes, hn⟩ := h
  rcases List.eq_nil_or_concat since with rfl | ⟨since, g, rfl⟩
  · obtain ⟨-, hg⟩ := List.append_inj' hes rfl
    exact Or.inl (List.head_eq_of_cons_eq hg)
  · rw [List.concat_eq_append] at hes hn
    rw [← List.cons_append, ← List.append_assoc] at hes
    obtain ⟨hes', hg⟩ := List.append_inj' hes rfl
    rw [List.head_eq_of_cons_eq hg]
    exact Or.inr ⟨hn g (by simp), before, since, hes', fun e he => hn e (List.mem_append_left _ he)⟩

/-- A pull that has come to nothing still has when no listener is registered. -/
theorem Stuck.concat (h : Stuck user es s) (hf : f ≠ .endRefreshing)
    (hr : ∀ r ∈ s'.base.registered, r.screen = .jobList → r ∈ s.base.registered) : Stuck user (es ++ [f]) s' := by
  obtain ⟨before, since, t, hes, ht, hn, hreg⟩ := h
  obtain ⟨hes, hn⟩ := Run.last_concat (Q := (· = .endRefreshing)) hes hn hf
  exact ⟨before, since ++ [f], t, hes, ht, hn, fun r hr' hj => hreg r (hr r hr' hj) hj⟩

theorem Traced.init (user : Option String) : Traced user [] (State.init user) :=
  ⟨rfl, nofun, nofun, by rintro ⟨before, since, hes, -⟩; simp at hes, nofun⟩

/-- An event of the listeners. -/
theorem Traced.base {e : Listener.Event} {base : Listener.State} {refreshing : Bool} (h : Traced user es s)
    (hb : Listener.step s.base e = some base) (hs : base.loginShown = false)
    (hpulled : Pulled (es ++ [.base e]) → refreshing = true)
    (hrefreshing : refreshing = true → begins s.base e = false →
      s.refreshing = true ∨ Stuck user (es ++ [.base e]) { s with base := base, refreshing := refreshing }) :
    Traced user (es ++ [.base e]) { s with base := base, refreshing := refreshing } := by
  have halive : base.isAlive .jobList = true := by rw [(step_kept hb hs).2, h.alive]
  cases step_listed hb hs with
  | same hbegins hn hr =>
    refine ⟨halive, fun r hr' hj => (h.fresh r ((hr r hj).1 hr') hj).trans_le hn,
      fun id hid => (h.reported id hid).trans_le hn, hpulled, fun href => ?_⟩
    rcases hrefreshing href hbegins with href | hstuck
    · rcases h.refreshing href with hstuck | hend | ⟨r, hr', hj, hrep⟩
      · exact Or.inl (hstuck.concat nofun fun r hr' hj => (hr r hj).1 hr')
      · exact Or.inr (Or.inl hend)
      · exact Or.inr (Or.inr ⟨r, (hr r hj).2 hr', hj, hrep⟩)
    · exact Or.inl hstuck
  | added hbegins hn hr =>
    refine ⟨halive, fun r hr' hj => ?_, fun id hid => ?_, hpulled, fun _ => Or.inr (Or.inr ?_)⟩
    · rw [hn]
      rw [hr, List.mem_append, List.mem_singleton] at hr'
      rcases hr' with hr' | rfl
      · exact Nat.lt_succ_of_lt (h.fresh r hr' hj)
      · exact Nat.lt_succ_self _
    · rw [hn]
      exact Nat.lt_succ_of_lt (h.reported id hid)
    · -- the new listener has not called back yet
      refine ⟨_, hr ▸ List.mem_append_right _ (List.mem_singleton_self _), rfl, fun hrep => ?_⟩
      exact absurd (h.reported _ hrep) (Nat.lt_irrefl _)

theorem Traced.other {e : Listener.Event} {base : Listener.State} (h : Traced user es s)
    (hb : Listener.step s.base e = some base) (hs : base.loginShown = false) (he : e ≠ .refresh) :
    Traced user (es ++ [.base e]) { s with base := base, refreshing := s.refreshing || begins s.base e } := by
  refine h.base hb hs (fun hp => ?_) fun href hbegins => ?_
  · rcases hp.of_concat with hp | ⟨-, hp⟩
    · cases hp; exact absurd rfl he
    · rw [h.pulled hp, Bool.true_or]
  · rw [hbegins, Bool.or_false] at href
    exact Or.inl href

theorem Traced.pull {base : Listener.State} (h : Traced user es s)
    (hexec : Run.exec step (State.init user) (es ++ [.base .refresh]) =
      some { s with base := base, refreshing := true })
    (hb : Listener.step s.base .refresh = some base) (hs : base.loginShown = false) :
    Traced user (es ++ [.base .refresh]) { s with base := base, refreshing := true } :=
  h.base hb hs (fun _ => rfl) fun _ _ => Or.inr ⟨es, [], _, rfl, hexec, by simp, fun _ hr _ => hr⟩

/-- A callback queues a block. -/
theorem Traced.report (h : Traced user es s) {id : Nat} {r : Registration} (hr : r ∈ s.base.registered)
    (hid : r.id = id) (hj : r.screen = .jobList) : Traced user (es ++ [.report id])
      { s with endBlocks := s.endBlocks + 1, reported := s.reported ++ [id] } := by
  refine ⟨h.alive, h.fresh, fun id' hid' => ?_, fun hp => ?_, fun _ => Or.inr (Or.inl (Nat.succ_pos _))⟩
  · rcases List.mem_append.1 hid' with hid' | hid'
    · exact h.reported id' hid'
    · rw [List.mem_singleton] at hid'
      subst hid'
      rw [← hid]
      exact h.fresh r hr hj
  · rcases hp.of_concat with hp | ⟨-, hp⟩
    · cases hp
    · exact h.pulled hp

theorem Traced.endRefreshing (h : Traced user es s) (n : Nat) : Traced user (es ++ [.endRefreshing])
    { s with endBlocks := n, refreshing := s.refreshing && !s.base.isAlive .jobList } := by
  refine ⟨h.alive, h.fresh, h.reported, fun hp => ?_, fun href => ?_⟩
  · rcases hp.of_concat with hp | ⟨hp, -⟩
    · cases hp
    · exact absurd rfl hp
  · rw [h.alive, Bool.not_true, Bool.and_false] at href
    cases href

theorem Traced.step (h : s.base.loginShown = false → Traced user es s)
    (hexec : Run.exec step (State.init user) (es ++ [f]) = some s') (hstep : step s f = some s')
    (hs : s'.base.loginShown = false) : Traced user (es ++ [f]) s' := by
  cases f with
  | base e =>
    by_cases he : e = .refresh
    · subst he
      obtain ⟨-, hstep⟩ := Run.guard_bind.1 hstep
      obtain ⟨base, hb, hstep⟩ := Option.bind_eq_some_iff.1 hstep
      cases hstep
      exact (h (step_kept hb hs).1).pull hexec hb hs
    · have hbase : ∃ base, Listener.step s.base e = some base ∧
          s' = { s with base := base, refreshing := s.refreshing || begins s.base e } := by
        cases e with
        | refresh => exact absurd rfl he
        | _ =>
          obtain ⟨base, hb, hstep⟩ := Option.bind_eq_some_iff.1 hstep
          cases hstep; exact ⟨base, hb, rfl⟩
      obtain ⟨base, hb, rfl⟩ := hbase
      exact (h (step_kept hb hs).1).other hb hs he
  | report id =>
    obtain ⟨⟨-, r, hr, hid, hj⟩, hstep⟩ := Run.guard_bind.1 hstep
    cases hstep
    exact (h hs).report hr hid hj
  | endRefreshing =>
    obtain ⟨-, hstep⟩ := Run.guard_bind.1 hstep
    cases hstep
    exact (h hs).endRefreshing _

theorem traced_of_exec (h : Run.exec step (State.init user) es = some s) (hs : s.base.loginShown = false) :
    Traced user es s := by
  refine Run.exec_trace (H := fun es s => s.base.loginShown = false → Traced user es s) (fun _ => .init user) ?_ h hs
  exact fun pre s f s' hpre ht hstep => Traced.step ht (Run.exec_concat.2 ⟨s, hpre, hstep⟩) hstep

/-! ## When the spinner turns -/

/-- In every run, as long as the Job List is on screen: once every listener of it has called back and its blocks have
run, the spinner turns exactly if the user has pulled and no listener of the Job List has been registered and no
block has run since. -/
theorem spinner_iff (user : Option String) (es : List Event) (s : State)
    (h : Run.exec step (State.init user) es = some s) (hs : s.base.loginShown = false) (hq : s.Quiet) :
    s.refreshing = true ↔ Stuck user es s := by
  have ht := traced_of_exec h hs
  constructor
  · intro href
    rcases ht.refreshing href with hstuck | hend | ⟨r, hr, hj, hrep⟩
    · exact hstuck
    · rw [hq.endBlocks] at hend
      exact absurd hend (Nat.lt_irrefl 0)
    · exact absurd (hq.reported r hr hj) hrep
  · rintro ⟨before, since, t, hes, -, hn, -⟩
    exact ht.pulled ⟨before, since, hes, hn⟩

/-- The Job List is loaded, and its first listener calls back. -/
def sampleLoad : List Event := [
  .base (.viewDidLoad .jobList), .base (.fetchUserReply 0 (.ok [Store.Fields.ofList []])), .report 0, .endRefreshing]

theorem spinner_iff_sample : ∃ s, Run.exec step (State.init (some "ann")) (sampleLoad ++
    [.base .refresh, .base (.fetchUserReply 0 (.error "offline"))]) = some s ∧
      s.refreshing = true ∧ Stuck (some "ann") (sampleLoad ++
        [.base .refresh, .base (.fetchUserReply 0 (.error "offline"))]) s :=
  ⟨_, rfl, rfl, (spinner_iff (some "ann") _ _ rfl rfl
    ⟨rfl, fun r hr _ => by rw [List.mem_singleton.1 hr]; exact List.mem_singleton_self 0⟩).1 rfl⟩

end Refresh

end PetIT.Listener
