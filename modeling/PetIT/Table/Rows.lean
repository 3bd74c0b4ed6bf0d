/-
The rows of a job table and the posts behind them. A row is drawn from the array at one time and resolved
against it again at another, and a snapshot replaces the array in between. A tap opens the post its row
shows in exactly the runs in which no snapshot takes away a row the table asks for, or changes the post of a
row between its drawing and a tap; none does, in particular, as long as no reload block is waiting.
-/
import PetIT.Run.Basic
import PetIT.Table.System

namespace PetIT.Table

/-! ## Definitions -/

/-- No index was out of range, and every detail screen has the post its row was drawn from. -/
def State.OpensShown (s : State) : Prop := s.trapped = false ∧ ∀ o ∈ s.opened, o.jobPost = o.drawnFrom

/-- The posts of the last snapshot. -/
def delivered (pf : Platform) (es : List Event) : List JobPost :=
  es.foldl (fun posts e => match e with
    | .snapshot now (.ok docs) => pf.newestFirst now docs
    | _ => posts) []

/-- The event draws the row, or takes it off the screen. -/
def Redraws (row : Nat) (e : Event) : Prop := e = .reload ∨ e = .cellForRowAt row ∨ e = .didEndDisplaying row

/-- After the events `pre`, the last snapshot has the row that is asked for; and for a row that is tapped, the
post that the last snapshot before its drawing had. -/
def Current (pf : Platform) (pre : List Event) : Event → Prop
  | .cellForRowAt row => row < (delivered pf pre).length
  | .didSelectRowAt row => ∀ before since, pre = before ++ .cellForRowAt row :: since →
      (∀ e ∈ since, ¬ Redraws row e) → (delivered pf pre)[row]? = (delivered pf before)[row]?
  | _ => True

/-- The array resolves a row that is asked for, and one that is tapped to the post it was drawn from. -/
def Resolves (s : State) : Event → Prop
  | .cellForRowAt row => row < s.jobPosts.length
  | .didSelectRowAt row => ∀ r ∈ s.rows row, s.jobPosts[row]? = some r.jobPost
  | _ => True

/-- No reload block is waiting when the table asks for a row, or a row is tapped. -/
def Reloaded (s : State) : Event → Prop
  | .cellForRowAt _ => s.reloads = 0
  | .didSelectRowAt _ => s.reloads = 0
  | _ => True

/-! ## What an event does -/

/-- What an event makes of the table. -/
inductive Change (pf : Platform) (s : State) : Event → State → Prop
  | snapshot {now docs} : Change pf s (.snapshot now (.ok docs))
      { s with jobPosts := pf.newestFirst now docs, reloads := s.reloads + 1 }
  | failed {now message} (alerts : List Alert) :
      Change pf s (.snapshot now (.error message)) { s with alerts := alerts }
  | reload (h : 0 < s.reloads) : Change pf s .reload (reload s)
  | drawn {row p} (cell : PostCell) (hr : row < s.rowCount) (hp : s.jobPosts[row]? = some p) :
      Change pf s (.cellForRowAt row) { s with rows := Function.update s.rows row (some ⟨p, cell⟩) }
  | drawnNone {row} (hr : row < s.rowCount) (hp : s.jobPosts[row]? = none) : Change pf s (.cellForRowAt row) s.trap
  | ended {row} : Change pf s (.didEndDisplaying row) { s with rows := Function.update s.rows row none }
  | opened {row r p} (hr : s.rows row = some r) (hp : s.jobPosts[row]? = some p) :
      Change pf s (.didSelectRowAt row) { s with opened := s.opened ++ [⟨p, r.jobPost⟩] }
  | openedNone {row r} (hr : s.rows row = some r) (hp : s.jobPosts[row]? = none) :
      Change pf s (.didSelectRowAt row) s.trap
  | located {locations} (location : Coordinate) :
      Change pf s (.didUpdateLocations locations) { s with userLocation := location }
  | fetched {owner} : Change pf s (.fetchedOwner owner) { s with owner := some owner }

variable {screen : Screen} {pf : Platform} {s s' : State} {e : Event} {row : Nat} {p : JobPost} {r : Row}

theorem cellForRowAt_of_some {draw : State → JobPost → PostCell} (h : s.jobPosts[row]? = some p) :
    cellForRowAt draw s row = { s with rows := Function.update s.rows row (some ⟨p, draw s p⟩) } := by
  unfold cellForRowAt
  rw [h]

theorem cellForRowAt_of_none {draw : State → JobPost → PostCell} (h : s.jobPosts[row]? = none) :
    cellForRowAt draw s row = s.trap := by
  unfold cellForRowAt
  rw [h]

theorem openDetail_of_some (h : s.jobPosts[row]? = some p) :
    openDetail s r row = { s with opened := s.opened ++ [⟨p, r.jobPost⟩] } := by
  unfold openDetail
  rw [h]

theorem openDetail_of_none (h : s.jobPosts[row]? = none) : openDetail s r row = s.trap := by
  unfold openDetail
  rw [h]

/-- The cell that the Job List looks for is on screen: its row has just been tapped. -/
theorem prepare_eq (h : s.rows row = some r) : screen.prepare s r row = openDetail s r row := by
  cases screen with
  | jobList => exact if_pos (by rw [h]; rfl)
  | profile => rfl

theorem cellForRowAt_eq (screen : Screen) (pf : Platform) (s : State) (row : Nat) :
    ∃ draw, screen.cellForRowAt pf s row = cellForRowAt draw s row := by
  cases screen with
  | jobList => exact ⟨fun s p => drawCell pf s p (.fetchPostCreator p.ownerId), rfl⟩
  | profile => exact ⟨fun s p => drawCell pf s p (.shown (s.owner.map (·.displayName)) p.imageURLString), rfl⟩

theorem cellForRowAt_change (hr : row < s.rowCount) :
    Change pf s (.cellForRowAt row) (screen.cellForRowAt pf s row) := by
  obtain ⟨draw, hd⟩ := cellForRowAt_eq screen pf s row
  rw [hd]
  cases hp : s.jobPosts[row]? with
  | none => rw [cellForRowAt_of_none hp]; exact .drawnNone hr hp
  | some p => rw [cellForRowAt_of_some hp]; exact .drawn _ hr hp

theorem snapshot_change {now : Int} {result : Except String (List Document)} :
    Change pf s (.snapshot now result) (screen.snapshot pf now s result) := by
  cases result with
  | ok docs => cases screen <;> exact .snapshot
  | error message =>
    cases screen with
    | jobList => exact .failed s.alerts
    | profile => exact .failed _

theorem step_change (h : step screen pf s e = some s') : s.trapped = false ∧ Change pf s e s' := by
  obtain ⟨ht, h⟩ := Run.guard_bind.1 h
  refine ⟨ht, ?_⟩
  cases e with
  | snapshot now result => cases h; exact snapshot_change
  | reload =>
    obtain ⟨hr, h⟩ := Run.guard_bind.1 h
    cases h; exact .reload hr
  | cellForRowAt row =>
    obtain ⟨hr, h⟩ := Run.guard_bind.1 h
    cases h; exact cellForRowAt_change hr
  | didEndDisplaying row => cases h; exact .ended
  | didSelectRowAt row =>
    obtain ⟨r, hr, h⟩ := Option.bind_eq_some_iff.1 h
    cases h
    rw [prepare_eq hr]
    cases hp : s.jobPosts[row]? with
    | none => rw [openDetail_of_none hp]; exact .openedNone hr hp
    | some p => rw [openDetail_of_some hp]; exact .opened hr hp
  | didUpdateLocations locations =>
    obtain ⟨-, h⟩ := Run.guard_bind.1 h
    cases h
    unfold JobListViewController.didUpdateLocations
    split
    · exact .located s.userLocation
    · exact .located _
  | fetchedOwner owner =>
    obtain ⟨-, h⟩ := Run.guard_bind.1 h
    cases h; exact .fetched

/-- An event that does not redraw a row leaves it as it is. -/
theorem Change.rows_frame (hc : Change pf s e s') (hn : ¬ Redraws row e) : s'.rows row = s.rows row := by
  cases hc with
  | reload => exact absurd (Or.inl rfl) hn
  | drawn =>
    refine Function.update_of_ne ?_ _ _
    rintro rfl; exact hn (Or.inr (Or.inl rfl))
  | ended =>
    refine Function.update_of_ne ?_ _ _
    rintro rfl; exact hn (Or.inr (Or.inr rfl))
  | snapshot | failed | drawnNone | opened | openedNone | located | fetched => rfl

/-- A reload takes every row off the screen, and a row that has scrolled off is gone. -/
theorem Change.rows_gone (hc : Change pf s e s') (h : e = .reload ∨ e = .didEndDisplaying row) :
    s'.rows row = none := by
  rcases h with rfl | rfl
  · cases hc; rfl
  · cases hc
    exact Function.update_self ..

/-! ## One event -/

theorem not_opensShown_trap : ¬ s.trap.OpensShown := fun h => by cases h.1

/-- An event keeps every screen on the post its row shows exactly when the array resolves its row. -/
theorem Change.opensShown_iff (hs : s.OpensShown) (h : Change pf s e s') : s'.OpensShown ↔ Resolves s e := by
  cases h with
  | snapshot | failed | reload | ended | located | fetched => exact iff_of_true hs trivial
  | drawn cell hr hp => exact iff_of_true hs (List.getElem?_eq_some_iff.1 hp).1
  | drawnNone hr hp => exact iff_of_false not_opensShown_trap (not_lt.2 (List.getElem?_eq_none_iff.1 hp))
  | openedNone hr hp =>
    refine iff_of_false not_opensShown_trap fun hc => ?_
    have := hc _ hr
    rw [hp] at this; cases this
  | @opened row r p hr hp =>
    -- the screen that opens is the only new one
    constructor
    · rintro ⟨-, ho⟩ r' hr'
      have hpr : p = r.jobPost := ho ⟨p, r.jobPost⟩ (by simp)
      rw [hr] at hr'
      cases hr'
      rw [hp, hpr]
    · intro hc
      have hpr := hc r hr
      rw [hp] at hpr
      cases hpr
      refine ⟨hs.1, fun o ho => ?_⟩
      rcases List.mem_append.1 ho with ho | ho
      · exact hs.2 o ho
      · rw [List.mem_singleton] at ho
        subst ho; rfl

/-! ## No block waiting -/

/-- With no reload block waiting, the table and its rows are the array's. -/
structure Synced (s : State) : Prop where
  rowCount : s.reloads = 0 → s.rowCount = s.jobPosts.length
  rows : s.reloads = 0 → ∀ row r, s.rows row = some r → s.jobPosts[row]? = some r.jobPost

theorem Synced.init : Synced State.init := ⟨fun _ => rfl, fun _ _ _ h => by cases h⟩

theorem forall_update {rows : Nat → Option Row} {P : Nat → Row → Prop} {x : Option Row}
    (h : ∀ i r, i ≠ row → rows i = some r → P i r) (hx : ∀ r, x = some r → P row r) :
    ∀ i r, Function.update rows row x i = some r → P i r := by
  intro i r hr
  rcases eq_or_ne i row with rfl | hne
  · rw [Function.update_self] at hr
    exact hx r hr
  · rw [Function.update_of_ne hne] at hr
    exact h i r hne hr

theorem Synced.change (hi : Synced s) (h : Change pf s e s') : Synced s' := by
  cases h with
  | failed | located | fetched | drawnNone | opened | openedNone => exact ⟨hi.rowCount, hi.rows⟩
  | snapshot => exact ⟨fun h => absurd h (Nat.succ_ne_zero _), fun h => absurd h (Nat.succ_ne_zero _)⟩
  | reload => exact ⟨fun _ => rfl, fun _ _ _ h => by cases h⟩
  | drawn cell hr hp =>
    refine ⟨hi.rowCount, fun h0 => forall_update (fun i r _ => hi.rows h0 i r) fun r hr => ?_⟩
    cases hr; exact hp
  | ended =>
    exact ⟨hi.rowCount, fun h0 => forall_update (fun i r _ => hi.rows h0 i r) fun r hr => by cases hr⟩

theorem Synced.resolves (hi : Synced s) (h : Change pf s e s') (hr : Reloaded s e) : Resolves s e := by
  cases h with
  | drawn cell hlt => exact hlt.trans_eq (hi.rowCount hr)
  | drawnNone hlt => exact hlt.trans_eq (hi.rowCount hr)
  | opened => exact fun r' => hi.rows hr _ r'
  | openedNone => exact fun r' => hi.rows hr _ r'
  | _ => trivial

/-- A run that asks for rows and taps them only while no reload block is waiting opens what its rows show. -/
theorem opensShown_of_reloaded {es : List Event} (h : Run.Guarded (step screen pf) Reloaded State.init es) :
    Run.Always (step screen pf) State.OpensShown State.init es := by
  refine Run.always_of_guarded (I := fun s => Synced s ∧ s.OpensShown) (fun _ hi => hi.2) ?_
    ⟨Synced.init, rfl, by simp [State.init]⟩ h
  rintro s e s' ⟨hi, hs⟩ hg he
  have hc := (step_change he).2
  exact ⟨hi.change hc, (hc.opensShown_iff hs).2 (hi.resolves hc hg)⟩

/-! ## The rows and the snapshots behind them -/

theorem delivered_concat (es : List Event) (e : Event) : delivered pf (es ++ [e]) = match e with
    | .snapshot now (.ok docs) => pf.newestFirst now docs
    | _ => delivered pf es := by
  unfold delivered
  rw [List.foldl_append]
  rfl

/-- The row was last drawn, as the post, from what was the last snapshot then. -/
def DrawnFrom (pf : Platform) (es : List Event) (row : Nat) (p : JobPost) : Prop :=
  ∃ before since, es = before ++ .cellForRowAt row :: since ∧ (∀ e ∈ since, ¬ Redraws row e) ∧
    (delivered pf before)[row]? = some p

theorem DrawnFrom.concat {es : List Event} (h : DrawnFrom pf es row p) (he : ¬ Redraws row e) :
    DrawnFrom pf (es ++ [e]) row p := by
  obtain ⟨before, since, hes, hs, hp⟩ := h
  obtain ⟨hes, hs⟩ := Run.last_concat hes hs he
  exact ⟨before, since ++ [e], hes, hs, hp⟩

/-- What the events say of the table: its array is the last snapshot, and each of its rows was drawn. -/
structure Traced (pf : Platform) (es : List Event) (s : State) : Prop where
  jobPosts : s.jobPosts = delivered pf es
  rows : s.trapped = false → ∀ row r, s.rows row = some r → DrawnFrom pf es row r.jobPost

theorem Traced.init : Traced pf [] State.init := ⟨rfl, fun _ _ _ h => by cases h⟩

theorem Traced.change {es : List Event} (ht : Traced pf es s) (hs : s.trapped = false) (h : Change pf s e s') :
    Traced pf (es ++ [e]) s' := by
  have hj := ht.jobPosts
  have hr := ht.rows hs
  cases h with
  | snapshot => exact ⟨by rw [delivered_concat], fun _ row r h => (hr row r h).concat (by simp [Redraws])⟩
  | failed | opened | located | fetched =>
    exact ⟨by rw [delivered_concat]; exact hj, fun _ row r h => (hr row r h).concat (by simp [Redraws])⟩
  | drawnNone | openedNone => exact ⟨by rw [delivered_concat]; exact hj, fun h => by cases h⟩
  | reload => exact ⟨by rw [delivered_concat]; exact hj, fun _ row r h => by cases h⟩
  | drawn cell hlt hp =>
    refine ⟨by rw [delivered_concat]; exact hj, fun _ => forall_update (fun i r hne h => ?_) fun r hr => ?_⟩
    · exact (hr i r h).concat (by simp [Redraws, hne.symm])
    · cases hr
      exact ⟨es, [], rfl, by simp, hj ▸ hp⟩
  | ended =>
    refine ⟨by rw [delivered_concat]; exact hj, fun _ => forall_update (fun i r hne h => ?_) fun r hr => ?_⟩
    · exact (hr i r h).concat (by simp [Redraws, hne.symm])
    · cases hr

theorem traced_of_exec {es : List Event} (h : Run.exec (step screen pf) State.init es = some s) : Traced pf es s :=
  Run.exec_trace Traced.init (fun _ _ _ _ _ ht he => ht.change (step_change he).1 (step_change he).2) h

/-- The array resolves the row of an event exactly when no snapshot has changed it. -/
theorem Traced.resolves_iff {es : List Event} (ht : Traced pf es s) (hs : s.trapped = false)
    (h : Change pf s e s') : Resolves s e ↔ Current pf es e := by
  have htap : ∀ row r, s.rows row = some r →
      (Resolves s (.didSelectRowAt row) ↔ Current pf es (.didSelectRowAt row)) := by
    intro row r hr
    -- the one place where the row was last drawn is the one `Current` speaks of
    obtain ⟨before, since, rfl, hn, hp⟩ := ht.rows hs row r hr
    unfold Resolves Current
    rw [← ht.jobPosts]
    constructor
    · intro hc before' since' he hn'
      obtain rfl := Run.last_unique he (Or.inr (Or.inl rfl)) (Or.inr (Or.inl rfl)) hn hn'
      rw [hc r hr, hp]
    · intro hc r' hr'
      rw [hr] at hr'
      cases hr'
      rw [hc before since rfl hn, hp]
  cases h with
  | drawn | drawnNone => unfold Resolves Current; rw [ht.jobPosts]
  | opened hr | openedNone hr => exact htap _ _ hr
  | _ => exact Iff.rfl

/-! ## A tapped row opens the post it shows -/

/-- In every run of either screen, no index is out of range and every tap opens the post its row was drawn
from exactly when no snapshot takes away a row that is then asked for, or changes the post of a row between
its drawing and a tap. -/
theorem tapped_row_opens (screen : Screen) (pf : Platform) (es : List Event) :
    Run.Always (step screen pf) State.OpensShown State.init es ↔
      ∀ pre e post s, es = pre ++ e :: post → Run.exec (step screen pf) State.init (pre ++ [e]) = some s →
        Current pf pre e := by
  rw [Run.always_iff_guarded (I := fun _ => True) (fun _ _ _ _ _ _ _ => trivial)
    (fun _ _ _ _ hs h => (step_change h).2.opensShown_iff hs) trivial ⟨rfl, by simp [State.init]⟩,
    Run.guarded_iff]
  constructor
  · intro h pre e post s₁ hes hs
    obtain ⟨s₀, hs, he⟩ := Run.exec_concat.1 hs
    have ⟨ht, hc⟩ := step_change he
    exact ((traced_of_exec hs).resolves_iff ht hc).1 (h pre e post s₀ s₁ hes hs he)
  · intro h pre e post s₀ s₁ hes hs he
    have ⟨ht, hc⟩ := step_change he
    exact ((traced_of_exec hs).resolves_iff ht hc).2 (h pre e post s₁ hes (Run.exec_concat.2 ⟨s₀, hs, he⟩))

/-- A post of Ann's. -/
def samplePost (id date : String) : Document :=
  JobPost.postJob ⟨date, id, "ann", none, "", "Walk the dog", "Loves water", "3pm", "10", 0, 0, "PENDING"⟩

/-- A platform that reads two dates, and finds everything near. -/
def samplePlatform : Platform where
  isoDate s := ["2019-03-27T10:00:00Z", "2019-03-28T10:00:00Z"].idxOf? s |>.map fun i => 1553680800 + 86400 * i
  roundedDistance _ _ := "0.00"

/-- The list shows one post; a newer one is delivered, and the row is tapped before the table is reloaded. -/
def sampleTap : List Event := [
  .snapshot 0 (.ok [samplePost "p1" "2019-03-27T10:00:00Z"]), .reload, .cellForRowAt 0,
  .snapshot 0 (.ok [samplePost "p1" "2019-03-27T10:00:00Z", samplePost "p2" "2019-03-28T10:00:00Z"]),
  .didSelectRowAt 0]

/-- The detail screen opens on the newer post, which the row does not show. -/
theorem tapped_row_opens_other : ¬ ∀ screen pf es,
    Run.Always (step screen pf) State.OpensShown State.init es := by
  intro h
  have hx : (Run.exec (step .jobList samplePlatform) State.init sampleTap).map
      (fun s => s.opened.map fun o => (o.jobPost.postId, o.drawnFrom.postId)) = some [("p2", "p1")] := by
    decide
  obtain ⟨s, hs, hx⟩ := Option.map_eq_some_iff.1 hx
  have hm : ("p2", "p1") ∈ s.opened.map fun o => (o.jobPost.postId, o.drawnFrom.postId) := by
    rw [hx]; exact List.mem_singleton_self _
  obtain ⟨o, ho, ho'⟩ := List.mem_map.1 hm
  rw [((h _ _ _).final hs).2 o ho, Prod.mk.injEq] at ho'
  exact absurd (ho'.1.symm.trans ho'.2) (by decide)

end PetIT.Table
