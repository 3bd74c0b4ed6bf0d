/-
The distances on the rows of the job tables. A label is written when the row's cell is drawn, with the place that
the screen knows then: the last one reported to the Job List, and (0, 0) always on the Profile. It stays until the
cell is drawn again, wherever the user is by that time.
-/
import PetIT.Table.Rows

namespace PetIT.Table

/-! ## Definitions -/

/-- The last place that a sequence of updates reports, and (0, 0) before any does. -/
def reported (updates : List (List Coordinate)) : Coordinate :=
  (updates.filterMap List.getLast?).getLastD ⟨0, 0⟩

/-- The locations of an update. -/
def Event.locations : Event → Option (List Coordinate)
  | .didUpdateLocations locations => some locations
  | _ => none

/-- The result of a snapshot. -/
def Event.result : Event → Option (Except String (List Document))
  | .snapshot _ result => some result
  | _ => none

/-- The label of a post, seen from a place. -/
def zipcodeLabel (pf : Platform) (here : Coordinate) (p : JobPost) : String :=
  "Distance: " ++ pf.roundedDistance here ⟨p.lat, p.long⟩ ++ " miles"

/-- Every row on screen has the distance from the place. -/
def LabelledFrom (pf : Platform) (here : Coordinate) (s : State) : Prop :=
  ∀ row r, s.rows row = some r → r.cell.zipcodeLabel = zipcodeLabel pf here r.jobPost

/-- A row that is on screen was last drawn when the last place reported was as far from its post. -/
def DrawnWithin (pf : Platform) (here : Coordinate) (es : List Event) : Prop :=
  ∀ before row since p, es = before ++ .cellForRowAt row :: since → (∀ e ∈ since, ¬ Redraws row e) →
    (delivered pf before)[row]? = some p →
    pf.roundedDistance (reported (before.filterMap Event.locations)) ⟨p.lat, p.long⟩ =
      pf.roundedDistance here ⟨p.lat, p.long⟩

/-! ## Updates -/

/-- An event that is no update, or one without locations, leaves the last place as it is. -/
theorem reported_concat {ε : Type} (locations : ε → Option (List Coordinate)) (es : List ε) (e : ε) :
    reported ((es ++ [e]).filterMap locations) =
      ((locations e).bind List.getLast?).getD (reported (es.filterMap locations)) := by
  unfold reported
  rw [List.filterMap_append, List.filterMap_append]
  cases hu : locations e with
  | none => simp [hu]
  | some u => cases hl : u.getLast? <;> simp [hu, hl]

theorem zipcodeLabel_inj {pf : Platform} {here there : Coordinate} {p : JobPost} :
    zipcodeLabel pf here p = zipcodeLabel pf there p ↔
      pf.roundedDistance here ⟨p.lat, p.long⟩ = pf.roundedDistance there ⟨p.lat, p.long⟩ := by
  unfold zipcodeLabel
  rw [← String.toList_inj, ← String.toList_inj]
  simp only [String.toList_append, List.append_assoc, List.append_cancel_left_eq, List.append_cancel_right_eq]

/-! ## One event -/

variable {screen : Screen} {pf : Platform} {s s' : State} {e : Event} {es : List Event} {row : Nat} {p : JobPost}

/-- Both screens draw a cell with the distance from the place they know. -/
theorem cellForRowAt_label (screen : Screen) (pf : Platform) (s : State) (row : Nat) :
    ∃ draw, screen.cellForRowAt pf s row = cellForRowAt draw s row ∧
      ∀ p, (draw s p).zipcodeLabel = zipcodeLabel pf s.userLocation p := by
  cases screen with
  | jobList => exact ⟨fun s p => drawCell pf s p (.fetchPostCreator p.ownerId), rfl, fun _ => rfl⟩
  | profile =>
    exact ⟨fun s p => drawCell pf s p (.shown (s.owner.map (·.displayName)) p.imageURLString), rfl, fun _ => rfl⟩

/-- The screen knows the last place reported to it. -/
theorem step_userLocation (h : step screen pf s e = some s')
    (hs : s.userLocation = reported (es.filterMap Event.locations)) :
    s'.userLocation = reported ((es ++ [e]).filterMap Event.locations) := by
  rw [reported_concat, ← hs]
  cases e with
  | didUpdateLocations locations =>
    obtain ⟨-, h⟩ := Run.guard_bind.1 h
    obtain ⟨-, h⟩ := Run.guard_bind.1 h
    cases h
    unfold JobListViewController.didUpdateLocations
    rw [Event.locations, Option.bind_some]
    cases locations.getLast? <;> rfl
  | _ => cases (step_change h).2 <;> rfl

/-! ## The rows and the places behind them -/

/-- The row was last drawn, as the post, with the distance from the last place reported then. -/
def DrawnAt (pf : Platform) (es : List Event) (row : Nat) (r : Row) : Prop :=
  ∃ before since, es = before ++ .cellForRowAt row :: since ∧ (∀ e ∈ since, ¬ Redraws row e) ∧
    (delivered pf before)[row]? = some r.jobPost ∧
    r.cell.zipcodeLabel = zipcodeLabel pf (reported (before.filterMap Event.locations)) r.jobPost

theorem DrawnAt.concat {r : Row} (h : DrawnAt pf es row r) (he : ¬ Redraws row e) : DrawnAt pf (es ++ [e]) row r := by
  obtain ⟨before, since, hes, hs, hp⟩ := h
  obtain ⟨hes, hs⟩ := Run.last_concat hes hs he
  exact ⟨before, since ++ [e], hes, hs, hp⟩

/-- What the events say of the labels. -/
structure Located (pf : Platform) (es : List Event) (s : State) : Prop where
  traced : Traced pf es s
  userLocation : s.userLocation = reported (es.filterMap Event.locations)
  rows : s.trapped = false → ∀ row r, s.rows row = some r → DrawnAt pf es row r

theorem Located.step (hl : Located pf es s) (h : step screen pf s e = some s') : Located pf (es ++ [e]) s' := by
  have ⟨ht, hc⟩ := step_change h
  refine ⟨hl.traced.change ht hc, step_userLocation h hl.userLocation, fun hs' row r hrow => ?_⟩
  by_cases hd : Redraws row e
  · -- the row has just been taken off the screen, or drawn
    rcases hd with rfl | rfl | rfl
    · rw [hc.rows_gone (.inl rfl)] at hrow; cases hrow
    · obtain ⟨-, h⟩ := Run.guard_bind.1 h
      obtain ⟨-, h⟩ := Run.guard_bind.1 h
      cases h
      obtain ⟨draw, hdraw, hlabel⟩ := cellForRowAt_label screen pf s row
      rw [hdraw] at hs' hrow
      cases hp : s.jobPosts[row]? with
      | none => rw [cellForRowAt_of_none hp] at hs'; cases hs'
      | some p =>
        rw [cellForRowAt_of_some hp] at hrow
        obtain rfl : ⟨p, draw s p⟩ = r := Option.some.inj ((Function.update_self row _ s.rows).symm.trans hrow)
        exact ⟨es, [], rfl, by simp, hl.traced.jobPosts ▸ hp, by rw [hlabel, hl.userLocation]⟩
    · rw [hc.rows_gone (.inr rfl)] at hrow; cases hrow
  · rw [hc.rows_frame hd] at hrow
    exact (hl.rows ht row r hrow).concat hd

theorem located_of_exec (h : Run.exec (step screen pf) State.init es = some s) : Located pf es s :=
  Run.exec_trace ⟨Traced.init, rfl, nofun⟩ (fun _ _ _ _ _ hl he => hl.step he) h

/-- A row that has been drawn and not taken off the screen since is on screen. -/
theorem rows_of_drawn {before since : List Event}
    (h : Run.exec (step screen pf) State.init (before ++ .cellForRowAt row :: since) = some s)
    (hn : ∀ e ∈ since, ¬ Redraws row e) (hp : (delivered pf before)[row]? = some p) :
    ∃ r, s.rows row = some r ∧ r.jobPost = p := by
  obtain ⟨s₀, h₀, h⟩ := Run.exec_append.1 h
  obtain ⟨s₁, h₁, h⟩ := Run.exec_cons.1 h
  have hdrawn : ∃ r, s₁.rows row = some r ∧ r.jobPost = p := by
    rw [← (located_of_exec h₀).traced.jobPosts] at hp
    cases (step_change h₁).2 with
    | drawn cell hr hp' =>
      rw [hp] at hp'
      cases hp'
      exact ⟨_, Function.update_self .., rfl⟩
    | drawnNone hr hp' => rw [hp] at hp'; cases hp'
  refine Run.exec_guarded (I := fun s => ∃ r, s.rows row = some r ∧ r.jobPost = p) (G := fun _ e => ¬ Redraws row e)
    (fun s e s' hi hg he => ?_) hdrawn (Run.guarded_iff.2 fun pre e post _ _ hes _ _ => hn e (by simp [hes])) h
  rw [(step_change he).2.rows_frame hg]
  exact hi

/-- The rows on screen have the distance from a place exactly when each was drawn within it. -/
theorem labelledFrom_iff (h : Run.exec (step screen pf) State.init es = some s) (hs : s.trapped = false)
    (here : Coordinate) : LabelledFrom pf here s ↔ DrawnWithin pf here es := by
  have hl := located_of_exec h
  constructor
  · rintro hlab before row since p rfl hn hp
    obtain ⟨r, hr, rfl⟩ := rows_of_drawn h hn hp
    obtain ⟨before', since', hes, hn', -, hlabel⟩ := hl.rows hs row r hr
    obtain rfl := Run.last_unique hes (Or.inr (Or.inl rfl)) (Or.inr (Or.inl rfl)) hn hn'
    rw [← zipcodeLabel_inj, ← hlabel, hlab row r hr]
  · intro hw row r hr
    obtain ⟨before, since, hes, hn, hp, hlabel⟩ := hl.rows hs row r hr
    rw [hlabel, zipcodeLabel_inj]
    exact hw before row since r.jobPost hes hn hp

end PetIT.Table
