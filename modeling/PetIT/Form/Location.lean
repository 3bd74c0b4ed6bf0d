/-
The location screen of the Add Job Post form. A screen starts out at the place zero, keeps the centre of the map as
the map last reported it, and hands it to the form when the user presses Save; a screen that is left hands over
nothing. So a form posts a job at the centre that was last reported to the screen that was last saved, or at zero if
that screen was saved before the map had reported any.
-/
import PetIT.Form.Text
import PetIT.Table.System

namespace PetIT.Form.Location

open Job (Captured PostPhase capture)
open Table (Coordinate)

/-! ## The screen -/

/-- `AddLocationViewController`, as it is loaded. -/
structure AddLocation where
  center : Coordinate := ⟨0, 0⟩
  /-- the centre of the region that the map was last asked to move to -/
  region : Option Coordinate := none
  /-- the location manager is running -/
  updating : Bool := true
  deriving DecidableEq, Repr

namespace AddLocation

/-- `didChangeAuthorization`: the map goes to the user. -/
def didChangeAuthorization (l : AddLocation) (userLocation : Coordinate) : AddLocation :=
  { l with region := some userLocation }

/-- `didUpdateLocations`: the map goes to the newest location, and no more are asked for. -/
def didUpdateLocations (l : AddLocation) (locations : List Coordinate) : AddLocation :=
  match locations.getLast? with
  | none => l
  | some currentLocation => { l with region := some currentLocation, updating := false }

/-- `regionDidChangeAnimated`: the screen keeps the centre of the map. -/
def regionDidChangeAnimated (l : AddLocation) (centerCoordinate : Coordinate) : AddLocation :=
  { l with center := centerCoordinate }

end AddLocation

/-- A form, and the location screen while it is up. -/
structure State where
  form : Form.State := {}
  screen : Option AddLocation := none

/-- An event of the form, or of the location screen over it. -/
inductive Event where
  | form (e : Form.Event)
  | showEditLocation
  | back
  | didChangeAuthorization (userLocation : Coordinate)
  | didUpdateLocations (locations : List Coordinate)
  | regionDidChangeAnimated (centerCoordinate : Coordinate)
  | saveButtonPressed

/-- The form's events that come from the location screen. -/
def OfScreen : Form.Event → Bool
  | .editLocation => true
  | .leaveEditLocation => true
  | .unwindFromEditLocation .. => true
  | _ => false

/-- Something becomes of the location screen, if it is there. -/
def onScreen (s : State) (f : AddLocation → AddLocation) : Option State := do
  let l ← s.screen
  some { s with screen := some (f l) }

/-- What can happen next. Every visit to the screen is to a new one, and Save unwinds from it. -/
def step (s : State) : Event → Option State
  | .form e => do
    guard (OfScreen e = false)
    let form ← Form.step s.form e
    some { s with form := form }
  | .showEditLocation => do
    let form ← Form.step s.form .editLocation
    some { form := form, screen := some {} }
  | .back => do
    let form ← Form.step s.form .leaveEditLocation
    some { form := form, screen := none }
  | .didChangeAuthorization userLocation => onScreen s (·.didChangeAuthorization userLocation)
  | .didUpdateLocations locations => do
    let l ← s.screen
    guard (l.updating = true)
    some { s with screen := some (l.didUpdateLocations locations) }
  | .regionDidChangeAnimated centerCoordinate => onScreen s (·.regionDidChangeAnimated centerCoordinate)
  | .saveButtonPressed => do
    let l ← s.screen
    let form ← Form.step s.form (.unwindFromEditLocation l.center.latitude l.center.longitude)
    some { form := form, screen := none }

/-! ## What the events say -/

/-- The map reports its centre. -/
def IsReport : Event → Prop
  | .regionDidChangeAnimated _ => True
  | _ => False

/-- The event opens a location screen, or takes one away. -/
def Switches : Event → Prop
  | .showEditLocation => True
  | .back => True
  | .saveButtonPressed => True
  | _ => False

/-- The last centre that the map reported, or zero. -/
def Reported (es : List Event) (c : Coordinate) : Prop :=
  (∃ before since, es = before ++ .regionDidChangeAnimated c :: since ∧ ∀ e ∈ since, ¬ IsReport e) ∨
    ((∀ e ∈ es, ¬ IsReport e) ∧ c = ⟨0, 0⟩)

/-- The events since the screen that is up was opened. -/
def Visit (es mid : List Event) : Prop :=
  ∃ before, es = before ++ .showEditLocation :: mid ∧ ∀ e ∈ mid, ¬ Switches e

/-- The last location screen that was saved was saved at `c`. -/
def Saved (es : List Event) (c : Coordinate) : Prop :=
  ∃ visit mid after, es = visit ++ .saveButtonPressed :: after ∧ Visit visit mid ∧ Reported mid c ∧
    ∀ e ∈ after, e ≠ .saveButtonPressed

variable {es : List Event} {e : Event} {c : Coordinate} {mid : List Event} {s s' : State}

theorem Reported.nil : Reported [] ⟨0, 0⟩ := Or.inr ⟨by simp, rfl⟩

theorem Reported.concat (h : Reported es c) (he : ¬ IsReport e) : Reported (es ++ [e]) c := by
  rcases h with ⟨before, since, hes, hn⟩ | ⟨hn, rfl⟩
  · obtain ⟨hes, hn⟩ := Run.last_concat hes hn he
    exact Or.inl ⟨before, since ++ [e], hes, hn⟩
  · exact Or.inr ⟨Run.none_concat hn he, rfl⟩

theorem Reported.report (c : Coordinate) : Reported (es ++ [.regionDidChangeAnimated c]) c :=
  Or.inl ⟨es, [], rfl, by simp⟩

theorem Visit.opened : Visit (es ++ [.showEditLocation]) [] := ⟨es, rfl, by simp⟩

theorem Visit.concat (h : Visit es mid) (he : ¬ Switches e) : Visit (es ++ [e]) (mid ++ [e]) := by
  obtain ⟨before, hes, hn⟩ := h
  obtain ⟨hes, hn⟩ := Run.last_concat hes hn he
  exact ⟨before, hes, hn⟩

theorem Saved.concat (h : Saved es c) (he : e ≠ .saveButtonPressed) : Saved (es ++ [e]) c := by
  obtain ⟨visit, mid, after, hes, hv, hr, hn⟩ := h
  obtain ⟨hes, hn⟩ := Run.last_concat hes hn he
  exact ⟨visit, mid, after ++ [e], hes, hv, hr, hn⟩

/-! ## The form below -/

/-- Where the form would post a job. -/
def place (f : Form.State) : Coordinate := ⟨f.latitude, f.longitude⟩

theorem present_place (f : Form.State) (x : Presented) :
    (f.present x).locationTitle = f.locationTitle ∧ place (f.present x) = place f := by
  unfold Form.State.present
  split <;> exact ⟨rfl, rfl⟩

theorem setView_place (f : Form.State) (view : View) (v : TextView) :
    (f.setView view v).locationTitle = f.locationTitle ∧ place (f.setView view v) = place f := by
  cases view <;> exact ⟨rfl, rfl⟩

theorem shouldChangeText_place (f : Form.State) (view : View) (location length : Nat) (text : String) :
    (shouldChangeText f view location length text).locationTitle = f.locationTitle ∧
      place (shouldChangeText f view location length text) = place f := by
  unfold shouldChangeText
  dsimp only
  split
  · split
    · exact setView_place ..
    · exact ⟨rfl, rfl⟩
  · exact setView_place ..

/-- Only the location screen changes the place of the form. -/
theorem form_place {f f' : Form.State} {e : Form.Event} (he : OfScreen e = false) (h : Form.step f e = some f') :
    f'.locationTitle = f.locationTitle ∧ place f' = place f := by
  cases e with
  | endEditing => cases h; exact ⟨rfl, rfl⟩
  | editLocation | leaveEditLocation | unwindFromEditLocation => cases he
  | beginEditing field =>
    obtain ⟨-, h⟩ := Run.guard_bind.1 h
    cases h
    cases field with
    | view view => exact setView_place ..
    | timeFrame | wages => exact ⟨rfl, rfl⟩
  | shouldChangeText view location length text =>
    obtain ⟨-, h⟩ := Run.guard_bind.1 h
    cases h; exact shouldChangeText_place ..
  | editTimeFrame | editWages | textFieldShouldReturn | petImageButtonPressed | didCancelPicking
  | cancelButtonPressed =>
    obtain ⟨-, h⟩ := Run.guard_bind.1 h
    cases h; exact ⟨rfl, rfl⟩
  | didFinishPicking imageData =>
    obtain ⟨-, h⟩ := Run.guard_bind.1 h
    cases imageData <;> cases h <;> exact ⟨rfl, rfl⟩
  | okPressed =>
    replace h : okPressed f = some f' := h
    unfold okPressed at h
    split at h <;> cases h <;> exact ⟨rfl, rfl⟩
  | postButtonPressed u docId =>
    obtain ⟨-, h⟩ := Run.guard_bind.1 h
    unfold postButtonPressed at h
    split at h
    · cases h; exact present_place ..
    · obtain ⟨-, h⟩ := Run.guard_bind.1 h
      cases h; exact ⟨rfl, rfl⟩
  | uploadReply k ok =>
    obtain ⟨p, -, h⟩ := Option.bind_eq_some_iff.1 h
    obtain ⟨-, h⟩ := Run.guard_bind.1 h
    cases h; exact ⟨rfl, rfl⟩
  | downloadURLReply k reply createdDate =>
    obtain ⟨p, -, h⟩ := Option.bind_eq_some_iff.1 h
    obtain ⟨-, h⟩ := Run.guard_bind.1 h
    cases reply <;> cases h <;> exact ⟨rfl, rfl⟩
  | postJobReply k error =>
    obtain ⟨p, -, h⟩ := Option.bind_eq_some_iff.1 h
    split at h
    · cases error <;> cases h <;> exact present_place ..
    · cases h

/-- A guarded press captures the place, which has been saved. -/
theorem capture_place {f : Form.State} {u : Option String} {cap : Captured} (h : capture f.form u = .ok cap) :
    f.locationTitle = "Location Added" ∧ (⟨cap.userLat, cap.userLong⟩ : Coordinate) = place f := by
  unfold capture at h
  split at h
  · cases h
  · rename_i ht
    split at h
    · cases h
    · split at h
      · cases h
      · split at h
        · cases h
        · cases h; exact ⟨not_not.1 ht, rfl⟩

/-! ## What the events make of the state -/

/-- The press was made after a Save, with the place that was saved, and its document is made of what it captured. -/
structure Placed (es : List Event) (p : Post) : Prop where
  recorded : p.Recorded
  pressed : ∃ pre u post, es = pre ++ .form (.postButtonPressed u p.docId) :: post ∧
    Saved pre ⟨p.captured.userLat, p.captured.userLong⟩

theorem Placed.concat {p : Post} (h : Placed es p) (e : Event) : Placed (es ++ [e]) p := by
  obtain ⟨pre, u, post, rfl, hsaved⟩ := h.pressed
  exact ⟨h.recorded, pre, u, post ++ [e], by simp, hsaved⟩

/-- The events behind the screen, the place of the form and its posts. -/
structure Traced (es : List Event) (s : State) : Prop where
  screen : ∀ l ∈ s.screen, ∃ mid, Visit es mid ∧ Reported mid l.center
  saved : s.form.locationTitle = "Location Added" → Saved es (place s.form)
  unsaved : s.form.locationTitle ≠ "Location Added" → ∀ e ∈ es, e ≠ .saveButtonPressed
  posts : ∀ p ∈ s.form.posts, Placed es p

theorem Traced.init : Traced [] {} := ⟨nofun, fun h => absurd h (by decide), fun _ => by simp, nofun⟩

/-- An event that is not a Save leaves the place and its posts. -/
theorem Traced.other {form : Form.State} {screen : Option AddLocation} (h : Traced es s) (he : e ≠ .saveButtonPressed)
    (hform : form.locationTitle = s.form.locationTitle ∧ place form = place s.form)
    (hscreen : ∀ l ∈ screen, ∃ mid, Visit (es ++ [e]) mid ∧ Reported mid l.center)
    (hposts : ∀ p ∈ form.posts, Placed (es ++ [e]) p) : Traced (es ++ [e]) ⟨form, screen⟩ := by
  refine ⟨hscreen, fun ht => ?_, fun ht => ?_, hposts⟩
  · show Saved (es ++ [e]) (place form)
    rw [hform.2]
    exact (h.saved (hform.1.symm.trans ht)).concat he
  · exact Run.none_concat (h.unsaved fun h => ht (hform.1.trans h)) (by simpa using he)

/-- The screen that is up stays up. -/
theorem Traced.screen_concat (h : Traced es s) (he : ¬ Switches e) (hr : ¬ IsReport e) :
    ∀ l ∈ s.screen, ∃ mid, Visit (es ++ [e]) mid ∧ Reported mid l.center := by
  intro l hl
  obtain ⟨mid, hv, hm⟩ := h.screen l hl
  exact ⟨mid ++ [e], hv.concat he, hm.concat hr⟩

theorem Traced.posts_concat (h : Traced es s) (e : Event) : ∀ p ∈ s.form.posts, Placed (es ++ [e]) p :=
  fun p hp => (h.posts p hp).concat e

/-- A press of the form, or a reply to one. -/
theorem Traced.form {f : Form.Event} {form : Form.State} (h : Traced es s) (hf : OfScreen f = false)
    (hs : Form.step s.form f = some form) : Traced (es ++ [.form f]) ⟨form, s.screen⟩ := by
  refine h.other nofun (form_place hf hs) (h.screen_concat id id) ?_
  have hposts := step_posts hs
  generalize form.posts = posts at hposts
  cases hposts with
  | same => exact h.posts_concat _
  | @pressed u docId c hc hd =>
    intro p hp
    rcases List.mem_append.1 hp with hp | hp
    · exact (h.posts p hp).concat _
    · rw [List.mem_singleton] at hp
      subst hp
      obtain ⟨ht, hplace⟩ := capture_place hc
      refine ⟨fun j hj => ?_, es, u, [], rfl, ?_⟩
      · rcases hj with hj | hj <;> cases hj
      rw [hplace]
      exact h.saved ht
  | @moved _ k p phase hn hk hph hstep =>
    intro q hq
    rcases List.mem_or_eq_of_mem_set hq with hq | rfl
    · exact (h.posts q hq).concat _
    · have hp := (h.posts p (List.mem_of_getElem? hk)).concat (.form f)
      exact ⟨hstep.recorded hp.recorded, hp.pressed⟩

theorem Traced.step (h : Traced es s) (hs : step s e = some s') : Traced (es ++ [e]) s' := by
  cases e with
  | form f =>
    obtain ⟨hf, hs⟩ := Run.guard_bind.1 hs
    obtain ⟨form, hform, hs⟩ := Option.bind_eq_some_iff.1 hs
    cases hs
    exact h.form hf hform
  | showEditLocation =>
    obtain ⟨form, hform, hs⟩ := Option.bind_eq_some_iff.1 hs
    obtain ⟨-, hform⟩ := Run.guard_bind.1 hform
    cases hform; cases hs
    refine h.other nofun ⟨rfl, rfl⟩ (fun l hl => ?_) (h.posts_concat _)
    cases hl
    exact ⟨[], .opened, .nil⟩
  | back =>
    obtain ⟨form, hform, hs⟩ := Option.bind_eq_some_iff.1 hs
    obtain ⟨-, hform⟩ := Run.guard_bind.1 hform
    cases hform; cases hs
    exact h.other nofun ⟨rfl, rfl⟩ nofun (h.posts_concat _)
  | didChangeAuthorization userLocation =>
    obtain ⟨l, hl, hs⟩ := Option.bind_eq_some_iff.1 hs
    cases hs
    refine h.other nofun ⟨rfl, rfl⟩ (fun l' hl' => ?_) (h.posts_concat _)
    cases hl'
    exact h.screen_concat id id l hl
  | didUpdateLocations locations =>
    obtain ⟨l, hl, hs⟩ := Option.bind_eq_some_iff.1 hs
    obtain ⟨-, hs⟩ := Run.guard_bind.1 hs
    cases hs
    refine h.other nofun ⟨rfl, rfl⟩ (fun l' hl' => ?_) (h.posts_concat _)
    cases hl'
    have hcenter : (l.didUpdateLocations locations).center = l.center := by
      unfold AddLocation.didUpdateLocations
      split <;> rfl
    rw [hcenter]
    exact h.screen_concat id id l hl
  | regionDidChangeAnimated centerCoordinate =>
    obtain ⟨l, hl, hs⟩ := Option.bind_eq_some_iff.1 hs
    cases hs
    refine h.other nofun ⟨rfl, rfl⟩ (fun l' hl' => ?_) (h.posts_concat _)
    cases hl'
    obtain ⟨mid, hv, -⟩ := h.screen l hl
    exact ⟨_, hv.concat id, .report centerCoordinate⟩
  | saveButtonPressed =>
    obtain ⟨l, hl, hs⟩ := Option.bind_eq_some_iff.1 hs
    obtain ⟨form, hform, hs⟩ := Option.bind_eq_some_iff.1 hs
    obtain ⟨-, hform⟩ := Run.guard_bind.1 hform
    cases hform; cases hs
    obtain ⟨mid, hv, hr⟩ := h.screen l hl
    exact ⟨nofun, fun _ => ⟨es, mid, [], rfl, hv, hr, by simp⟩, fun ht => absurd rfl ht, h.posts_concat _⟩

theorem traced_of_exec (h : Run.exec step {} es = some s) : Traced es s :=
  Run.exec_trace Traced.init (fun _ _ _ _ _ ht hs => ht.step hs) h

/-! ## Where a job is posted -/

/-- A form that is filled in and posted after a visit to the location screen, and the replies to it. -/
def sampleVisit : List Event :=
  [.form (.beginEditing (.view .jobDescription)), .form (.shouldChangeText .jobDescription 0 0 "walk"),
    .form (.beginEditing (.view .petBio)), .form (.shouldChangeText .petBio 0 0 "a dog"),
    .form (.beginEditing .wages), .form (.editWages "20"), .form (.beginEditing .timeFrame),
    .form (.editTimeFrame "noon"), .form .petImageButtonPressed, .form (.didFinishPicking (some [1])),
    .showEditLocation, .didUpdateLocations [⟨3, 4⟩], .regionDidChangeAnimated ⟨3, 4⟩,
    .regionDidChangeAnimated ⟨1, 2⟩, .saveButtonPressed,
    .form (.postButtonPressed (some "ann") "p1"), .form (.uploadReply 0 true),
    .form (.downloadURLReply 0 (.ok "u1") "d"), .form (.postJobReply 0 none)]

/-- A screen saved before the map has reported its centre gives the form the place zero. -/
example : (Run.exec step {} [.showEditLocation, .didUpdateLocations [⟨3, 4⟩], .saveButtonPressed]).map
    (fun s => (s.form.locationTitle, place s.form)) = some ("Location Added", ⟨0, 0⟩) := by decide

end PetIT.Form.Location
