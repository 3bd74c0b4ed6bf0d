/-
Pins and posts. A pin's tag is a place in the array of posts, and each snapshot replaces that array. The pins are
set up anew with it, so at every time they are those of the array on hand, and a callout, which resolves the tag
twice, opens the post its pin was built from.
-/
import PetIT.Run.Basic
import PetIT.Map.System
import PetIT.Table.Rows

namespace PetIT.Map

open Table (Coordinate)

/-! ## Definitions -/

/-- The annotation of a post at a place in the array. -/
def annotate (p : JobPost) (tag : Nat) : MyAnnotation := ⟨coordinate p, p.jobDescription, p.wage, tag⟩

/-- The pins of an array of posts, the first with tag `count`. -/
def pinsFrom (snapshot count : Nat) (posts : List JobPost) : List Pin :=
  posts.mapIdx fun i p => ⟨annotate p (count + i), p, snapshot⟩

variable {D : Type} [LinearOrder D] {distance : Coordinate → Coordinate → D}

variable (distance) in
/-- No index was out of range; the pins are in one-to-one correspondence with the posts of the last snapshot, with
their fields; a tap on the callout of a view on the map is taken, and opens one more detail screen, on the post that
the view's pin was built from; and every detail screen so far has the post its pin was built from. -/
structure Corresponds (s : State) : Prop where
  trapped : s.trapped = false
  tags : s.pins.map (·.annotated.tag) = List.range s.jobPosts.length
  built : ∀ pin ∈ s.pins, s.jobPosts[pin.annotated.tag]? = some pin.jobPost ∧
    pin.annotated = annotate pin.jobPost pin.annotated.tag
  last : ∀ pin ∈ s.pins, pin.snapshot = s.snapshots
  opens : ∀ view v, s.annotationViews[view]? = some v → v.shown = true →
    v.pin ∈ s.pins ∧ step distance s (.calloutAccessoryControlTapped view) =
      some { s with opened := s.opened ++ [⟨v.pin.jobPost, v.pin.jobPost⟩] }
  opened : ∀ o ∈ s.opened, o.jobPost = o.builtFrom

/-! ## Setting up the pins -/

theorem mem_pinsFrom {snapshot count : Nat} {posts : List JobPost} {pin : Pin} :
    pin ∈ pinsFrom snapshot count posts ↔
      ∃ i, ∃ p, posts[i]? = some p ∧ pin = ⟨annotate p (count + i), p, snapshot⟩ := by
  unfold pinsFrom
  rw [List.mem_mapIdx]
  constructor
  · rintro ⟨i, hi, rfl⟩
    exact ⟨i, posts[i], List.getElem?_eq_getElem hi, rfl⟩
  · rintro ⟨i, p, hp, rfl⟩
    obtain ⟨hi, rfl⟩ := List.getElem?_eq_some_iff.1 hp
    exact ⟨i, hi, rfl⟩

theorem pinsFrom_tags (snapshot : Nat) (posts : List JobPost) :
    (pinsFrom snapshot 0 posts).map (·.annotated.tag) = List.range posts.length := by
  refine List.ext_getElem (by simp [pinsFrom]) fun i hi hi' => ?_
  simp [pinsFrom, annotate]

/-- What the loop of `setupAnnotations` adds. -/
theorem foldl_addPin (posts : List JobPost) : ∀ (s : State) (count : Nat),
    ∃ region, (posts.foldl (fun (s, count) p => (addPin s count p, count + 1)) (s, count)).1 =
      { s with pins := s.pins ++ pinsFrom s.snapshots count posts, region := region } := by
  induction posts with
  | nil => exact fun s _ => ⟨s.region, by simp [pinsFrom]⟩
  | cons p posts ih =>
    intro s count
    obtain ⟨region, h⟩ := ih (addPin s count p) (count + 1)
    refine ⟨region, ?_⟩
    rw [List.foldl_cons, h]
    simp [addPin, setRegion, pinsFrom, annotate, List.mapIdx_cons, Nat.add_comm, Nat.add_left_comm]

theorem setupAnnotations_of_nil {s : State} (h : s.jobPosts = []) :
    setupAnnotations s = (removeAnnotations s).trap := by
  simp [setupAnnotations, removeAnnotations, h]

/-- The pins of the array, no view showing any yet, and the map on the first post. -/
theorem setupAnnotations_of_cons {s : State} {p : JobPost} {posts : List JobPost} (h : s.jobPosts = p :: posts) :
    setupAnnotations s = { removeAnnotations s with
      pins := pinsFrom s.snapshots 0 s.jobPosts, region := some ⟨coordinate p, 9000⟩ } := by
  obtain ⟨region, hf⟩ := foldl_addPin s.jobPosts (removeAnnotations s) 0
  have hp : (removeAnnotations s).jobPosts = s.jobPosts := rfl
  unfold setupAnnotations
  simp only [hp, hf]
  simp [h, removeAnnotations, setRegion]

/-! ## What an event does -/

/-- The state a snapshot leaves, up to the views and the region. -/
def delivered (distance : Coordinate → Coordinate → D) (s : State) (docs : List Document)
    (region : Option Region) : State :=
  let posts := nearestFirst distance s.userLocation docs
  { removeAnnotations s with
    jobPosts := posts, snapshots := s.snapshots + 1, pins := pinsFrom (s.snapshots + 1) 0 posts, region := region }

variable (distance) in
/-- What an event makes of the map. -/
inductive Change (s : State) : Event → State → Prop
  | failed {message} : Change s (.snapshot (.error message)) s
  | empty : Change s (.snapshot (.ok [])) (delivered distance s [] s.region).trap
  | snapshot {docs p posts} (h : nearestFirst distance s.userLocation docs = p :: posts) :
      Change s (.snapshot (.ok docs)) (delivered distance s docs (some ⟨coordinate p, 9000⟩))
  | notLocated {locations} (h : locations.getLast? = none) : Change s (.didUpdateLocations locations) s
  | located {locations location} (h : locations.getLast? = some location) :
      Change s (.didUpdateLocations locations) (setRegion { s with userLocation := location } location 1000)
  | authorized {userLocation} : Change s (.didChangeAuthorization userLocation) (setRegion s userLocation 1000)
  | viewed {i pin dequeued} (h : s.pins[i]? = some pin) : Change s (.viewFor i dequeued) (viewFor s pin dequeued)
  | left {view v} (h : s.annotationViews[view]? = some v) :
      Change s (.leftScreen view)
        { s with annotationViews := s.annotationViews.set view { v with shown := false } }
  | opened {view v p} (h : s.annotationViews[view]? = some v) (hv : v.shown = true)
      (hp : s.jobPosts[v.pin.annotated.tag]? = some p) :
      Change s (.calloutAccessoryControlTapped view) { s with opened := s.opened ++ [⟨p, v.pin.jobPost⟩] }
  | openedNone {view v} (h : s.annotationViews[view]? = some v) (hv : v.shown = true)
      (hp : s.jobPosts[v.pin.annotated.tag]? = none) :
      Change s (.calloutAccessoryControlTapped view) s.trap

theorem calloutAccessoryControlTapped_of_some {s : State} {pin : Pin} {p : JobPost}
    (h : s.jobPosts[pin.annotated.tag]? = some p) :
    calloutAccessoryControlTapped s pin = { s with opened := s.opened ++ [⟨p, pin.jobPost⟩] } := by
  unfold calloutAccessoryControlTapped prepare
  rw [h]

theorem calloutAccessoryControlTapped_of_none {s : State} {pin : Pin}
    (h : s.jobPosts[pin.annotated.tag]? = none) : calloutAccessoryControlTapped s pin = s.trap := by
  unfold calloutAccessoryControlTapped
  rw [h]

theorem nearestFirst_eq_nil {userLocation : Coordinate} {docs : List Document} :
    nearestFirst distance userLocation docs = [] ↔ docs = [] := by
  unfold nearestFirst
  rw [← List.length_eq_zero_iff, Sorting.length_sorted, List.length_map, List.length_eq_zero_iff]

theorem snapshot_nil (s : State) :
    snapshot distance s (.ok []) = (delivered distance s [] s.region).trap :=
  setupAnnotations_of_nil (s := { s with jobPosts := nearestFirst distance s.userLocation [], snapshots := _ }) rfl

theorem snapshot_cons {s : State} {docs : List Document} {p : JobPost} {posts : List JobPost}
    (h : nearestFirst distance s.userLocation docs = p :: posts) :
    snapshot distance s (.ok docs) = delivered distance s docs (some ⟨coordinate p, 9000⟩) :=
  setupAnnotations_of_cons h

theorem snapshot_change (s : State) (result : Except String (List Document)) :
    Change distance s (.snapshot result) (snapshot distance s result) := by
  cases result with
  | error message => exact .failed
  | ok docs =>
    cases hp : nearestFirst distance s.userLocation docs with
    | nil =>
      obtain rfl := nearestFirst_eq_nil.1 hp
      rw [snapshot_nil]
      exact .empty
    | cons p posts =>
      rw [snapshot_cons hp]
      exact .snapshot hp

variable {s s' : State} {e : Event}

theorem step_change (h : step distance s e = some s') : s.trapped = false ∧ Change distance s e s' := by
  obtain ⟨ht, h⟩ := Run.guard_bind.1 h
  refine ⟨ht, ?_⟩
  cases e with
  | snapshot result => cases h; exact snapshot_change s result
  | didUpdateLocations locations =>
    cases h
    unfold didUpdateLocations
    split
    case h_1 h => exact .notLocated h
    case h_2 h => exact .located h
  | didChangeAuthorization => cases h; exact .authorized
  | viewFor i dequeued =>
    obtain ⟨pin, hp, h⟩ := Option.bind_eq_some_iff.1 h
    obtain ⟨-, h⟩ := Run.guard_bind.1 h
    cases h; exact .viewed hp
  | leftScreen view =>
    obtain ⟨v, hv, h⟩ := Option.bind_eq_some_iff.1 h
    cases h; exact .left hv
  | calloutAccessoryControlTapped view =>
    obtain ⟨v, hv, h⟩ := Option.bind_eq_some_iff.1 h
    obtain ⟨hs, h⟩ := Run.guard_bind.1 h
    cases h
    cases hp : s.jobPosts[v.pin.annotated.tag]? with
    | none =>
      rw [calloutAccessoryControlTapped_of_none hp]
      exact .openedNone hv hs hp
    | some p =>
      rw [calloutAccessoryControlTapped_of_some hp]
      exact .opened hv hs hp

/-! ## The invariant -/

/-- The pins are those of the array on hand, and the views that show one show one of them. -/
structure Inv (s : State) : Prop where
  trapped : s.trapped = false
  pins : s.pins = pinsFrom s.snapshots 0 s.jobPosts
  views : ∀ v ∈ s.annotationViews, v.shown = true → v.pin ∈ s.pins
  opened : ∀ o ∈ s.opened, o.jobPost = o.builtFrom

theorem Inv.init : Inv State.init := ⟨rfl, rfl, nofun, nofun⟩

/-- The array resolves the tag of a pin to the post the pin was built from. -/
theorem Inv.built (hi : Inv s) {pin : Pin} (hp : pin ∈ s.pins) :
    s.jobPosts[pin.annotated.tag]? = some pin.jobPost ∧
      pin.annotated = annotate pin.jobPost pin.annotated.tag ∧ pin.snapshot = s.snapshots := by
  rw [hi.pins, mem_pinsFrom] at hp
  obtain ⟨i, p, hp, rfl⟩ := hp
  refine ⟨?_, rfl, rfl⟩
  show s.jobPosts[0 + i]? = some p
  rw [Nat.zero_add, hp]

/-- A tap on the callout of a view on the map opens the post of the view's pin. -/
theorem Inv.opens (hi : Inv s) {view : Nat} {v : AnnotationView} (h : s.annotationViews[view]? = some v)
    (hv : v.shown = true) : step distance s (.calloutAccessoryControlTapped view) =
      some { s with opened := s.opened ++ [⟨v.pin.jobPost, v.pin.jobPost⟩] } := by
  have hpin := hi.views v (List.mem_of_getElem? h) hv
  refine Run.guard_bind.2 ⟨hi.trapped, Option.bind_eq_some_iff.2 ⟨v, h, Run.guard_bind.2 ⟨hv, ?_⟩⟩⟩
  rw [calloutAccessoryControlTapped_of_some (hi.built hpin).1]

theorem Inv.corresponds (hi : Inv s) : Corresponds distance s where
  trapped := hi.trapped
  tags := by rw [hi.pins, pinsFrom_tags]
  built := fun _ hp => ⟨(hi.built hp).1, (hi.built hp).2.1⟩
  last := fun _ hp => (hi.built hp).2.2
  opens := fun _ v h hv => ⟨hi.views v (List.mem_of_getElem? h) hv, hi.opens h hv⟩
  opened := hi.opened

/-- `setupAnnotations` runs to its end. -/
def SetsUp (distance : Coordinate → Coordinate → D) (s : State) : Event → Prop
  | .snapshot result => (snapshot distance s result).trapped = false
  | _ => True

instance (s : State) (e : Event) : Decidable (SetsUp distance s e) := by
  cases e <;> unfold SetsUp <;> infer_instance

theorem Inv.viewFor (hi : Inv s) {pin : Pin} (hp : pin ∈ s.pins) (dequeued : Option Nat) :
    Inv (viewFor s pin dequeued) := by
  cases dequeued with
  | none =>
    refine ⟨hi.trapped, hi.pins, fun v hv => ?_, hi.opened⟩
    rcases List.mem_append.1 hv with hv | hv
    · exact hi.views v hv
    · rw [List.mem_singleton] at hv
      subst hv; exact fun _ => hp
  | some k =>
    refine ⟨hi.trapped, hi.pins, fun v hv => ?_, hi.opened⟩
    rcases List.mem_or_eq_of_mem_set hv with hv | rfl
    · exact hi.views v hv
    · exact fun _ => hp

/-- Every event on which `setupAnnotations` runs to its end re-establishes the link. -/
theorem Inv.change (hi : Inv s) (hs : SetsUp distance s e) (h : Change distance s e s') : Inv s' := by
  cases h with
  | failed | notLocated => exact hi
  | empty =>
    have hs : (snapshot distance s (.ok [])).trapped = false := hs
    rw [snapshot_nil] at hs
    cases hs
  | snapshot h =>
    refine ⟨hi.trapped, rfl, fun v hv hvs => ?_, hi.opened⟩
    obtain ⟨w, -, rfl⟩ := List.mem_map.1 hv
    cases hvs
  | located | authorized => exact ⟨hi.trapped, hi.pins, hi.views, hi.opened⟩
  | viewed h => exact hi.viewFor (List.mem_of_getElem? h) _
  | @left view v h =>
    refine ⟨hi.trapped, hi.pins, fun w hw => ?_, hi.opened⟩
    rcases List.mem_or_eq_of_mem_set hw with hw | rfl
    · exact hi.views w hw
    · exact nofun
  | @opened view v p h hv hp =>
    have hpin := (hi.built (hi.views v (List.mem_of_getElem? h) hv)).1
    rw [hp] at hpin
    cases hpin
    refine ⟨hi.trapped, hi.pins, hi.views, fun o ho => ?_⟩
    rcases List.mem_append.1 ho with ho | ho
    · exact hi.opened o ho
    · rw [List.mem_singleton] at ho
      subst ho; rfl
  | @openedNone view v h hv hp =>
    -- a view on screen shows a pin of the array on hand
    have hpin := (hi.built (hi.views v (List.mem_of_getElem? h) hv)).1
    rw [hp] at hpin
    cases hpin

/-! ## Pins and posts correspond -/

/-- In every run in which each `setupAnnotations` ran to its end, at every time, the pins on the map are in
one-to-one correspondence with the posts, and every callout opens the post its pin was built from. -/
theorem pins_correspond {es : List Event} (h : Run.Guarded (step distance) (SetsUp distance) State.init es) :
    Run.Always (step distance) (Corresponds distance) State.init es :=
  Run.always_of_guarded (fun _ hi => hi.corresponds) (fun _ _ _ hi hs he => hi.change hs (step_change he).2)
    Inv.init h

/-- Two snapshots with a view made, left and used again between them, and a tap after. -/
def sampleCallout : List Event := [
  .snapshot (.ok [Table.samplePost "p1" "", Table.samplePost "p2" ""]), .viewFor 1 none, .leftScreen 0,
  .didUpdateLocations [⟨1, 1⟩], .snapshot (.ok [Table.samplePost "p3" ""]), .didChangeAuthorization ⟨0, 0⟩,
  .viewFor 0 (some 0), .calloutAccessoryControlTapped 0]

/-- How far north and how far east the one is of the other, together. -/
def sampleDistance (a b : Coordinate) : Nat := (a.latitude - b.latitude).toNat + (a.longitude - b.longitude).toNat

theorem pins_correspond_sample :
    Run.Always (step sampleDistance) (Corresponds sampleDistance) State.init sampleCallout :=
  pins_correspond (by decide)

end PetIT.Map
