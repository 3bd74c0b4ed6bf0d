/-
The map of job posts: the array that a snapshot sorts by distance and replaces, the pins set up after each, tagged
with their places in the array, the views that show pins and are used again for others, and the detail screens that
their callouts open.
-/
import PetIT.Sort.Key
import PetIT.Table.System

namespace PetIT.Map

open Table (Coordinate)

/-! ## Pins -/

/-- Where a post is. -/
def coordinate (p : JobPost) : Coordinate := ⟨p.lat, p.long⟩

/-- `MyAnnotation` -/
structure MyAnnotation where
  coordinate : Coordinate
  title : String
  subtitle : String
  tag : Nat
  deriving DecidableEq, Repr

/-- A pin on the map: its annotation, the post it was built from, and the number of the snapshot behind it. -/
structure Pin where
  annotated : MyAnnotation
  jobPost : JobPost
  snapshot : Nat
  deriving DecidableEq, Repr

/-- A view of a pin; one that shows none waits to be used for another. -/
structure AnnotationView where
  pin : Pin
  shown : Bool
  deriving DecidableEq, Repr

/-- `MKCoordinateRegion`, as wide as it is high. -/
structure Region where
  center : Coordinate
  meters : Nat
  deriving DecidableEq, Repr

/-- A detail screen: the post it was handed, and the post the tapped pin was built from. -/
structure Opened where
  jobPost : JobPost
  builtFrom : JobPost

/-- The map screen: the posts on hand, the place it knows of the user, its pins and their views, and what it has
opened. -/
structure State where
  jobPosts : List JobPost
  userLocation : Coordinate
  /-- how many snapshots there have been -/
  snapshots : Nat
  pins : List Pin
  annotationViews : List AnnotationView
  region : Option Region
  opened : List Opened
  trapped : Bool

/-- Nothing has come yet. -/
def State.init : State where
  jobPosts := []
  userLocation := ⟨0, 0⟩
  snapshots := 0
  pins := []
  annotationViews := []
  region := none
  opened := []
  trapped := false

/-- A callback of the listener, of the location manager or of the map view, or a tap on a callout. -/
inductive Event where
  | snapshot (result : Except String (List Document))
  | didUpdateLocations (locations : List Coordinate)
  | didChangeAuthorization (userLocation : Coordinate)
  | viewFor (pin : Nat) (dequeued : Option Nat)
  | leftScreen (view : Nat)
  | calloutAccessoryControlTapped (view : Nat)

/-! ## The controller -/

/-- An index out of range. -/
def State.trap (s : State) : State := { s with trapped := true }

/-- `setRegion` -/
def setRegion (s : State) (center : Coordinate) (meters : Nat) : State := { s with region := some ⟨center, meters⟩ }

/-- The map drops its pins, and no view shows one. -/
def removeAnnotations (s : State) : State :=
  { s with pins := [], annotationViews := s.annotationViews.map fun v => { v with shown := false } }

/-- One round of the loop of `setupAnnotations`. -/
def addPin (s : State) (count : Nat) (p : JobPost) : State :=
  let annotated : MyAnnotation := ⟨coordinate p, p.jobDescription, p.wage, count⟩
  let s := setRegion s (coordinate p) 9000
  { s with pins := s.pins ++ [⟨annotated, p, s.snapshots⟩] }

/-- `setupAnnotations`: the old pins go, each post gets one, and the map goes to the first; without one the index
traps. -/
def setupAnnotations (s : State) : State :=
  let s := removeAnnotations s
  let s := (s.jobPosts.foldl (fun (s, count) p => (addPin s count p, count + 1)) (s, 0)).1
  match s.jobPosts[0]? with
  | none => s.trap
  | some p => setRegion s (coordinate p) 9000

variable {D : Type} [LinearOrder D] (distance : Coordinate → Coordinate → D)

/-- What the map sorts by. -/
def nearer (userLocation : Coordinate) (p q : JobPost) : Bool :=
  if distance userLocation (coordinate p) > distance userLocation (coordinate q) then false else true

/-- The posts of a snapshot, in the order of `nearer`. -/
def nearestFirst (userLocation : Coordinate) (docs : List Document) : List JobPost :=
  Sorting.sorted (nearer distance userLocation) (docs.map JobPost.ofDict)

/-- The listener's callback. -/
def snapshot (s : State) : Except String (List Document) → State
  | .error _ => s
  | .ok docs => setupAnnotations
      { s with jobPosts := nearestFirst distance s.userLocation docs, snapshots := s.snapshots + 1 }

/-- `didUpdateLocations`, of whose locations the last counts -/
def didUpdateLocations (s : State) (locations : List Coordinate) : State :=
  match locations.getLast? with
  | none => s
  | some location => setRegion { s with userLocation := location } location 1000

/-- The map's own idea of where the user is, not the controller's. -/
def didChangeAuthorization (s : State) (userLocation : Coordinate) : State := setRegion s userLocation 1000

/-- A view from the queue is given the annotation; if there is none, a new one is made. -/
def viewFor (s : State) (pin : Pin) : Option Nat → State
  | none => { s with annotationViews := s.annotationViews ++ [⟨pin, true⟩] }
  | some k => { s with annotationViews := s.annotationViews.set k ⟨pin, true⟩ }

/-- `prepare(for:sender:)`: the post is looked up by the sender, the tag of the pin. -/
def prepare (s : State) (pin : Pin) (sender : Nat) : State :=
  match s.jobPosts[sender]? with
  | none => s.trap
  | some p => { s with opened := s.opened ++ [⟨p, pin.jobPost⟩] }

/-- `calloutAccessoryControlTapped`, which looks the post up by the tag of the pin and performs the segue -/
def calloutAccessoryControlTapped (s : State) (pin : Pin) : State :=
  match s.jobPosts[pin.annotated.tag]? with
  | none => s.trap
  -- the controller made here is given the post and never shown; the segue makes another
  | some _ => prepare s pin pin.annotated.tag

/-! ## The main queue -/

/-- What the main queue can run next; after a trap, nothing. The map hands out views that show no pin, and only a
view that shows one can be tapped. -/
def step (s : State) (e : Event) : Option State := do
  guard (s.trapped = false)
  match e with
  | .snapshot result => some (snapshot distance s result)
  | .didUpdateLocations locations => some (didUpdateLocations s locations)
  | .didChangeAuthorization userLocation => some (didChangeAuthorization s userLocation)
  | .viewFor pin dequeued => do
    let pin ← s.pins[pin]?
    guard (∀ k ∈ dequeued, ∃ v ∈ s.annotationViews[k]?, v.shown = false)
    some (viewFor s pin dequeued)
  | .leftScreen view => do
    let v ← s.annotationViews[view]?
    some { s with annotationViews := s.annotationViews.set view { v with shown := false } }
  | .calloutAccessoryControlTapped view => do
    let v ← s.annotationViews[view]?
    guard (v.shown = true)
    some (calloutAccessoryControlTapped s v.pin)

end PetIT.Map
