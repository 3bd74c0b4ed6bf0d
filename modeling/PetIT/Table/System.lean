/-
The job tables of the Job List and the Profile: the array that a snapshot replaces at once, the table view
that a block queued behind it reloads, the rows the table shows, and the detail screens its taps open.
-/
import PetIT.Model.Document
import PetIT.Model.Request
import Mathlib.Data.List.Sort

namespace PetIT.Table

/-! ## The platform -/

/-- `CLLocationCoordinate2D` -/
structure Coordinate where
  latitude : Double
  longitude : Double
  deriving DecidableEq, Repr

/-- What the screens use of Foundation and Core Location. -/
structure Platform where
  /-- `ISO8601DateFormatter.date(from:)`, in seconds -/
  isoDate : String → Option Int
  /-- the distance of two places in miles, with two decimals -/
  roundedDistance : Coordinate → Coordinate → String

/-- `String.date()`: a string that does not parse is read as the present. -/
def Platform.date (pf : Platform) (now : Int) (s : String) : Int := (pf.isoDate s).getD now

/-- The posts of a snapshot, the newest first. -/
def Platform.newestFirst (pf : Platform) (now : Int) (docs : List Document) : List JobPost :=
  (docs.map JobPost.ofDict).insertionSort fun p q => pf.date now q.createdDate ≤ pf.date now p.createdDate

/-! ## Cells -/

/-- The colour of a row's status. -/
inductive Color where
  | red
  | green
  deriving DecidableEq, Repr

/-- Who posted the job: the Profile shows its owner, the Job List asks for the post's. -/
inductive Creator where
  | shown (usernameLabel : Option String) (profileImage : String)
  | fetchPostCreator (userId : String)
  deriving DecidableEq, Repr

/-- What is drawn on a row. -/
structure PostCell where
  pendingStatus : String × Color
  jobDescription : String
  zipcodeLabel : String
  creator : Creator
  deriving DecidableEq, Repr

/-- A row on screen: the post it was drawn from, and its cell. -/
structure Row where
  jobPost : JobPost
  cell : PostCell

/-- A detail screen: the post it was handed, and the post the tapped row was drawn from. -/
structure Opened where
  jobPost : JobPost
  drawnFrom : JobPost

/-- The two screens with a table of posts. -/
inductive Screen where
  | jobList
  | profile
  deriving DecidableEq, Repr

/-- A screen with a table: the posts on hand, the place it knows of the user, what the table has been told and shows,
and what it has opened. -/
structure State where
  jobPosts : List JobPost
  userLocation : Coordinate
  owner : Option UserModel
  /-- the reload blocks on the main queue -/
  reloads : Nat
  /-- what the table last read from `numberOfRowsInSection` -/
  rowCount : Nat
  rows : Nat → Option Row
  opened : List Opened
  alerts : List Alert
  trapped : Bool

/-- Nothing has come yet. -/
def State.init : State where
  jobPosts := []
  userLocation := ⟨0, 0⟩
  owner := none
  reloads := 0
  rowCount := 0
  rows := fun _ => none
  opened := []
  alerts := []
  trapped := false

/-- A callback of the listener, the table view or the location manager, a tap on a row, or the fetched owner. -/
inductive Event where
  | snapshot (now : Int) (result : Except String (List Document))
  | reload
  | cellForRowAt (row : Nat)
  | didEndDisplaying (row : Nat)
  | didSelectRowAt (row : Nat)
  | didUpdateLocations (locations : List Coordinate)
  | fetchedOwner (owner : UserModel)

/-! ## The data source -/

/-- An index out of range, or a `fatalError`. -/
def State.trap (s : State) : State := { s with trapped := true }

/-- `numberOfRowsInSection` -/
def numberOfRowsInSection (s : State) : Nat := s.jobPosts.length

/-- The status label and its colour. -/
def pendingStatus (p : JobPost) : String × Color :=
  if p.status = "PENDING" then (p.status, .red) else ("BOOKED", .green)

/-- What both screens draw on a row. -/
def drawCell (pf : Platform) (s : State) (p : JobPost) (creator : Creator) : PostCell where
  pendingStatus := pendingStatus p
  jobDescription := p.jobDescription
  zipcodeLabel := "Distance: " ++ pf.roundedDistance s.userLocation ⟨p.lat, p.long⟩ ++ " miles"
  creator := creator

/-- `cellForRowAt`: the post is looked up by the row. -/
def cellForRowAt (draw : State → JobPost → PostCell) (s : State) (row : Nat) : State :=
  match s.jobPosts[row]? with
  | none => s.trap
  | some p => { s with rows := Function.update s.rows row (some ⟨p, draw s p⟩) }

/-- The end of `prepare(for:)`, after a tap on `r`. -/
def openDetail (s : State) (r : Row) (row : Nat) : State :=
  match s.jobPosts[row]? with
  | none => s.trap
  | some p => { s with opened := s.opened ++ [⟨p, r.jobPost⟩] }

namespace JobListViewController

/-- The listener's callback. -/
def snapshot (pf : Platform) (now : Int) (s : State) : Except String (List Document) → State
  | .error _ => s
  | .ok docs => { s with jobPosts := pf.newestFirst now docs, reloads := s.reloads + 1 }

/-- `cellForRowAt`, which fetches the owner of the post -/
def cellForRowAt (pf : Platform) : State → Nat → State :=
  Table.cellForRowAt fun s p => drawCell pf s p (.fetchPostCreator p.ownerId)

/-- `prepare(for:sender:)` -/
def prepare (s : State) (r : Row) (row : Nat) : State :=
  -- the Job List looks for the tapped cell, the Profile does not
  if (s.rows row).isSome then openDetail s r row else s.trap

/-- `didUpdateLocations`, of whose locations the last counts -/
def didUpdateLocations (s : State) (locations : List Coordinate) : State :=
  match locations.getLast? with
  | none => s
  | some location => { s with userLocation := location }

end JobListViewController

namespace ProfileViewController

/-- The listener's callback. -/
def snapshot (pf : Platform) (now : Int) (s : State) : Except String (List Document) → State
  | .error message => { s with alerts := s.alerts ++ [⟨"Error Fetching Job Posts", message⟩] }
  | .ok docs => { s with jobPosts := pf.newestFirst now docs, reloads := s.reloads + 1 }

/-- `cellForRowAt`, with the owner and the image at hand -/
def cellForRowAt (pf : Platform) : State → Nat → State :=
  Table.cellForRowAt fun s p => drawCell pf s p (.shown (s.owner.map (·.displayName)) p.imageURLString)

/-- `prepare(for:sender:)` -/
def prepare : State → Row → Nat → State := openDetail

end ProfileViewController

namespace Screen

/-- The listener's callback, on each screen -/
def snapshot (pf : Platform) (now : Int) (s : State) : Screen → Except String (List Document) → State
  | jobList => JobListViewController.snapshot pf now s
  | profile => ProfileViewController.snapshot pf now s

/-- `cellForRowAt`, on each screen -/
def cellForRowAt (pf : Platform) (s : State) (row : Nat) : Screen → State
  | jobList => JobListViewController.cellForRowAt pf s row
  | profile => ProfileViewController.cellForRowAt pf s row

/-- `prepare(for:sender:)`, on each screen -/
def prepare (s : State) (r : Row) (row : Nat) : Screen → State
  | jobList => JobListViewController.prepare s r row
  | profile => ProfileViewController.prepare s r row

end Screen

/-! ## The main queue -/

/-- What `didSet` of `jobPosts` has queued; the Job List also scrolls to its top, which reads no row. -/
def reload (s : State) : State :=
  { s with reloads := s.reloads - 1, rowCount := numberOfRowsInSection s, rows := fun _ => none }

/-- What the main queue can run next; after a trap, nothing. A table asks for rows below the count it last
read, and only a row that is on screen can be tapped. -/
def step (screen : Screen) (pf : Platform) (s : State) (e : Event) : Option State := do
  guard (s.trapped = false)
  match e with
  | .snapshot now result => some (screen.snapshot pf now s result)
  | .reload => do
    guard (0 < s.reloads)
    some (reload s)
  | .cellForRowAt row => do
    guard (row < s.rowCount)
    some (screen.cellForRowAt pf s row)
  | .didEndDisplaying row => some { s with rows := Function.update s.rows row none }
  | .didSelectRowAt row => do
    let r ← s.rows row
    some (screen.prepare s r row)
  | .didUpdateLocations locations => do
    guard (screen = .jobList)
    some (JobListViewController.didUpdateLocations s locations)
  | .fetchedOwner owner => do
    guard (screen = .profile)
    some { s with owner := some owner }

end PetIT.Table
