/-
The snapshot listeners of the Job List, the Map and the Profile. A screen asks for the current user each
time it appears, every reply registers a listener, and a sign-out removes the one whose handle the Job List
has kept.
-/
import PetIT.Model.Document
import PetIT.Model.Request
import Mathlib.Logic.Function.Basic

namespace PetIT.Listener

/-! ## State -/

/-- The screens that listen to the collection. -/
inductive Screen where
  | jobList
  | map
  | profile
  deriving DecidableEq, Repr

/-- A listener registered with Firestore, on all posts or on those of an owner. -/
structure Registration where
  id : Nat
  screen : Screen
  ownerId : Option String
  deriving DecidableEq, Repr

/-- A `fetchUser` in flight. -/
structure Fetch where
  screen : Screen
  userId : String
  deriving DecidableEq, Repr

/-- The signed-in user, the three controllers, their `fetchUser` requests, and the listeners that are registered. -/
structure State where
  currentUser : Option String
  isViewLoaded : Screen → Bool
  /-- the controller has not been released -/
  isAlive : Screen → Bool
  /-- `authserviceSignOutDelegate` is the Job List -/
  signOutDelegate : Bool
  /-- the lazy `refreshControl` of the Job List is there -/
  refreshControl : Bool
  fetches : List Fetch
  /-- the handle a controller keeps -/
  listener : Screen → Option Nat
  owner : Option UserModel
  registered : List Registration
  nextId : Nat
  alerts : List (Screen × Alert)
  /-- the log-in screen has taken the place of the tab bar -/
  loginShown : Bool
  trapped : Bool

/-- The tab bar of a user, before any of its views is loaded. -/
def State.init (user : Option String) : State where
  currentUser := user
  isViewLoaded := fun _ => false
  isAlive := fun _ => true
  signOutDelegate := false
  refreshControl := false
  fetches := []
  listener := fun _ => none
  owner := none
  registered := []
  nextId := 0
  alerts := []
  loginShown := false
  trapped := false

/-- A callback of a view's life, a pull at the refresh control, a reply, a sign-out, or the release of a controller. -/
inductive Event where
  | viewDidLoad (screen : Screen)
  | viewDidAppear
  | viewWillAppear
  | refresh
  | fetchUserReply (i : Nat) (reply : Except String (List Document))
  | willSignOut (error : Option String)
  | release (screen : Screen)

/-! ## Fetching the user -/

/-- Nothing is fetched when no user is logged in. -/
def State.fetchUser (s : State) (screen : Screen) : State :=
  match s.currentUser with
  | none => s
  | some userId => { s with fetches := s.fetches ++ [⟨screen, userId⟩] }

/-- `addSnapshotListener`: Firestore hands out a new registration. -/
def State.addSnapshotListener (s : State) (screen : Screen) (ownerId : Option String) : State :=
  { s with registered := s.registered ++ [⟨s.nextId, screen, ownerId⟩], nextId := s.nextId + 1 }

namespace JobListViewController

/-- `fetchBlogPosts`, which starts with a `fetchUser` -/
def fetchBlogPosts (s : State) : State := s.fetchUser .jobList

/-- The user has been fetched: a new listener, whose handle takes the place of the one before. -/
def fetched (s : State) (_ : UserModel) : State :=
  { s.addSnapshotListener .jobList none with
    refreshControl := true
    listener := Function.update s.listener .jobList (some s.nextId) }

/-- `viewDidLoad` -/
def viewDidLoad (s : State) : State := fetchBlogPosts { s with signOutDelegate := true }

/-- `listener` is unwrapped, whether or not it has been set. -/
def didSignOut (s : State) : State :=
  match s.listener .jobList with
  | none => { s with trapped := true }
  | some id => { s with registered := s.registered.filter fun r => r.id ≠ id, loginShown := true }

end JobListViewController

namespace JobPostMapViewController

/-- `fetchBlogPosts`, on the map -/
def fetchBlogPosts (s : State) : State := s.fetchUser .map

/-- The completion of its `fetchUser`: the handle of the new listener takes the place of the old one's. -/
def fetched (s : State) (_ : UserModel) : State :=
  { s.addSnapshotListener .map none with listener := Function.update s.listener .map (some s.nextId) }

end JobPostMapViewController

namespace ProfileViewController

/-- `fetchCurrentUser` -/
def fetchCurrentUser (s : State) : State := s.fetchUser .profile

/-- `owner.didSet`, through `fetchOwnerPosts`: the handle of the new listener is dropped. -/
def fetched (s : State) (owner : UserModel) : State :=
  { s with owner := some owner }.addSnapshotListener .profile (some owner.userId)

end ProfileViewController

/-- `viewDidLoad` of each screen -/
def Screen.viewDidLoad (s : State) : Screen → State
  | jobList => JobListViewController.viewDidLoad s
  | map => JobPostMapViewController.fetchBlogPosts s
  | profile => s

/-- The completion of `fetchUser`, on each screen -/
def Screen.fetched (s : State) (user : UserModel) : Screen → State
  | jobList => JobListViewController.fetched s user
  | map => JobPostMapViewController.fetched s user
  | profile => ProfileViewController.fetched s user

/-- The completion of a screen's `fetchUser`, which holds the controller weakly. -/
def State.completed (s : State) (screen : Screen) (result : Except String UserModel) : State :=
  if s.isAlive screen then
    match result with
    | .error message => { s with alerts := s.alerts ++ [(screen, ⟨"Error fetching account info", message⟩)] }
    | .ok user => screen.fetched s user
  else s

/-! ## Signing out -/

/-- `AuthService.signOutAccount` -/
def signOutAccount (s : State) : Option String → State
  | none =>
    if s.signOutDelegate then JobListViewController.didSignOut { s with currentUser := none }
    else { s with currentUser := none }
  -- `didSignOutWithError` is empty
  | some _ => s

/-! ## The main queue -/

/-- What the main queue can run next; after a trap, nothing. A view is loaded once, and before it appears;
there is a control to pull once it has been asked for; and the tab bar's controllers may be released once
the log-in screen has taken its place. -/
def step (s : State) (e : Event) : Option State := do
  guard (s.trapped = false)
  match e with
  | .viewDidLoad screen => do
    guard (s.isAlive screen = true ∧ s.isViewLoaded screen = false)
    some (screen.viewDidLoad { s with isViewLoaded := Function.update s.isViewLoaded screen true })
  | .viewDidAppear => do
    guard (s.isAlive .jobList = true ∧ s.isViewLoaded .jobList = true)
    some (JobListViewController.fetchBlogPosts s)
  | .viewWillAppear => do
    guard (s.isAlive .profile = true ∧ s.isViewLoaded .profile = true)
    some (ProfileViewController.fetchCurrentUser s)
  | .refresh => do
    guard (s.isAlive .jobList = true ∧ s.refreshControl = true)
    some (JobListViewController.fetchBlogPosts s)
  | .fetchUserReply i reply => do
    let f ← s.fetches[i]?
    let s := { s with fetches := s.fetches.eraseIdx i }
    match UserModel.fetchUser reply with
    | none => some s
    | some result => some (s.completed f.screen result)
  | .willSignOut error => do
    guard (s.currentUser.isSome = true)
    some { signOutAccount s error with loginShown := true }
  | .release screen => do
    guard (s.loginShown = true ∧ s.isAlive screen = true)
    -- the service holds its delegate weakly
    some { s with
      isAlive := Function.update s.isAlive screen false
      signOutDelegate := s.signOutDelegate && screen != .jobList }

end PetIT.Listener
