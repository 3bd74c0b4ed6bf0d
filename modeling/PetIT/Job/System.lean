/-
The job system: the Add Job Post forms and the Job Post Detail screens of any number of users over
one `jobPost` collection and one storage, with every request the app has in flight. An event is
something a user does, a reply of the server, or a block of the main queue; a reply that reports
success also applies the write, so a write and its completion are one event.
-/
import PetIT.Model.Document
import PetIT.Model.Request
import PetIT.Model.Storage

namespace PetIT.Job

open JobPostCollectionKeys

/-! ## Screens and requests -/

/-- What `AddJobPostViewController` shows and holds; `imageData` is
`selectedImage?.jpegData(compressionQuality: 1.0)`. -/
structure AddJobPostForm where
  jobDescription : String := "Set Tasks..."
  petBio : String := "Tell me about your pets..."
  timeFrame : String := ""
  wages : String := ""
  locationTitle : String := "Add Location"
  latitude : Double := 0
  longitude : Double := 0
  imageData : Option Data := none
  deriving DecidableEq, Repr

/-- What the closures of a guarded Post press capture. -/
structure Captured where
  uid : String
  postDescription : String
  petDescription : String
  jobWage : String
  jobTimeFrame : String
  imageData : Data
  userLat : Double
  userLong : Double
  deriving DecidableEq, Repr

/-- How far the requests of a Post press have come. -/
inductive PostPhase where
  | uploading
  | fetchingURL
  | posting (jobPost : JobPost)
  | posted (jobPost : JobPost)
  | failed
  deriving DecidableEq, Repr

/-- A press of the Post button that got past the guards: its form, the id it has drawn and what it has captured. -/
structure Post where
  form : Nat
  docId : String
  captured : Captured
  phase : PostPhase
  deriving DecidableEq, Repr

/-- The storage path of a press's image. -/
def Post.path (p : Post) : String := petImage p.captured.uid p.docId

/-- An Add Job Post screen, and the alerts it was told to show. -/
structure FormScreen where
  form : AddJobPostForm := {}
  alerts : List Alert := []
  deriving DecidableEq, Repr

/-- The views of `JobPostDetailViewController`, as the storyboard sets them up. -/
structure DetailView where
  ownerPhoto : Option String := none
  petImage : Option String := none
  fullname : Option String := some "Fullname"
  username : String := "Username"
  jobDescription : String := "Job Description"
  petBio : String := "Dog Bio"
  jobTimeFrame : String := ""
  jobWages : String := ""
  bookTitle : String := "Book Job"
  bookEnabled : Bool := true
  deriving DecidableEq, Repr

/-- A Job Post Detail screen: its user, its copy of the post, the owner it was answered with last, and what it shows. -/
structure DetailScreen where
  user : String
  jobPost : JobPost
  userModel : Option UserModel := none
  /-- `fetchUser` requests in flight. -/
  fetches : Nat := 1
  /-- `updateUI` blocks in the main queue. -/
  updates : Nat := 0
  view : DetailView := {}
  alerts : List Alert := []
  deriving DecidableEq, Repr

/-- What has become of a booking write. -/
inductive BookPhase where
  | inFlight
  | applied
  | failed
  deriving DecidableEq, Repr

/-- A booking write and the press behind it. -/
structure Booking where
  screen : Nat
  user : String
  postId : String
  phase : BookPhase
  deriving DecidableEq, Repr

/-- Whose upload an object of the storage is: a Post press's, or a profile's. -/
inductive Writer where
  | post (k : Nat)
  | profile (uid : String)
  deriving DecidableEq, Repr

/-- The screens of all users, the `jobPost` collection, the storage, and what is in flight between them. -/
structure State where
  forms : List FormScreen
  posts : List Post
  screens : List DetailScreen
  bookings : List Booking
  /-- The ids of the `delete` requests in flight. -/
  deletions : List String
  jobPost : Store.Collection String String Value
  puts : List (Put Writer)
  /-- Every value a snapshot has handed to some list, map or profile. -/
  delivered : List JobPost

/-- Nothing has been posted. -/
def State.init : State := ⟨[], [], [], [], [], ∅, [], []⟩

/-- Something a user does, a reply of the server, or a block of the main queue. -/
inductive Event where
  | openForm
  | edit (f : Nat) (form : AddJobPostForm)
  | postButtonPressed (f : Nat) (currentUser : Option String) (docId : String)
  | uploadReply (k : Nat) (ok : Bool)
  | downloadURLReply (k : Nat) (url : Option String) (createdDate : String)
  | postJobReply (k : Nat) (error : Option String)
  | profileUpload (uid : String) (imageData : Data)
  | snapshot
  | openDetail (user : String) (jobPost : JobPost)
  | viewWillAppear (i : Nat)
  | fetchUserReply (i : Nat) (reply : Except String (List Document))
  | updateUI (i : Nat)
  | bookJobButtonPressed (i : Nat)
  | bookReply (b : Nat) (error : Option String)
  | deleteJobPost (jobPost : JobPost)
  | deleteReply (d : Nat) (error : Option String)

/-! ## The Add Job Post form -/

/-- The guards of `postButtonPressed`: the alert of the first that fails, or what the closures
capture. -/
def capture (form : AddJobPostForm) (currentUser : Option String) : Except String Captured :=
  -- the location by the title of its button, then the texts, the image and the user
  if form.locationTitle ≠ "Location Added" then
    .error "Unable to post. Choose a location."
  else if form.jobDescription.isEmpty || form.petBio.isEmpty || form.wages.isEmpty ||
      form.timeFrame.isEmpty then
    .error "Unable to post. Please fill in the required fields."
  else match form.imageData with
    | none => .error "Unable to post. Please fill in the required fields."
    | some imageData =>
      match currentUser with
      | none => .error "Unable to post. Please login to post."
      | some uid => .ok {
          uid := uid
          postDescription := form.jobDescription
          petDescription := form.petBio
          jobWage := form.wages
          jobTimeFrame := form.timeFrame
          imageData := imageData
          userLat := form.latitude
          userLong := form.longitude }

/-- The post built once the image has a URL. -/
def Captured.jobPost (c : Captured) (docId imageURL createdDate : String) : JobPost where
  createdDate := createdDate
  postId := docId
  ownerId := c.uid
  sitterId := none
  imageURLString := imageURL
  jobDescription := c.postDescription
  timeFrame := c.jobTimeFrame
  wage := c.jobWage
  petBio := c.petDescription
  lat := c.userLat
  long := c.userLong
  status := "PENDING"

/-- The form is told to show an alert. -/
def FormScreen.showAlert (f : FormScreen) (a : Alert) : FormScreen :=
  { f with alerts := f.alerts ++ [a] }

/-- Form `f` is told to show an alert. -/
def State.showFormAlert (s : State) (f : Nat) (a : Alert) : State :=
  { s with forms := s.forms.modify f (·.showAlert a) }

/-- The user changes what is on the form. -/
def edit (s : State) (f : Nat) (form : AddJobPostForm) : State :=
  { s with forms := s.forms.modify f fun fs => { fs with form := form } }

/-- `document()` draws an id no press has drawn before, without a slash. -/
def State.freshId (s : State) (docId : String) : Prop :=
  (∀ p ∈ s.posts, p.docId ≠ docId) ∧ '/' ∉ docId.toList

instance (s : State) (docId : String) : Decidable (s.freshId docId) :=
  inferInstanceAs (Decidable (_ ∧ _))

/-- `postButtonPressed`: the alert of the guard that fails, or a new press, whose upload starts. -/
def postButtonPressed (s : State) (f : Nat) (currentUser : Option String) (docId : String) :
    Option State := do
  let fs ← s.forms[f]?
  match capture fs.form currentUser with
  | .error title => some (s.showFormAlert f ⟨title, ""⟩)
  | .ok c =>
    guard (s.freshId docId)
    some { s with posts := s.posts ++ [⟨f, docId, c, .uploading⟩] }

/-- The press moves on. -/
def State.setPhase (s : State) (k : Nat) (p : Post) (phase : PostPhase) : State :=
  { s with posts := s.posts.set k { p with phase := phase } }

/-- The upload ends. Only `.success` is observed: a failed upload calls nobody. -/
def uploadReply (s : State) (k : Nat) (ok : Bool) : Option State := do
  let p ← s.posts[k]?
  guard (p.phase = .uploading)
  if ok then
    some { s.setPhase k p .fetchingURL with puts := ⟨.post k, p.path, p.captured.imageData⟩ :: s.puts }
  else
    some (s.setPhase k p .failed)

/-- The reply to `downloadURL`, at the time `createdDate`. A URL the storage hands out for an
object resolves to it; `resolve` is the storage's own map from URLs to paths. -/
def downloadURLReply (resolve : String → Option String) (s : State) (k : Nat) (url : Option String)
    (createdDate : String) : Option State := do
  let p ← s.posts[k]?
  guard (p.phase = .fetchingURL)
  match url with
  | none => some (s.setPhase k p .failed)
  | some url =>
    guard (resolve url = some p.path)
    some (s.setPhase k p (.posting (p.captured.jobPost p.docId url createdDate)))

/-- The reply to `postJob`, in an alert; a reply that reports success also creates the document. -/
def postJobReply (s : State) (k : Nat) (error : Option String) : Option State := do
  let p ← s.posts[k]?
  match p.phase with
  | .posting jobPost =>
    match error with
    | some message => some ((s.setPhase k p .failed).showFormAlert p.form ⟨"Posting Job Error", message⟩)
    -- the document is addressed by the post's own id
    | none => some ({ s.setPhase k p (.posted jobPost) with
        jobPost := s.jobPost.setData jobPost.postId jobPost.postJob }.showFormAlert p.form
          ⟨"Job Posted", "This Job will be added to your Job feed."⟩)
  | _ => none

/-! ## The Job Post Detail screen -/

/-- The detail screen is told to show an alert. -/
def DetailScreen.showAlert (d : DetailScreen) (a : Alert) : DetailScreen :=
  { d with alerts := d.alerts ++ [a] }

/-- `updateUI`; it traps on a nil `userModel`. -/
def DetailScreen.updateUI (d : DetailScreen) : Option DetailScreen :=
  d.userModel.map fun user => { d with view := {
    -- without a photo URL, or with an empty one, the image stays
    ownerPhoto := match user.photoURL with
      | some photoURL => if photoURL.isEmpty then d.view.ownerPhoto else some photoURL
      | none => d.view.ownerPhoto
    petImage := some d.jobPost.imageURLString
    fullname := user.firstName
    username := "@" ++ user.displayName
    jobDescription := d.jobPost.jobDescription
    petBio := d.jobPost.petBio
    jobTimeFrame := d.jobPost.timeFrame
    jobWages := d.jobPost.wage
    bookTitle := if d.jobPost.status = "PENDING" then "Book Job" else "BOOKED"
    bookEnabled := d.jobPost.status = "PENDING" } }

/-- The completion of `updateUserImageAndUsername`'s fetch; setting `userModel` queues an
`updateUI` block. -/
def DetailScreen.fetched (d : DetailScreen) (reply : Except String (List Document)) : DetailScreen :=
  match UserModel.fetchUser reply with
  | none => d
  | some (.error message) => d.showAlert ⟨"Error getting username", message⟩
  | some (.ok user) => { d with userModel := some user, updates := d.updates + 1 }

/-- The button's new title and the alert, before the write is even sent. -/
def DetailScreen.book (d : DetailScreen) : DetailScreen :=
  { d with view := { d.view with bookTitle := "Job Accepted" } }.showAlert
    ⟨"Job Booked", "Thank You for booking with us!"⟩

/-- A detail screen is opened with a post that some snapshot has brought. -/
def openDetail (s : State) (user : String) (jobPost : JobPost) : Option State := do
  guard (jobPost ∈ s.delivered)
  some { s with screens := s.screens ++ [{ user := user, jobPost := jobPost }] }

/-- `viewWillAppear`, which fetches the owner again -/
def viewWillAppear (s : State) (i : Nat) : Option State := do
  let d ← s.screens[i]?
  some { s with screens := s.screens.set i { d with fetches := d.fetches + 1 } }

/-- The reply to `fetchUser`, on a detail screen that has asked. -/
def fetchUserReply (s : State) (i : Nat) (reply : Except String (List Document)) : Option State := do
  let d ← s.screens[i]?
  guard (0 < d.fetches)
  some { s with screens := s.screens.set i ({ d with fetches := d.fetches - 1 }.fetched reply) }

/-- An `updateUI` block of the main queue runs. -/
def updateUI (s : State) (i : Nat) : Option State := do
  let d ← s.screens[i]?
  guard (0 < d.updates)
  let d ← { d with updates := d.updates - 1 }.updateUI
  some { s with screens := s.screens.set i d }

/-- `bookJobButtonPressed`, while the button is enabled -/
def bookJobButtonPressed (s : State) (i : Nat) : Option State := do
  let d ← s.screens[i]?
  guard (d.view.bookEnabled = true)
  -- the write is sent for the screen's copy, whatever is stored by now
  some { s with
    screens := s.screens.set i d.book
    bookings := s.bookings ++ [⟨i, d.user, d.jobPost.postId, .inFlight⟩] }

/-- What the booking write changes. -/
def booked : Document := Store.Fields.ofList [(statusKey, .string "BOOKED")]

/-- The booking write applies, which takes an existing document, or fails. -/
def bookReply (s : State) (b : Nat) (error : Option String) : Option State := do
  let r ← s.bookings[b]?
  guard (r.phase = .inFlight)
  match error with
  | none =>
    let jobPost ← s.jobPost.updateData r.postId booked
    some { s with jobPost := jobPost, bookings := s.bookings.set b { r with phase := .applied } }
  | some message =>
    some { s with
      bookings := s.bookings.set b { r with phase := .failed }
      screens := s.screens.modify r.screen (·.showAlert ⟨"Editing Error", message⟩) }

/-- The deletion applies, or fails without a word. -/
def deleteReply (s : State) (d : Nat) (error : Option String) : Option State := do
  let id ← s.deletions[d]?
  match error with
  | none => some { s with jobPost := s.jobPost.delete id, deletions := s.deletions.eraseIdx d }
  | some _ => some { s with deletions := s.deletions.eraseIdx d }

/-! ## The system -/

/-- The posts a snapshot of the collection decodes to. -/
def State.snapshot (s : State) : List JobPost := s.jobPost.entries.map fun e => JobPost.ofDict e.2

/-- The job system, one event at a time. -/
def step (resolve : String → Option String) (s : State) : Event → Option State
  | .openForm => some { s with forms := s.forms ++ [{}] }
  | .edit f form => some (edit s f form)
  | .postButtonPressed f currentUser docId => postButtonPressed s f currentUser docId
  | .uploadReply k ok => uploadReply s k ok
  | .downloadURLReply k url createdDate => downloadURLReply resolve s k url createdDate
  | .postJobReply k error => postJobReply s k error
  | .profileUpload uid imageData =>
    some { s with puts := ⟨.profile uid, profileImage uid, imageData⟩ :: s.puts }
  | .snapshot => some { s with delivered := s.delivered ++ s.snapshot }
  | .openDetail user jobPost => openDetail s user jobPost
  | .viewWillAppear i => viewWillAppear s i
  | .fetchUserReply i reply => fetchUserReply s i reply
  | .updateUI i => updateUI s i
  | .bookJobButtonPressed i => bookJobButtonPressed s i
  | .bookReply b error => bookReply s b error
  | .deleteJobPost jobPost => some { s with deletions := s.deletions ++ [jobPost.postId] }
  | .deleteReply d error => deleteReply s d error

end PetIT.Job
