/-
The job system on its devices: the forms and detail screens write through the client of their device, and the job
lists, profiles and maps show what that client knows, the device's own writes included. A listener is raised a
snapshot at some moments, whether the server has been reached or not, and gets its snapshots in order, any time
later. Of the server it is taken that it answers a write in the event in which it applies or refuses it, and that of a
document it sends a device no state that is older than the one the device has.
-/
import PetIT.Live.Screen

namespace PetIT.Live

open Table (Coordinate)

/-! ## State -/

/-- The jobs, as the server and the forms and detail screens have them, every state the server has been in up to the
present one, the devices, and the screens that follow the collection. -/
structure State where
  job : Job.State
  history : List Job.Core
  devices : List Device
  /-- The device of each form. -/
  forms : List Nat
  /-- The device of each detail screen. -/
  details : List Nat
  /-- Every write so far, with the device it is from. -/
  sent : List (Nat × Write)
  screens : List Screen

/-- There is no device yet, and the server has nothing. -/
def State.init : State := ⟨.init, [Job.State.init.core], [], [], [], [], []⟩

/-- Something that happens on a device, between a device and the server, or on a screen. -/
inductive Event where
  | newDevice (user : String)
  | openForm (i : Nat)
  /-- what the user does on a form or a detail screen, and what the storage and the queries answer there -/
  | job (e : Job.Event)
  | deleteJobPost (i : Nat) (jobPost : JobPost)
  /-- The server answers the oldest write of a device. -/
  | answer (i : Nat) (error : Option String)
  /-- The server sends a device the document `id` as it is in the state at `version` of the history. -/
  | sync (i : Nat) (id : String) (version : Nat)
  | openList (i : Nat) (screen : Table.Screen)
  | openMap (i : Nat)
  /-- `fetchBlogPosts` after its reply -/
  | fetchBlogPosts (n : Nat)
  /-- `owner.didSet`, through `fetchOwnerPosts` -/
  | fetchOwnerPosts (n : Nat) (owner : UserModel)
  /-- The client raises a snapshot for a listener. -/
  | raise (n j : Nat)
  | receive (n j : Nat) (now : Int)
  | failed (n : Nat) (now : Int) (message : String)
  /-- a reload block, a row or a pin that is drawn or taken off, a location, or a tap -/
  | screen (n : Nat) (e : Content.Event)

/-! ## Writes -/

/-- The job system and the server's history move on. -/
def State.advance (s : State) (job : Job.State) : State := { s with job := job, history := s.history ++ [job.core] }

/-- A device sends a write. -/
def State.send (s : State) (i : Nat) (w : Write) : Option State := do
  let d ← s.devices[i]?
  some { s with devices := s.devices.set i (d.send w), sent := s.sent ++ [(i, w)] }

/-- An Add Job Post form is opened on a device. -/
def openForm (resolve : String → Option String) (s : State) (i : Nat) : Option State := do
  let _ ← s.devices[i]?
  let job ← Job.step resolve s.job .openForm
  some { s.advance job with forms := s.forms ++ [i] }

/-- A post is sent when its press has the URL of the image, a booking at once. -/
def job (resolve : String → Option String) (s : State) (e : Job.Event) : Option State := do
  let job ← Job.step resolve s.job e
  match e with
  | .downloadURLReply k _ _ =>
    let p ← job.posts[k]?
    match p.phase with
    | .posting jobPost =>
      let i ← s.forms[p.form]?
      (s.advance job).send i (.post k jobPost)
    | _ => some (s.advance job)
  | .bookJobButtonPressed n =>
    let d ← s.job.screens[n]?
    let i ← s.details[n]?
    (s.advance job).send i (.book s.job.bookings.length d.jobPost.postId)
  | .edit .. | .postButtonPressed .. | .uploadReply .. | .profileUpload .. | .viewWillAppear _ | .fetchUserReply ..
  | .updateUI _ => some (s.advance job)
  | _ => none

/-- `deleteJobPost`, which sends the deletion -/
def deleteJobPost (resolve : String → Option String) (s : State) (i : Nat) (jobPost : JobPost) : Option State := do
  let job ← Job.step resolve s.job (.deleteJobPost jobPost)
  (s.advance job).send i (.delete jobPost.postId)

/-- The reply to a write, which is in flight among those of the job system. -/
def Write.reply (job : Job.State) (error : Option String) : Write → Job.Event
  | .post k _ => .postJobReply k error
  | .book b _ => .bookReply b error
  | .delete postId => .deleteReply (job.deletions.idxOf postId) error

/-- The server applies or refuses the oldest write of a device, and answers it. -/
def answer (resolve : String → Option String) (s : State) (i : Nat) (error : Option String) : Option State := do
  let d ← s.devices[i]?
  let (w, d) ← d.answer error.isNone s.history.length
  let job ← Job.step resolve s.job (w.reply s.job error)
  some { s.advance job with devices := s.devices.set i d }

/-- The client takes the document if it has none, or one that is not newer. That a document is not there it is told
only of one it knows. -/
def sync (s : State) (i : Nat) (id : String) (version : Nat) : Option State := do
  let d ← s.devices[i]?
  let core ← s.history[version]?
  guard (d.versions id ≤ version)
  guard ((core.jobPost.lookup id).isSome ∨ (d.replica.base.lookup id).isSome)
  some { s with devices := s.devices.set i (d.learn id (core.jobPost.lookup id) version) }

/-! ## Screens -/

/-- The state with another screen in its place. -/
def State.setScreen (s : State) (n : Nat) (sc : Screen) : State := { s with screens := s.screens.set n sc }

/-- A screen is opened on a device. -/
def openScreen (s : State) (i : Nat) (content : Content) : Option State := do
  let _ ← s.devices[i]?
  some { s with screens := s.screens ++ [{ device := i, content := content }] }

/-- `fetchBlogPosts` registers a listener on all posts. -/
def fetchBlogPosts (s : State) (n : Nat) : Option State := do
  let sc ← s.screens[n]?
  guard sc.content.asksAll
  some (s.setScreen n (sc.addSnapshotListener none))

/-- The client raises the collection as the device shows it, for a listener. -/
def raise (s : State) (n j : Nat) : Option State := do
  let sc ← s.screens[n]?
  let l ← sc.listeners[j]?
  let d ← s.devices[sc.device]?
  some (s.setScreen n { sc with listeners := sc.listeners.set j { l with feed := l.feed.send d.view } })

variable {D : Type} [LinearOrder D] (resolve : String → Option String) (pf : Table.Platform)
  (distance : Coordinate → Coordinate → D)

/-- `fetchOwnerPosts` registers a listener on the posts of the new owner. -/
def fetchOwnerPosts (s : State) (n : Nat) (owner : UserModel) : Option State := do
  let sc ← s.screens[n]?
  let content ← sc.content.step pf distance (.table (.fetchedOwner owner))
  some (s.setScreen n ({ sc with content := content }.addSnapshotListener (some owner.userId)))

/-- A listener's callback. The posts it is handed are those a detail screen can be opened with. -/
def receive (s : State) (n j : Nat) (now : Int) : Option State := do
  let sc ← s.screens[n]?
  let l ← sc.listeners[j]?
  let (v, feed) ← l.feed.receive
  let docs := query l.ownerId v
  let content ← sc.content.step pf distance (sc.content.snapshot now (.ok docs))
  some { s.setScreen n { sc with content := content, listeners := sc.listeners.set j { l with feed := feed } } with
    job := { s.job with delivered := s.job.delivered ++ docs.map JobPost.ofDict } }

/-- A listener's callback is handed an error. -/
def failed (s : State) (n : Nat) (now : Int) (message : String) : Option State := do
  let sc ← s.screens[n]?
  let content ← sc.content.step pf distance (sc.content.snapshot now (.error message))
  some (s.setScreen n { sc with content := content })

/-- What a screen does by itself, and what the user does with it. A tap hands the post to a detail screen, unless
the screen has trapped. -/
def screen (s : State) (n : Nat) (e : Content.Event) : Option State := do
  guard e.own
  let sc ← s.screens[n]?
  let content ← sc.content.step pf distance e
  let s' := s.setScreen n { sc with content := content }
  match content.opened.drop sc.content.opened.length with
  | [] => some s'
  | jobPost :: _ =>
    let d ← s.devices[sc.device]?
    let job ← Job.step resolve s.job (.openDetail d.user jobPost)
    some { s' with job := job, details := s.details ++ [sc.device] }

/-- The system, one event at a time. -/
def step (s : State) : Event → Option State
  | .newDevice user => some { s with devices := s.devices ++ [{ user := user }] }
  | .openForm i => openForm resolve s i
  | .job e => job resolve s e
  | .deleteJobPost i jobPost => deleteJobPost resolve s i jobPost
  | .answer i error => answer resolve s i error
  | .sync i id version => sync s i id version
  | .openList i screen => openScreen s i (.list screen .init)
  | .openMap i => openScreen s i (.map .init)
  | .fetchBlogPosts n => fetchBlogPosts s n
  | .fetchOwnerPosts n owner => fetchOwnerPosts pf distance s n owner
  | .raise n j => raise s n j
  | .receive n j now => receive pf distance s n j now
  | .failed n now message => failed pf distance s n now message
  | .screen n e => screen resolve pf distance s n e

end PetIT.Live
