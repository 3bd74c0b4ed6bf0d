/-
One Add Job Post form, from its opening on: the two text views, in which prompts of the app and text of the user share
one string, the fields, the image and the location, what covers the form, and the requests of its Post presses, which
go on when it is gone. Who entered a character is not in the source; it is kept here to say what a post consists of.
-/
import PetIT.Job.System

namespace PetIT

namespace Constants

/-- The prompt that stands in the job description. -/
def jobDescriptionPlaceholder : String := "Set Tasks..."
/-- The prompt that stands in the pet's bio. -/
def petBioPlaceholder : String := "Tell me about your pets..."

end Constants

namespace Form

open Job (AddJobPostForm Captured PostPhase capture)

/-! ## Text views -/

/-- A character of a text view, and whether the user entered it. -/
structure Typed where
  char : Char
  byUser : Bool
  deriving DecidableEq, Repr

/-- A text view, with the text and where each character of it is from. -/
structure TextView where
  chars : List Typed
  /-- It has been focused. -/
  begun : Bool := false
  /-- The text as the user left it, if they have changed it. -/
  entered : Option String := none
  deriving DecidableEq, Repr

/-- The text of the characters. -/
def textOf (chars : List Typed) : String := String.ofList (chars.map (·.char))

/-- `textView.text` -/
def TextView.text (v : TextView) : String := textOf v.chars

/-- A text that the app sets. -/
def byApp (text : String) : List Typed := text.toList.map fun c => ⟨c, false⟩

/-- A text that the user enters. -/
def byUser (text : String) : List Typed := text.toList.map fun c => ⟨c, true⟩

/-- The text is a prompt that `textViewDidBeginEditing` recognises, in whichever view it is. -/
def isPlaceholder (text : String) : Bool :=
  text = Constants.jobDescriptionPlaceholder || text = Constants.petBioPlaceholder

/-- Focusing a view erases what reads like a prompt. -/
def TextView.didBeginEditing (v : TextView) : TextView :=
  { v with chars := if isPlaceholder v.text then [] else v.chars, begun := true }

/-- What the view does with an edit it is allowed. -/
def TextView.replaceCharacters (v : TextView) (location length : Nat) (text : String) : TextView :=
  let chars := v.chars.take location ++ byUser text ++ v.chars.drop (location + length)
  { v with chars := chars, entered := some (textOf chars) }

/-! ## The form -/

/-- The two text views. -/
inductive View where
  | jobDescription
  | petBio
  deriving DecidableEq, Repr

/-- Whatever can be focused on the form. -/
inductive Field where
  | view (v : View)
  | timeFrame
  | wages
  deriving DecidableEq, Repr

/-- What covers the form: an alert, the one that ends it, the image picker or the location screen. -/
inductive Presented where
  | alert (a : Alert)
  | jobPosted
  | imagePicker
  | editLocation
  deriving DecidableEq, Repr

/-- The requests of a guarded Post press, and the text views it was made with. -/
structure Post where
  docId : String
  captured : Captured
  phase : PostPhase
  jobDescription : TextView
  petBio : TextView
  deriving DecidableEq, Repr

/-- The form as it is on screen, and the requests of its presses. -/
structure State where
  jobDescription : TextView := { chars := byApp "Set Tasks..." }
  petBio : TextView := { chars := byApp "Tell me about your pets..." }
  timeFrame : String := ""
  wages : String := ""
  locationTitle : String := "Add Location"
  latitude : Double := 0
  longitude : Double := 0
  imageData : Option Data := none
  focused : Option Field := none
  presented : Option Presented := none
  dismissed : Bool := false
  posts : List Post := []
  /-- Focusing a view has erased text of the user. -/
  erased : Bool := false
  deriving DecidableEq, Repr

/-- A touch of the user's, or a reply to a request of the form. -/
inductive Event where
  | beginEditing (field : Field)
  | endEditing
  | shouldChangeText (view : View) (location length : Nat) (text : String)
  | editTimeFrame (text : String)
  | editWages (text : String)
  | textFieldShouldReturn
  | petImageButtonPressed
  | didFinishPicking (imageData : Option Data)
  | didCancelPicking
  | editLocation
  | leaveEditLocation
  | unwindFromEditLocation (latitude longitude : Double)
  | cancelButtonPressed
  | postButtonPressed (currentUser : Option String) (docId : String)
  | okPressed
  | uploadReply (k : Nat) (ok : Bool)
  | downloadURLReply (k : Nat) (reply : Except String String) (createdDate : String)
  | postJobReply (k : Nat) (error : Option String)

namespace State

/-- The form as `postButtonPressed` reads it. -/
def form (s : State) : AddJobPostForm where
  jobDescription := s.jobDescription.text
  petBio := s.petBio.text
  timeFrame := s.timeFrame
  wages := s.wages
  locationTitle := s.locationTitle
  latitude := s.latitude
  longitude := s.longitude
  imageData := s.imageData

/-- The user can reach the form. -/
def Live (s : State) : Prop := s.dismissed = false ∧ s.presented = none

instance (s : State) : Decidable s.Live := inferInstanceAs (Decidable (_ ∧ _))

/-- The text view of the state. -/
def view (s : State) : View → TextView
  | .jobDescription => s.jobDescription
  | .petBio => s.petBio

/-- The state with another text view in its place. -/
def setView (s : State) (view : View) (v : TextView) : State :=
  match view with
  | .jobDescription => { s with jobDescription := v }
  | .petBio => { s with petBio := v }

/-- `present`. Of UIKit it is taken that a form presents one thing at a time, and nothing once it is gone. -/
def present (s : State) (p : Presented) : State :=
  if s.dismissed || s.presented.isSome then s else { s with presented := some p }

/-- The press moves on. -/
def setPhase (s : State) (k : Nat) (p : Post) (phase : PostPhase) : State :=
  { s with posts := s.posts.set k { p with phase := phase } }

end State

/-! ## Editing -/

/-- `textViewDidBeginEditing` -/
def textViewDidBeginEditing (s : State) (view : View) : State :=
  let v := s.view view
  -- text of the user is lost when it reads like a prompt
  let erases := isPlaceholder v.text && v.chars.any (·.byUser)
  { s.setView view v.didBeginEditing with focused := some (.view view), erased := s.erased || erases }

/-- A field or a view is focused. -/
def beginEditing (s : State) : Field → State
  | .view view => textViewDidBeginEditing s view
  | field => { s with focused := some field }

/-- `textView(_:shouldChangeTextIn:replacementText:)`, and the change if it is allowed; a line break ends the
editing instead. -/
def shouldChangeText (s : State) (view : View) (location length : Nat) (text : String) : State :=
  let v := s.view view
  if text = "\n" then
    let s := if v.text = "" then s.setView view { v with chars := byApp "Blog text..." } else s
    { s with focused := none }
  else
    s.setView view (v.replaceCharacters location length text)

/-! ## Posting -/

/-- `postButtonPressed`: the alert of the first guard that fails, or a new press with what it captures. -/
def postButtonPressed (s : State) (currentUser : Option String) (docId : String) : Option State :=
  match capture s.form currentUser with
  | .error title => some (s.present (.alert ⟨title, ""⟩))
  | .ok c => do
    -- `document()` draws an id of its own for every press
    guard (∀ p ∈ s.posts, p.docId ≠ docId)
    some { s with posts := s.posts ++ [⟨docId, c, .uploading, s.jobDescription, s.petBio⟩] }

/-- The upload ends; one that fails calls nobody. -/
def uploadReply (s : State) (k : Nat) (ok : Bool) : Option State := do
  let p ← s.posts[k]?
  guard (p.phase = .uploading)
  some (s.setPhase k p (if ok then .fetchingURL else .failed))

/-- The reply to `downloadURL`; the post is built with its URL. -/
def downloadURLReply (s : State) (k : Nat) (reply : Except String String) (createdDate : String) : Option State := do
  let p ← s.posts[k]?
  guard (p.phase = .fetchingURL)
  match reply with
  | .error _ => some (s.setPhase k p .failed)
  | .ok url => some (s.setPhase k p (.posting (p.captured.jobPost p.docId url createdDate)))

/-- The reply to `postJob`, in an alert. -/
def postJobReply (s : State) (k : Nat) (error : Option String) : Option State := do
  let p ← s.posts[k]?
  match p.phase with
  | .posting jobPost =>
    match error with
    | some message => some ((s.setPhase k p .failed).present (.alert ⟨"Posting Job Error", message⟩))
    | none => some ((s.setPhase k p (.posted jobPost)).present .jobPosted)
  | _ => none

/-- The OK of an alert; that of "Job Posted" ends the form. -/
def okPressed (s : State) : Option State :=
  match s.presented with
  | some (.alert _) => some { s with presented := none }
  | some .jobPosted => some { s with presented := none, dismissed := true }
  | _ => none

/-! ## The main queue -/

/-- What can happen next. The user reaches what is on top; replies come at any time. -/
def step (s : State) : Event → Option State
  | .beginEditing field => do
    guard (s.Live ∧ s.focused ≠ some field)
    some (beginEditing s field)
  | .endEditing => some { s with focused := none }
  | .shouldChangeText view location length text => do
    guard (s.Live ∧ s.focused = some (.view view))
    some (shouldChangeText s view location length text)
  | .editTimeFrame text => do
    guard (s.Live ∧ s.focused = some .timeFrame)
    some { s with timeFrame := text }
  | .editWages text => do
    guard (s.Live ∧ s.focused = some .wages)
    some { s with wages := text }
  | .textFieldShouldReturn => do
    guard (s.Live ∧ (s.focused = some .timeFrame ∨ s.focused = some .wages))
    some { s with focused := none }
  | .petImageButtonPressed => do
    guard s.Live
    some { s with presented := some .imagePicker }
  | .didFinishPicking imageData => do
    guard (s.presented = some .imagePicker)
    match imageData with
    -- without an original image the picker stays
    | none => some s
    | some imageData => some { s with imageData := some imageData, presented := none }
  | .didCancelPicking => do
    guard (s.presented = some .imagePicker)
    some { s with presented := none }
  | .editLocation => do
    guard s.Live
    some { s with presented := some .editLocation }
  | .leaveEditLocation => do
    guard (s.presented = some .editLocation)
    some { s with presented := none }
  | .unwindFromEditLocation latitude longitude => do
    guard (s.presented = some .editLocation)
    some { s with
      latitude := latitude, longitude := longitude, locationTitle := "Location Added", presented := none }
  | .cancelButtonPressed => do
    guard s.Live
    some { s with dismissed := true }
  | .postButtonPressed currentUser docId => do
    guard s.Live
    postButtonPressed s currentUser docId
  | .okPressed => okPressed s
  | .uploadReply k ok => uploadReply s k ok
  | .downloadURLReply k reply createdDate => downloadURLReply s k reply createdDate
  | .postJobReply k error => postJobReply s k error

end Form

end PetIT
