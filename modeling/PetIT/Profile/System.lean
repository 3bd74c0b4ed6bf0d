/-
The profile system: the sign-up's `createUser` calls and the Edit Profile screens of any number of
users over the Auth profiles, the storage and the `users` collection. A save uploads its image, asks for
its URL, and then writes the Auth profile and the document, each by a request of its own. As for job posts, a
write and the reply that reports it are one event.
-/
import PetIT.Model.Document
import PetIT.Model.Request
import PetIT.Model.Storage

namespace PetIT.Profile

open UsersCollectionKeys

/-! ## Screens and requests -/

/-- What covers the form: an alert, the action sheet of its photo button, or the image picker. -/
inductive Presented where
  | alert (a : Alert)
  | actionSheet
  | imagePicker
  deriving DecidableEq, Repr

/-- What covers the form is an alert. -/
def Presented.isAlert : Presented → Bool
  | .alert _ => true
  | _ => false

/-- `EditOwnerProfileTableViewController`: its text fields, `selectedImage?.jpegData(compressionQuality:
1.0)`, whether the Save button is enabled, and what the form has presented. -/
structure EditScreen where
  firstName : String
  lastName : String
  username : String
  userBio : String
  imageData : Option Data := none
  saveEnabled : Bool := true
  presented : Option Presented := none
  dismissed : Bool := false
  deriving DecidableEq, Repr

/-- What the closures of a save capture. -/
structure Captured where
  uid : String
  imageData : Data
  displayName : String
  firstName : String
  lastName : String
  userBio : String
  deriving DecidableEq, Repr

/-- How far a save has come: `writing` once `commitChanges` and `updateData` have both been sent. -/
inductive SavePhase where
  | uploading
  | fetchingURL
  | writing (imageURL : String) (commit update : Half)
  | failed
  deriving DecidableEq, Repr

/-- A press of the Save button that has got past the guards, with what it has captured. -/
structure Save where
  screen : Nat
  captured : Captured
  phase : SavePhase
  deriving DecidableEq, Repr

/-- A save with no request in flight. -/
def Save.Settled (p : Save) : Prop :=
  match p.phase with
  | .uploading | .fetchingURL => False
  | .writing _ commit update => commit ≠ .inFlight ∧ update ≠ .inFlight
  | .failed => True

instance (p : Save) : Decidable p.Settled := by
  unfold Save.Settled
  split <;> infer_instance

/-- A `createUser` call. -/
structure Create where
  user : UserModel
  phase : Half
  deriving DecidableEq, Repr

/-- The profile of an Auth account; a photo URL is its `absoluteString`. -/
structure AuthProfile where
  displayName : Option String := none
  photoURL : Option String := none
  deriving DecidableEq, Repr

/-- A profile write that has applied: by which save, to whose profile, and what it wrote. -/
structure Applied (ν : Type) where
  save : Nat
  uid : String
  value : ν

/-- The Edit Profile screens of all devices, the requests in flight, and what they have been written to. -/
structure State where
  screens : List EditScreen
  creates : List Create
  saves : List Save
  users : Store.Collection String String Value
  auth : String → AuthProfile
  puts : List (Put Nat)
  /-- The `createUser` writes the store has applied, newest first. -/
  created : List UserModel
  /-- The `commitChanges` Auth has applied, newest first. -/
  commits : List (Applied AuthProfile)
  /-- The `updateData` of saves the store has applied, newest first. -/
  updates : List (Applied Document)

/-- Nobody has started anything on these profiles and documents. -/
def State.start (users : Store.Collection String String Value) (auth : String → AuthProfile) : State :=
  ⟨[], [], [], users, auth, [], [], [], []⟩

/-- Nobody has signed up. -/
def State.init : State := State.start ∅ fun _ => {}

/-- What the user does on a form, other than to save. -/
inductive Touch where
  | edit (firstName lastName username userBio : String)
  | profileImageButtonPressed
  /-- "Photo Library" or "Camera" in the action sheet -/
  | sourceChosen
  | actionSheetCancelled
  | didFinishPicking (imageData : Option Data)
  | didCancelPicking
  | okPressed
  | cancelButtonPressed

/-- What the users do, and the replies to the requests. -/
inductive Event where
  | createUser (user : UserModel)
  | createUserReply (k : Nat) (error : Option String)
  | openEdit (owner : UserModel)
  | touch (i : Nat) (t : Touch)
  | saveButtonPressed (i : Nat) (currentUser : Option String)
  | uploadReply (k : Nat) (ok : Bool)
  | downloadURLReply (k : Nat) (reply : Except String String)
  | commitReply (k : Nat) (error : Option String)
  | updateReply (k : Nat) (error : Option String)

/-! ## Sign-up -/

/-- `createUser` is called with the uid of a new account: no call has been made with it, and there is
no document with it. -/
def createUser (s : State) (user : UserModel) : Option State := do
  guard ((∀ c ∈ s.creates, c.user.userId ≠ user.userId) ∧ s.users.lookup user.userId = none)
  some { s with creates := s.creates ++ [⟨user, .inFlight⟩] }

/-- The reply to `createUser`; one that reports success also creates the document. -/
def createUserReply (s : State) (k : Nat) (error : Option String) : Option State := do
  let c ← s.creates[k]?
  guard (c.phase = .inFlight)
  match error with
  | none => some { s with
      users := s.users.setData c.user.userId c.user.createUser
      creates := s.creates.set k { c with phase := .applied }
      created := c.user :: s.created }
  | some _ => some { s with creates := s.creates.set k { c with phase := .failed } }

/-! ## The Edit Profile screen -/

/-- The screen as `updateUI` fills it in. -/
def EditScreen.ofOwner (owner : UserModel) : EditScreen where
  firstName := owner.firstName.getD ""
  lastName := owner.lastName.getD ""
  username := owner.displayName
  userBio := owner.bio.getD ""

/-- The user can reach the form. -/
def EditScreen.Live (scr : EditScreen) : Prop := scr.dismissed = false ∧ scr.presented = none

instance (scr : EditScreen) : Decidable scr.Live := inferInstanceAs (Decidable (_ ∧ _))

/-- `present`. Of UIKit it is taken that a form presents one thing at a time, and nothing once it is gone. -/
def EditScreen.present (scr : EditScreen) (p : Presented) : EditScreen :=
  if scr.dismissed || scr.presented.isSome then scr else { scr with presented := some p }

/-- `dismiss(animated:)`: what the form has presented goes, and the form itself if there is nothing. -/
def EditScreen.dismiss (scr : EditScreen) : EditScreen :=
  if scr.presented.isSome then { scr with presented := none } else { scr with dismissed := true }

/-- The form presents an alert, unless it has presented something. -/
def EditScreen.showAlert (scr : EditScreen) (a : Alert) : EditScreen := scr.present (.alert a)

/-- Form `i` presents an alert. -/
def State.showAlert (s : State) (i : Nat) (a : Alert) : State :=
  { s with screens := s.screens.modify i (·.showAlert a) }

/-- The guard of `saveButtonPressed`. -/
def EditScreen.capture (scr : EditScreen) (currentUser : Option String) : Option Captured :=
  match scr.imageData, currentUser with
  | some imageData, some uid =>
    if scr.username.isEmpty then none else some {
      uid := uid
      imageData := imageData
      displayName := scr.username
      firstName := scr.firstName
      lastName := scr.lastName
      userBio := scr.userBio }
  | _, _ => none

/-- Pressed while enabled. The button stays disabled when the guard fails. -/
def saveButtonPressed (s : State) (i : Nat) (currentUser : Option String) : Option State := do
  let scr ← s.screens[i]?
  guard (scr.saveEnabled = true ∧ scr.Live)
  let s := { s with screens := s.screens.set i { scr with saveEnabled := false } }
  match scr.capture currentUser with
  | none => some (s.showAlert i ⟨"Missing Fields", "A photo and username are Required"⟩)
  | some c => some { s with saves := s.saves ++ [⟨i, c, .uploading⟩] }

/-- What a touch makes of the form, which must be in a state to take it. -/
def EditScreen.touch (scr : EditScreen) : Touch → Option EditScreen
  | .edit firstName lastName username userBio => do
    guard scr.Live
    some { scr with firstName := firstName, lastName := lastName, username := username, userBio := userBio }
  | .profileImageButtonPressed => do
    guard scr.Live
    some (scr.present .actionSheet)
  | .sourceChosen => do
    guard (scr.presented = some .actionSheet)
    -- the sheet goes, and then its handler presents the picker
    some ({ scr with presented := none }.present .imagePicker)
  | .actionSheetCancelled => do
    guard (scr.presented = some .actionSheet)
    some { scr with presented := none }
  | .didFinishPicking imageData => do
    guard (scr.presented = some .imagePicker)
    match imageData with
    -- without an original image the picker stays
    | none => some scr
    | some imageData => some { scr with imageData := some imageData }.dismiss
  | .didCancelPicking => do
    guard (scr.presented = some .imagePicker)
    some scr.dismiss
  | .okPressed => do
    guard (scr.presented.any Presented.isAlert)
    some { scr with presented := none }
  -- a save in flight is not called off
  | .cancelButtonPressed => do
    guard scr.Live
    some scr.dismiss

/-- The user does something on form `i`. -/
def touch (s : State) (i : Nat) (t : Touch) : Option State := do
  let scr ← s.screens[i]?
  let scr ← scr.touch t
  some { s with screens := s.screens.set i scr }

/-! ## The requests of a save -/

/-- The save moves on. -/
def State.setPhase (s : State) (k : Nat) (p : Save) (phase : SavePhase) : State :=
  { s with saves := s.saves.set k { p with phase := phase } }

/-- Where the image of a save goes: every save of a user to the same object. -/
def Captured.path (c : Captured) : String := profileImage c.uid

/-- The Auth profile a save asks for. -/
def Captured.changeRequest (c : Captured) (imageURL : String) : AuthProfile where
  displayName := some c.displayName
  photoURL := some imageURL

/-- The fields a save updates. -/
def Captured.updateData (c : Captured) (imageURL : String) : Document :=
  Store.Fields.ofList [
    (photoURLKey, .string imageURL),
    (displayNameKey, .string c.displayName),
    (firstNameKey, .string c.firstName),
    (lastNameKey, .string c.lastName),
    (bioKey, .string c.userBio)]

/-- The upload ends. Only `.success` is observed: a failed upload calls nobody. -/
def uploadReply (s : State) (k : Nat) (ok : Bool) : Option State := do
  let p ← s.saves[k]?
  guard (p.phase = .uploading)
  if ok then
    some { s.setPhase k p .fetchingURL with puts := ⟨k, p.captured.path, p.captured.imageData⟩ :: s.puts }
  else
    some (s.setPhase k p .failed)

/-- The reply to `downloadURL`: a URL of the uploaded object, on which both writes are sent, the form dismisses what
it has presented or else itself, and Save is enabled. -/
def downloadURLReply (resolve : String → Option String) (s : State) (k : Nat)
    (reply : Except String String) : Option State := do
  let p ← s.saves[k]?
  guard (p.phase = .fetchingURL)
  match reply with
  | .error message => some ((s.setPhase k p .failed).showAlert p.screen ⟨"Error Saving Photo", message⟩)
  | .ok url =>
    guard (resolve url = some p.captured.path)
    -- the screen waits for neither write
    some { s.setPhase k p (.writing url .inFlight .inFlight) with
      screens := s.screens.modify p.screen fun scr => { scr.dismiss with saveEnabled := true } }

/-- The reply to `commitChanges`, which changes the Auth profile if it reports success. -/
def commitReply (s : State) (k : Nat) (error : Option String) : Option State := do
  let p ← s.saves[k]?
  match p.phase with
  | .writing url .inFlight update =>
    match error with
    | none => some { s.setPhase k p (.writing url .applied update) with
        auth := Function.update s.auth p.captured.uid (p.captured.changeRequest url)
        commits := ⟨k, p.captured.uid, p.captured.changeRequest url⟩ :: s.commits }
    | some message => some ((s.setPhase k p (.writing url .failed update)).showAlert p.screen
        ⟨"Error Saving Account Info", message⟩)
  | _ => none

/-- The document update applies, which takes an existing document, or fails. -/
def updateReply (s : State) (k : Nat) (error : Option String) : Option State := do
  let p ← s.saves[k]?
  match p.phase with
  | .writing url commit .inFlight =>
    match error with
    | none =>
      let users ← s.users.updateData p.captured.uid (p.captured.updateData url)
      some { s.setPhase k p (.writing url commit .applied) with
        users := users
        updates := ⟨k, p.captured.uid, p.captured.updateData url⟩ :: s.updates }
    | some message => some ((s.setPhase k p (.writing url commit .failed)).showAlert p.screen
        ⟨"Error Saving Account Info", message⟩)
  | _ => none

/-! ## The system -/

/-- The profile system, one event at a time. -/
def step (resolve : String → Option String) (s : State) : Event → Option State
  | .createUser user => createUser s user
  | .createUserReply k error => createUserReply s k error
  | .openEdit owner => some { s with screens := s.screens ++ [.ofOwner owner] }
  | .touch i t => touch s i t
  | .saveButtonPressed i currentUser => saveButtonPressed s i currentUser
  | .uploadReply k ok => uploadReply s k ok
  | .downloadURLReply k reply => downloadURLReply resolve s k reply
  | .commitReply k error => commitReply s k error
  | .updateReply k error => updateReply s k error

/-- What `fetchUser` reads of the collection. -/
def State.fetchUser (s : State) (userId : String) : Option (Except String UserModel) :=
  UserModel.fetchUser (.ok (s.users.whereField userIdKey (.string userId)))

end PetIT.Profile
