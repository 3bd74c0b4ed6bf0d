/-
The two document formats: the values a field can hold and their casts, the keys of the `jobPost`
and `users` collections, the dictionaries the app writes and the models it decodes them to.
-/
import PetIT.Store.Collection

namespace PetIT

/-! ## Field values -/

/-- A `Double`, by its bit pattern: the app stores it, copies it and reads it back. -/
abbrev Double := BitVec 64

/-- What a field can hold; a nil `Optional` is stored as `null`. -/
inductive Value where
  | string (s : String)
  | double (d : Double)
  | null
  deriving DecidableEq, Repr

namespace Value

/-- `as? String` -/
def asString : Value → Option String
  | string s => some s
  | _ => none

/-- `as? Double` -/
def asDouble : Value → Option Double
  | double d => some d
  | _ => none

/-- An `Optional` string in a dictionary literal. -/
def ofOptional : Option String → Value
  | some s => string s
  | none => null

@[simp] theorem asString_string (s : String) : (string s).asString = some s := rfl

@[simp] theorem asString_ofOptional (o : Option String) : (ofOptional o).asString = o := by
  cases o <;> rfl

theorem string_injective : Function.Injective string := fun _ _ h => by cases h; rfl

end Value

/-- A document's dictionary. -/
abbrev Document := Store.Fields String Value

namespace Document

/-- `dict[key] as? String ?? dflt` -/
def string (d : Document) (key dflt : String) : String := ((d key).bind Value.asString).getD dflt

/-- `dict[key] as? Double ?? 0` -/
def double (d : Document) (key : String) : Double := ((d key).bind Value.asDouble).getD 0

end Document

/-! ## Job posts -/

/-- A job post, as the app has it. -/
structure JobPost where
  createdDate : String
  postId : String
  ownerId : String
  sitterId : Option String
  imageURLString : String
  jobDescription : String
  petBio : String
  timeFrame : String
  wage : String
  lat : Double
  long : Double
  status : String
  deriving DecidableEq, Repr

namespace JobPostCollectionKeys

@[simp] def createdDateKey : String := "createdDate"
@[simp] def postIdKey : String := "postId"
@[simp] def ownerIdKey : String := "ownerId"
@[simp] def sitterIdKey : String := "sitterId"
@[simp] def imageURLStringKey : String := "imageURLString"
@[simp] def jobDescriptionKey : String := "jobDescription"
@[simp] def timeFrameKey : String := "timeFrame"
@[simp] def wageKey : String := "wage"
@[simp] def petBioKey : String := "petBio"
@[simp] def latKey : String := "lat"
@[simp] def longKey : String := "long"
@[simp] def statusKey : String := "status"

end JobPostCollectionKeys

namespace JobPost

open JobPostCollectionKeys

/-- The dictionary `postJob` writes. -/
def postJob (p : JobPost) : Document :=
  Store.Fields.ofList [
    (createdDateKey, .string p.createdDate),
    (ownerIdKey, .string p.ownerId),
    (jobDescriptionKey, .string p.jobDescription),
    (imageURLStringKey, .string p.imageURLString),
    (postIdKey, .string p.postId),
    (sitterIdKey, .ofOptional p.sitterId),
    (timeFrameKey, .string p.timeFrame),
    (wageKey, .string p.wage),
    (petBioKey, .string p.petBio),
    (latKey, .double p.lat),
    (longKey, .double p.long),
    (statusKey, .string p.status)]

/-- `JobPost.init(dict:)` -/
def ofDict (d : Document) : JobPost where
  createdDate := d.string createdDateKey ""
  postId := d.string postIdKey ""
  ownerId := d.string ownerIdKey ""
  sitterId := some (d.string sitterIdKey "")
  imageURLString := d.string imageURLStringKey ""
  jobDescription := d.string jobDescriptionKey ""
  timeFrame := d.string timeFrameKey ""
  wage := d.string wageKey ""
  petBio := d.string petBioKey ""
  lat := d.double latKey
  long := d.double longKey
  status := d.string statusKey ""

@[simp] theorem postJob_status (p : JobPost) : p.postJob statusKey = some (.string p.status) := by
  simp [postJob]

@[simp] theorem postJob_sitterId (p : JobPost) :
    p.postJob sitterIdKey = some (.ofOptional p.sitterId) := by
  simp [postJob]

end JobPost

/-! ## Users -/

/-- A user, as the app has them. -/
structure UserModel where
  userId : String
  displayName : String
  email : String
  photoURL : Option String
  petPhotoURL : Option String
  joinedDate : String
  firstName : Option String
  lastName : Option String
  bio : Option String
  petBio : Option String
  rating : Option Double
  qualifications : Option String
  deriving DecidableEq, Repr

namespace UsersCollectionKeys

@[simp] def userIdKey : String := "userId"
@[simp] def displayNameKey : String := "displayName"
@[simp] def firstNameKey : String := "firstName"
@[simp] def lastNameKey : String := "lastName"
@[simp] def emailKey : String := "email"
@[simp] def photoURLKey : String := "photoURL"
@[simp] def joinedDateKey : String := "joinedDate"
@[simp] def bioKey : String := "bio"
@[simp] def petBioKey : String := "petBio"
@[simp] def petPhotoURLKey : String := "petPhotoURL"
@[simp] def ratingKey : String := "rating"
@[simp] def qualificationsKey : String := "qualifications"

end UsersCollectionKeys

namespace UserModel

open UsersCollectionKeys

/-- The dictionary `createUser` writes. -/
def createUser (u : UserModel) : Document :=
  Store.Fields.ofList [
    (userIdKey, .string u.userId),
    (displayNameKey, .string u.displayName),
    (emailKey, .string u.email),
    (photoURLKey, .string (u.photoURL.getD "")),
    (joinedDateKey, .string u.joinedDate),
    (bioKey, .string (u.bio.getD "")),
    (firstNameKey, .ofOptional u.firstName),
    (lastNameKey, .ofOptional u.lastName)]

/-- `UserModel.init(dict:)` -/
def ofDict (d : Document) : UserModel where
  userId := d.string userIdKey ""
  displayName := d.string displayNameKey ""
  email := d.string emailKey ""
  photoURL := some (d.string photoURLKey "")
  joinedDate := d.string joinedDateKey ""
  firstName := some (d.string firstNameKey "FirstName")
  lastName := some (d.string lastNameKey "LastName")
  bio := some (d.string bioKey "fellow users are looking forward to reading your bio")
  petPhotoURL := some (d.string petPhotoURLKey "")
  petBio := some (d.string petBioKey "fellow users are looking forward to reading your pet's bio")
  rating := some (d.double ratingKey)
  qualifications := some (d.string qualificationsKey "")

/-- What `fetchUser`'s completion is called with for a reply of the query: nothing at all when
no document matches. -/
def fetchUser {E : Type} : Except E (List Document) → Option (Except E UserModel)
  | .error e => some (.error e)
  | .ok (d :: _) => some (.ok (ofDict d))
  | .ok [] => none

end UserModel

end PetIT
