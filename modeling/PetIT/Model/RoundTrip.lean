/-
What decoding makes of an encoded model. Every field comes back as it was written, but for an `Optional` that
is nil, which the writer or the decoder replaces by a default, and but for the four fields of a user that
`createUser` does not write.
-/
import PetIT.Model.Document

namespace PetIT

/-! ## Casts -/

namespace Value

@[simp] theorem asDouble_double (d : Double) : (double d).asDouble = some d := rfl

@[simp] theorem ofOptional_none : ofOptional none = null := rfl

theorem ofOptional_eq_null {o : Option String} : ofOptional o = null ↔ o = none := by
  cases o <;> simp [ofOptional]

end Value

namespace Document

variable {d : Document} {key : String}

theorem string_eq {v : Value} (h : d key = some v) (dflt : String) : d.string key dflt = v.asString.getD dflt := by
  unfold string
  rw [h]; rfl

theorem string_missing (h : d key = none) (dflt : String) : d.string key dflt = dflt := by
  unfold string
  rw [h]; rfl

theorem double_missing (h : d key = none) : d.double key = 0 := by
  unfold double
  rw [h]; rfl

end Document

/-- An `Optional` that gets a default when it is nil is itself exactly when it is not. -/
theorem some_getD_eq {α : Type} {o : Option α} {dflt : α} : some (o.getD dflt) = o ↔ o ≠ none := by
  cases o <;> simp

/-! ## Job posts -/

namespace JobPost

open JobPostCollectionKeys

/-- The post as it is read back. -/
def filled (p : JobPost) : JobPost := { p with sitterId := some (p.sitterId.getD "") }

theorem ofDict_postJob (p : JobPost) : ofDict p.postJob = p.filled := by
  have hid : p.postJob.string sitterIdKey "" = p.sitterId.getD "" := by
    rw [Document.string_eq (postJob_sitterId p), Value.asString_ofOptional]
  unfold ofDict filled
  rw [hid]
  simp [Document.string, Document.double, postJob]

theorem filled_eq_self (p : JobPost) : p.filled = p ↔ p.sitterId ≠ none := by
  constructor
  · intro h
    exact some_getD_eq.1 (congrArg sitterId h)
  · intro h
    unfold filled
    rw [some_getD_eq.2 h]

end JobPost

/-! ## Users -/

namespace UserModel

open UsersCollectionKeys

/-- The keys `createUser` writes. -/
theorem createUser_isSome (u : UserModel) (key : String) : (u.createUser key).isSome = true ↔
    key ∈ [userIdKey, displayNameKey, emailKey, photoURLKey, joinedDateKey, bioKey, firstNameKey, lastNameKey] := by
  unfold createUser
  rw [Store.Fields.ofList_isSome]
  rfl

theorem createUser_missing (u : UserModel) {key : String}
    (h : key ∈ [petPhotoURLKey, petBioKey, ratingKey, qualificationsKey]) : u.createUser key = none := by
  rw [← Option.not_isSome_iff_eq_none, createUser_isSome]
  simp only [List.mem_cons, List.not_mem_nil, or_false] at h
  rcases h with rfl | rfl | rfl | rfl <;> decide

theorem createUser_firstName (u : UserModel) : u.createUser firstNameKey = some (.ofOptional u.firstName) := by
  simp [createUser]

theorem createUser_lastName (u : UserModel) : u.createUser lastNameKey = some (.ofOptional u.lastName) := by
  simp [createUser]

theorem createUser_bio (u : UserModel) : u.createUser bioKey = some (.string (u.bio.getD "")) := by
  simp [createUser]

theorem createUser_photoURL (u : UserModel) :
    u.createUser photoURLKey = some (.string (u.photoURL.getD "")) := by
  simp [createUser]

theorem createUser_displayName (u : UserModel) : u.createUser displayNameKey = some (.string u.displayName) := by
  simp [createUser]

/-- The user as they are read back: what `createUser` does not write is the decoder's. -/
def filled (u : UserModel) : UserModel := { u with
  photoURL := some (u.photoURL.getD "")
  firstName := some (u.firstName.getD "FirstName")
  lastName := some (u.lastName.getD "LastName")
  bio := some (u.bio.getD "")
  petPhotoURL := some ""
  petBio := some "fellow users are looking forward to reading your pet's bio"
  rating := some 0
  qualifications := some "" }

theorem ofDict_createUser (u : UserModel) : ofDict u.createUser = u.filled := by
  have hpetPhotoURL := createUser_missing u (show petPhotoURLKey ∈ _ by simp)
  have hpetBio := createUser_missing u (show petBioKey ∈ _ by simp)
  have hrating := createUser_missing u (show ratingKey ∈ _ by simp)
  have hqualifications := createUser_missing u (show qualificationsKey ∈ _ by simp)
  unfold ofDict filled
  rw [Document.string_missing hpetPhotoURL, Document.string_missing hpetBio, Document.double_missing hrating,
    Document.string_missing hqualifications, Document.string_eq (createUser_firstName u),
    Document.string_eq (createUser_lastName u)]
  simp [Document.string, createUser]

/-- A user nothing is lost of: no field `createUser` writes is nil, and the others are the decoder's
defaults. -/
structure Full (u : UserModel) : Prop where
  photoURL : u.photoURL ≠ none
  firstName : u.firstName ≠ none
  lastName : u.lastName ≠ none
  bio : u.bio ≠ none
  petPhotoURL : u.petPhotoURL = some ""
  petBio : u.petBio = some "fellow users are looking forward to reading your pet's bio"
  rating : u.rating = some 0
  qualifications : u.qualifications = some ""

theorem filled_eq_self (u : UserModel) : u.filled = u ↔ u.Full := by
  constructor
  · intro h
    exact ⟨some_getD_eq.1 (congrArg UserModel.photoURL h), some_getD_eq.1 (congrArg UserModel.firstName h),
      some_getD_eq.1 (congrArg UserModel.lastName h), some_getD_eq.1 (congrArg UserModel.bio h),
      (congrArg UserModel.petPhotoURL h).symm, (congrArg UserModel.petBio h).symm,
      (congrArg UserModel.rating h).symm, (congrArg UserModel.qualifications h).symm⟩
  · intro h
    cases u
    simp only [filled, mk.injEq, some_getD_eq, true_and]
    exact ⟨h.photoURL, h.petPhotoURL.symm, h.firstName, h.lastName, h.bio, h.petBio.symm, h.rating.symm,
      h.qualifications.symm⟩

end UserModel

/-! ## Both formats -/

/-- A post decodes to itself but for a nil `sitterId`, which is read as the empty string; a user decodes to
themselves but for nil fields, which are read as their defaults, and for the four fields that `createUser` does
not write. A nil `sitterId`, first or last name is stored as a null, which is no String and no Double; a nil photo
or bio is stored as the empty string. -/
theorem decode_encode :
    (∀ p : JobPost, JobPost.ofDict p.postJob = { p with sitterId := some (p.sitterId.getD "") } ∧
      (JobPost.ofDict p.postJob = p ↔ p.sitterId ≠ none) ∧
      (p.postJob JobPostCollectionKeys.sitterIdKey = some .null ↔ p.sitterId = none)) ∧
    (∀ u : UserModel, UserModel.ofDict u.createUser = { u with
        photoURL := some (u.photoURL.getD "")
        firstName := some (u.firstName.getD "FirstName")
        lastName := some (u.lastName.getD "LastName")
        bio := some (u.bio.getD "")
        petPhotoURL := some ""
        petBio := some "fellow users are looking forward to reading your pet's bio"
        rating := some 0
        qualifications := some "" } ∧
      (UserModel.ofDict u.createUser = u ↔ u.Full) ∧
      (u.createUser UsersCollectionKeys.firstNameKey = some .null ↔ u.firstName = none) ∧
      (u.createUser UsersCollectionKeys.lastNameKey = some .null ↔ u.lastName = none) ∧
      u.createUser UsersCollectionKeys.photoURLKey = some (.string (u.photoURL.getD "")) ∧
      u.createUser UsersCollectionKeys.bioKey = some (.string (u.bio.getD ""))) ∧
    Value.null.asString = none ∧ Value.null.asDouble = none := by
  refine ⟨fun p => ⟨JobPost.ofDict_postJob p, ?_, ?_⟩, fun u => ⟨UserModel.ofDict_createUser u, ?_, ?_, ?_,
    UserModel.createUser_photoURL u, UserModel.createUser_bio u⟩, rfl, rfl⟩
  · rw [JobPost.ofDict_postJob, JobPost.filled_eq_self]
  · rw [JobPost.postJob_sitterId, Option.some_inj, Value.ofOptional_eq_null]
  · rw [UserModel.ofDict_createUser, UserModel.filled_eq_self]
  · rw [UserModel.createUser_firstName, Option.some_inj, Value.ofOptional_eq_null]
  · rw [UserModel.createUser_lastName, Option.some_inj, Value.ofOptional_eq_null]

/-- A post as the form makes it, with nobody to sit yet. -/
def newPost : JobPost where
  createdDate := "2019-04-01T10:00:00Z"
  postId := "post"
  ownerId := "ann"
  sitterId := none
  imageURLString := "https://storage/post.jpg"
  jobDescription := "Walk the dog"
  petBio := "A beagle"
  timeFrame := "Monday"
  wage := "20"
  lat := 0
  long := 0
  status := "PENDING"

/-- A user as the sign-up makes them. -/
def newUser : UserModel where
  userId := "ann"
  displayName := "Ann"
  email := "ann@mail.com"
  photoURL := none
  petPhotoURL := none
  joinedDate := "2019-03-27T10:00:00Z"
  firstName := none
  lastName := none
  bio := none
  petBio := none
  rating := none
  qualifications := none

/-- What the app itself makes does not decode to itself. -/
theorem decode_encode_loses_nil : JobPost.ofDict newPost.postJob ≠ newPost ∧
    (JobPost.ofDict newPost.postJob).sitterId = some "" ∧ UserModel.ofDict newUser.createUser ≠ newUser ∧
    (UserModel.ofDict newUser.createUser).firstName = some "FirstName" := by
  decide

end PetIT
