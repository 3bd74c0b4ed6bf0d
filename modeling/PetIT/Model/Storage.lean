/-
The app's object storage: the paths it writes images to, and the uploads that reached it, newest
first. An upload replaces the object at its path.
-/
import PetIT.Store.Log

namespace PetIT

/-- The bytes of an image. -/
abbrev Data := List UInt8

namespace StorageService

/-- `StorageKeys.ImagesKey + "/\(imageName)"` -/
def imagePath (imageName : String) : String := "images" ++ "/" ++ imageName

end StorageService

namespace Constants

/-- The folder of the posts' images. -/
def petImagePath : String := "blogImages/"
/-- The folder of the profile images. -/
def profileImagePath : String := "profileImages/"

end Constants

/-- Where the image of a job post goes. -/
def petImage (uid docId : String) : String :=
  StorageService.imagePath (Constants.petImagePath ++ (uid ++ "/" ++ docId))

/-- Where the profile image of a user goes. -/
def profileImage (uid : String) : String :=
  StorageService.imagePath (Constants.profileImagePath ++ uid)

/-- An upload that reached the storage, and who made it. -/
structure Put (ω : Type) where
  writer : ω
  path : String
  data : Data
  deriving DecidableEq, Repr

/-- The object at a path: what the last upload put there. -/
def object {ω : Type} (puts : List (Put ω)) (path : String) : Option (Put ω) :=
  Store.last Put.path puts path

/-! ## Paths do not collide -/

theorem splitOn_slash {a b a' b' : List Char} (hb : '/' ∉ b) (hb' : '/' ∉ b')
    (h : a ++ '/' :: b = a' ++ '/' :: b') : a = a' ∧ b = b' := by
  induction a generalizing a' with
  | nil =>
    rcases a' with _ | ⟨c, a'⟩
    · simpa using h
    · simp only [List.nil_append, List.cons_append, List.cons.injEq] at h
      obtain ⟨-, rfl⟩ := h
      simp at hb
  | cons c a ih =>
    rcases a' with _ | ⟨c', a'⟩
    · simp only [List.nil_append, List.cons_append, List.cons.injEq] at h
      obtain ⟨-, rfl⟩ := h
      simp at hb'
    · simp only [List.cons_append, List.cons.injEq] at h
      obtain ⟨rfl, h⟩ := h
      obtain ⟨rfl, rfl⟩ := ih h
      exact ⟨rfl, rfl⟩

/-- Two job images share a path only if the two ids are the same. -/
theorem petImage_inj {uid uid' id id' : String} (hid : '/' ∉ id.toList) (hid' : '/' ∉ id'.toList)
    (h : petImage uid id = petImage uid' id') : id = id' := by
  unfold petImage StorageService.imagePath at h
  have h := String.toList_inj.2 h
  simp only [String.toList_append, List.append_assoc, List.append_cancel_left_eq] at h
  have hs : ("/" : String).toList = ['/'] := by decide
  rw [hs] at h
  exact String.toList_inj.1 (splitOn_slash hid hid' h).2

theorem profileImage_inj {uid uid' : String} (h : profileImage uid = profileImage uid') : uid = uid' := by
  unfold profileImage StorageService.imagePath at h
  have h := String.toList_inj.2 h
  simp only [String.toList_append, List.append_assoc, List.append_cancel_left_eq] at h
  exact String.toList_inj.1 h

/-- A job image and a profile image never share a path. -/
theorem petImage_ne_profileImage (uid id uid' : String) : petImage uid id ≠ profileImage uid' := by
  intro h
  unfold petImage profileImage StorageService.imagePath at h
  have h := String.toList_inj.2 h
  simp only [String.toList_append, List.append_assoc, List.append_cancel_left_eq] at h
  have hp : Constants.petImagePath.toList = 'b' :: "logImages/".toList := by decide
  have hp' : Constants.profileImagePath.toList = 'p' :: "rofileImages/".toList := by decide
  rw [hp, hp'] at h
  simp at h

end PetIT
