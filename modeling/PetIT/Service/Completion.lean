/-
The completion closures of the services. Each function hands Firebase a block, looks at the two optionals the block
is given, and calls its own completion from some of the branches; an upload has a block for each status, and a
further request inside one of them. A reply that falls through all branches, or is observed by an empty block, is
answered with nothing.
-/
import PetIT.Model.Document

namespace PetIT.Service

variable {E URL : Type}

/-! ## Replies -/

/-- A block that is called with an error or with a value, as Firebase calls it, in two optionals. -/
def called {α β : Type} (block : Option α → Option E → β) : Except E α → β
  | .error e => block none (some e)
  | .ok x => block (some x) none

/-- `StorageTaskStatus`, as far as it is observed. -/
inductive Status where
  | failure
  | pause
  | progress
  | resume
  | success
  deriving DecidableEq, Repr

/-- How an upload ends; after a success its URL is asked for. -/
inductive Outcome (E URL : Type) where
  | failure (error : E)
  | success (downloadURL : Except E URL)

/-- The status that the end of the upload is observed as. -/
def Outcome.status : Outcome E URL → Status
  | failure _ => .failure
  | success _ => .success

/-- The upload has produced its URL. -/
def Outcome.produced : Outcome E URL → Bool
  | success (.ok _) => true
  | _ => false

/-- What an upload is observed to do: some progress, pauses and resumptions, and its end. -/
structure Upload (E URL : Type) where
  course : List Status
  underway : ∀ st ∈ course, st = .progress ∨ st = .pause ∨ st = .resume
  outcome : Outcome E URL

/-- Every status the upload is observed in. -/
def Upload.statuses (u : Upload E URL) : List Status := u.course ++ [u.outcome.status]

/-! ## The functions -/

/-- A call of a completion closure: its error, and its value when it has one. -/
structure Completion (E α : Type) where
  error : Option E
  value : Option α

namespace DBService

/-- `createUser`, called back by `setData`. -/
def createUser : Option E → List (Completion E Unit)
  | some error => [⟨some error, none⟩]
  | none => [⟨none, none⟩]

/-- `postJob`, called back by `setData`. -/
def postJob : Option E → List (Completion E Unit)
  | some error => [⟨some error, none⟩]
  | none => [⟨none, none⟩]

/-- `deleteJobPost`, called back by `delete`. -/
def deleteJobPost : Option E → List (Completion E Unit)
  | some error => [⟨some error, none⟩]
  | none => [⟨none, none⟩]

/-- `fetchUser`, called back by `getDocuments`. -/
def fetchUser (snapshot : Option (List Document)) (error : Option E) : List (Completion E UserModel) :=
  match error with
  | some error => [⟨some error, none⟩]
  | none =>
    match snapshot.bind List.head? with
    | some document => [⟨none, some (UserModel.ofDict document)⟩]
    | none => []

end DBService

namespace StorageService

/-- The block given to `downloadURL`. -/
def downloadURL (url : Option URL) (error : Option E) : List (Completion E URL) :=
  match error with
  | some error => [⟨some error, none⟩]
  | none =>
    match url with
    | some url => [⟨none, some url⟩]
    | none => []

/-- The observers of `postImage`, in the order they are added. -/
def observers : List (Status × (Outcome E URL → List (Completion E URL))) := [
  (.failure, fun _ => []),
  (.pause, fun _ => []),
  (.progress, fun _ => []),
  (.resume, fun _ => []),
  (.success, fun outcome => match outcome with
    | .success reply => called downloadURL reply
    | .failure _ => [])]

/-- What the observers of a status make of it. -/
def fire (outcome : Outcome E URL) (status : Status) : List (Completion E URL) :=
  (observers.filter fun o => o.1 = status).flatMap fun o => o.2 outcome

/-- `postImage`: every completion that its observers call. -/
def postImage (u : Upload E URL) : List (Completion E URL) := u.statuses.flatMap (fire u.outcome)

end StorageService

/-! ## Calls -/

/-- A call of one of the services and the reply to it. -/
inductive Call (E URL : Type) where
  | createUser (error : Option E)
  | fetchUser (reply : Except E (List Document))
  | postJob (error : Option E)
  | deleteJobPost (error : Option E)
  | postImage (upload : Upload E URL)

/-- One answer: an error if the operation did not produce its result, and otherwise none and the value, if there is
one to give. -/
def Answered {α : Type} (produced : Bool) (valued : Bool) (completions : List (Completion E α)) : Prop :=
  ∃ c, completions = [c] ∧ (produced = false → c.error.isSome) ∧
    (produced = true → c.error = none ∧ (valued = true → c.value.isSome))

/-- The caller's completion is called once, as it should be. -/
def AnsweredOnce : Call E URL → Prop
  | .createUser error => Answered error.isNone false (DBService.createUser error)
  | .fetchUser reply => Answered (reply.toOption.any (· ≠ [])) true (called DBService.fetchUser reply)
  | .postJob error => Answered error.isNone false (DBService.postJob error)
  | .deleteJobPost error => Answered error.isNone false (DBService.deleteJobPost error)
  | .postImage upload => Answered upload.outcome.produced true (StorageService.postImage upload)

/-- The reply is one that some branch answers: a query has found a document, an upload has not failed. -/
def Handled : Call E URL → Prop
  | .fetchUser (.ok docs) => docs ≠ []
  | .postImage upload => upload.outcome.status = .success
  | _ => True

/-! ## Answers -/

theorem answered_singleton {α : Type} {produced valued : Bool} {c : Completion E α} :
    Answered produced valued [c] ↔ (produced = false → c.error.isSome) ∧
      (produced = true → c.error = none ∧ (valued = true → c.value.isSome)) := by
  constructor
  · rintro ⟨c', hc, h⟩
    obtain rfl := List.singleton_inj.1 hc
    exact h
  · exact fun h => ⟨c, rfl, h⟩

theorem not_answered_nil {α : Type} {produced valued : Bool} :
    ¬ Answered produced valued ([] : List (Completion E α)) := by
  rintro ⟨c, hc, -⟩
  cases hc

/-- The writes are answered whatever the reply. -/
theorem answered_write (error : Option E) :
    Answered error.isNone false (match error with
      | some error => [⟨some error, none⟩]
      | none => [(⟨none, none⟩ : Completion E Unit)]) := by
  cases error <;> simp [answered_singleton]

/-- The completion of `fetchUser`, as the screens see it. -/
theorem fetchUser_eq (reply : Except E (List Document)) :
    called DBService.fetchUser reply = (UserModel.fetchUser reply).toList.map fun r => match r with
      | .error error => ⟨some error, none⟩
      | .ok user => ⟨none, some user⟩ := by
  rcases reply with error | docs
  · rfl
  · cases docs <;> rfl

theorem fetchUser_answered_iff (reply : Except E (List Document)) :
    AnsweredOnce (.fetchUser reply : Call E URL) ↔ Handled (.fetchUser reply : Call E URL) := by
  unfold AnsweredOnce
  dsimp only
  rw [fetchUser_eq]
  rcases reply with error | docs
  · exact iff_of_true (answered_singleton.2 ⟨fun _ => rfl, nofun⟩) trivial
  · rcases docs with _ | ⟨d, docs⟩
    · exact iff_of_false not_answered_nil fun h => h rfl
    · exact iff_of_true (answered_singleton.2 ⟨nofun, fun _ => ⟨rfl, fun _ => rfl⟩⟩) nofun

/-! ## Uploads -/

namespace StorageService

/-- Nothing that an upload does on its way is answered. -/
theorem fire_course (outcome : Outcome E URL) {course : List Status}
    (h : ∀ st ∈ course, st = .progress ∨ st = .pause ∨ st = .resume) : course.flatMap (fire outcome) = [] := by
  rw [List.flatMap_eq_nil_iff]
  intro st hst
  rcases h st hst with rfl | rfl | rfl <;> rfl

/-- An upload is answered from one place: the block that is given its URL. -/
theorem postImage_eq (u : Upload E URL) : postImage u = match u.outcome with
    | .success reply => called downloadURL reply
    | .failure _ => [] := by
  unfold postImage Upload.statuses
  rw [List.flatMap_append, fire_course u.outcome u.underway, List.nil_append, List.flatMap_singleton]
  cases u.outcome with
  | failure error => rfl
  | success reply => exact List.append_nil _

end StorageService

theorem postImage_answered_iff (u : Upload E URL) :
    AnsweredOnce (.postImage u : Call E URL) ↔ Handled (.postImage u : Call E URL) := by
  unfold AnsweredOnce Handled
  simp only [StorageService.postImage_eq]
  rcases u.outcome with error | (error | url)
  · exact iff_of_false not_answered_nil nofun
  · exact iff_of_true (answered_singleton.2 ⟨fun _ => rfl, nofun⟩) rfl
  · exact iff_of_true (answered_singleton.2 ⟨nofun, fun _ => ⟨rfl, fun _ => rfl⟩⟩) rfl

/-! ## Every call answers once -/

/-- A service call is answered exactly once, as it should be, exactly when some branch answers its reply: an empty
query and a failed upload are met with silence. -/
theorem answeredOnce_iff (call : Call E URL) : AnsweredOnce call ↔ Handled call := by
  cases call with
  | createUser error => exact iff_of_true (answered_write error) trivial
  | fetchUser reply => exact fetchUser_answered_iff reply
  | postJob error => exact iff_of_true (answered_write error) trivial
  | deleteJobPost error => exact iff_of_true (answered_write error) trivial
  | postImage u => exact postImage_answered_iff u

/-- A query that finds no user, and an upload that makes progress and fails. -/
theorem not_answeredOnce : ¬ AnsweredOnce (.fetchUser (.ok []) : Call String String) ∧
    ¬ AnsweredOnce (.postImage ⟨[.progress], by simp, .failure "offline"⟩ : Call String String) :=
  ⟨not_answered_nil, not_answered_nil⟩

end PetIT.Service
