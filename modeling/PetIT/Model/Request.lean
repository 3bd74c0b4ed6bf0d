/-
What the controllers have in common: the alerts they show, and what becomes of a request that writes.
-/

namespace PetIT

/-- What `showAlert(title:message:)` presents. -/
structure Alert where
  title : String
  message : String
  deriving DecidableEq, Repr

/-- One of two requests an operation writes with. -/
inductive Half where
  | inFlight
  | applied
  | failed
  deriving DecidableEq, Repr

/-- A reply with this error, or none, to one of them goes with what has become of the other. -/
def Half.Agrees : Half → Option String → Prop
  | .inFlight, _ => True
  | .applied, error => error = none
  | .failed, error => error ≠ none

instance (h : Half) (error : Option String) : Decidable (h.Agrees error) := by
  cases h <;> unfold Half.Agrees <;> infer_instance

theorem Half.Agrees.applied {h : Half} (hh : h.Agrees none) (hs : h ≠ .inFlight) : h = .applied := by
  cases h
  · exact absurd rfl hs
  · rfl
  · exact absurd rfl hh

theorem Half.Agrees.not_applied {h : Half} {message : String} (hh : h.Agrees (some message)) :
    h ≠ .applied := by
  rintro rfl
  cases hh

end PetIT
