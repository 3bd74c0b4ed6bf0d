/-
A client that shows its own writes at once, over any states and writes: it has a state from the server, and the writes
it has sent and has no answer to, which it shows on top. The answers come in the order of the writes. One that was
applied goes into the state below, which changes nothing that is shown; one that was refused is taken back.
-/
import Mathlib.Tactic

namespace Store

/-- What a client has from the server, and its writes without an answer, the oldest first. -/
structure Replica (ω α : Type) where
  base : α
  pending : List ω := []

namespace Replica

variable {ω α : Type} (act : α → ω → α)

/-- What the client shows. -/
def view (r : Replica ω α) : α := r.pending.foldl act r.base

/-- A write is sent, after those that are pending. -/
def send (r : Replica ω α) (w : ω) : Replica ω α := { r with pending := r.pending ++ [w] }

/-- The oldest write is answered. -/
def answer (r : Replica ω α) (applied : Bool) : Option (ω × Replica ω α) :=
  match r.pending with
  | [] => none
  | w :: rest => some (w, ⟨if applied then act r.base w else r.base, rest⟩)

variable {act} {r r' : Replica ω α} {w : ω} {applied : Bool}

@[simp] theorem view_send (r : Replica ω α) (w : ω) : (r.send w).view act = act (r.view act) w := by
  unfold view send
  rw [List.foldl_append]
  rfl

theorem answer_some (h : r.answer act applied = some (w, r')) :
    r.pending = w :: r'.pending ∧ r'.base = if applied then act r.base w else r.base := by
  unfold answer at h
  split at h
  · cases h
  · rename_i v rest hp
    cases h
    exact ⟨hp, rfl⟩

/-- That a write was applied is not seen. -/
theorem view_acknowledge (h : r.answer act true = some (w, r')) : r'.view act = r.view act := by
  obtain ⟨hp, hb⟩ := answer_some h
  unfold view
  rw [hp, hb]
  rfl

/-! ## What is shown, from what is below -/

/-- What the state below has, and the pending writes keep. -/
theorem view_inv {P : α → Prop} (hact : ∀ w ∈ r.pending, ∀ a, P a → P (act a w)) (h : P r.base) : P (r.view act) :=
  List.foldl_rel (r := fun a _ => P a) (b := r.base) (g := act) h fun w hw a _ => hact w hw a

/-- Another state below the same writes. -/
theorem view_rel {R : α → α → Prop} (hact : ∀ w ∈ r.pending, ∀ a b, R a b → R (act a w) (act b w)) {b : α}
    (h : R r.base b) : R (r.view act) ({ r with base := b }.view act) := List.foldl_rel h hact

/-- That a write was refused is seen only where the write is. -/
theorem view_refuse {β : Type} {f : α → β} (hact : ∀ w ∈ r.pending, ∀ a b, f a = f b → f (act a w) = f (act b w))
    (h : r.answer act false = some (w, r')) (hw : ∀ a, f (act a w) = f a) : f (r'.view act) = f (r.view act) := by
  obtain ⟨hp, hb⟩ := answer_some h
  have hb' : r'.base = r.base := hb
  unfold view
  rw [hp, hb']
  exact List.foldl_rel (r := fun a b => f a = f b) (hw _).symm fun v hv => hact v (hp ▸ List.mem_cons_of_mem w hv)

end Replica

end Store
