/-
Services that keep, under each key, only the last value written: what such a service holds is read
off the log of the writes it has applied, newest first.
-/
import Mathlib.Tactic

namespace Store

variable {α β κ ω : Type} [DecidableEq κ]

/-- The newest record of the log under the key. -/
def last (key : α → κ) (log : List α) (k : κ) : Option α := log.find? fun a => key a = k

variable {key : α → κ} {log : List α} {a : α} {k : κ}

@[simp] theorem last_nil (key : α → κ) (k : κ) : last key [] k = none := rfl

theorem last_cons (key : α → κ) (a : α) (log : List α) (k : κ) :
    last key (a :: log) k = if key a = k then some a else last key log k := by
  unfold last
  rw [List.find?_cons]
  by_cases h : key a = k <;> simp [h]

theorem mem_of_last (h : last key log k = some a) : a ∈ log := List.mem_of_find?_eq_some h

theorem key_of_last (h : last key log k = some a) : key a = k := by
  have := List.find?_some h
  exact of_decide_eq_true this

theorem last_eq_none : last key log k = none ↔ ∀ a ∈ log, key a ≠ k := by
  unfold last
  rw [List.find?_eq_none]
  simp

/-- A key somebody has written has a last write. -/
theorem last_of_mem (h : a ∈ log) (hk : key a = k) : ∃ b, last key log k = some b := by
  rcases hl : last key log k with _ | b
  · exact absurd hk (last_eq_none.1 hl a h)
  · exact ⟨b, rfl⟩

/-! ## The last writer -/

/-- Who wrote the key last. -/
def lastWriter (key : α → κ) (writer : α → ω) (log : List α) (k : κ) : Option ω := (last key log k).map writer

theorem lastWriter_cons (key : α → κ) (writer : α → ω) (a : α) (log : List α) (k : κ) :
    lastWriter key writer (a :: log) k = if key a = k then some (writer a) else lastWriter key writer log k := by
  unfold lastWriter
  rw [last_cons]
  split <;> rfl

variable {writer : α → ω} {key' : β → κ} {writer' : β → ω} {log' : List β}

/-- When the last writer of a key is the same in two logs, either both leave the key alone or both end
with a write of that writer. -/
theorem lastWriter_eq (h : lastWriter key writer log k = lastWriter key' writer' log' k) :
    (last key log k = none ∧ last key' log' k = none) ∨
      ∃ a b, last key log k = some a ∧ last key' log' k = some b ∧ writer a = writer' b := by
  unfold lastWriter at h
  rcases ha : last key log k with _ | a <;> rcases hb : last key' log' k with _ | b <;> rw [ha, hb] at h
  · exact Or.inl ⟨rfl, rfl⟩
  · cases h
  · cases h
  · exact Or.inr ⟨a, b, rfl, rfl, by simpa using h⟩

end Store
