/-
The life of an entry of a keyed store, for any content: absent, then live with a content that
never changes and a mark that is set at most once and never cleared, then gone for good. The
entries are ordered by what they can still become, so a store whose every step goes up in this
order never changes a content, never clears a mark and never brings an entry back.
-/
import Mathlib.Order.BoundedOrder.Basic
import Mathlib.Tactic

namespace Store

/-- What has become of something that is created, marked and removed. -/
inductive Entry (α : Type*) where
  | absent
  | live (content : α) (marked : Bool)
  | gone

namespace Entry

variable {α : Type*}

/-- `b` is `a` or something `a` can become. -/
protected def LE : Entry α → Entry α → Prop
  | .absent, _ => True
  | .live a m, .live b n => a = b ∧ m ≤ n
  | .live _ _, .absent => False
  | .gone, .live _ _ => False
  | .gone, .absent => False
  | _, .gone => True

instance : PartialOrder (Entry α) where
  le := Entry.LE
  le_refl a := by cases a <;> simp [Entry.LE]
  le_trans a b c hab hbc := by
    cases a <;> cases b <;> cases c <;> first | trivial | exact hab.elim | exact hbc.elim | skip
    exact ⟨hab.1.trans hbc.1, hab.2.trans hbc.2⟩
  le_antisymm a b hab hba := by
    cases a <;> cases b <;> first | rfl | exact hab.elim | exact hba.elim | skip
    rw [hab.1, le_antisymm hab.2 hba.2]

instance : BoundedOrder (Entry α) where
  bot := .absent
  top := .gone
  bot_le _ := trivial
  le_top a := by cases a <;> trivial

theorem live_le_live {a b : α} {m n : Bool} : (live a m : Entry α) ≤ live b n ↔ a = b ∧ m ≤ n := Iff.rfl

theorem absent_le (e : Entry α) : absent ≤ e := bot_le

theorem le_gone (e : Entry α) : e ≤ gone := le_top

theorem gone_le {e : Entry α} : gone ≤ e ↔ e = gone := top_le_iff

theorem le_absent {e : Entry α} : e ≤ absent ↔ e = absent := le_bot_iff

theorem live_le {a : α} {m : Bool} {e : Entry α} :
    live a m ≤ e ↔ e = gone ∨ ∃ n, e = live a n ∧ m ≤ n := by
  cases e with
  | absent => simp [le_absent]
  | live b n =>
    rw [live_le_live]
    constructor
    · rintro ⟨rfl, h⟩; exact Or.inr ⟨n, rfl, h⟩
    · rintro (h | ⟨n', h, hmn⟩)
      · cases h
      · cases h; exact ⟨rfl, hmn⟩
  | gone => simp [le_gone]

/-! ## What can become of an entry -/

/-- The mark is set, on an entry that is there. -/
def mark : Entry α → Entry α
  | .live a _ => .live a true
  | e => e

/-- The entry goes, if it is there. -/
def delete : Entry α → Entry α
  | .live _ _ => .gone
  | e => e

theorem le_mark (e : Entry α) : e ≤ e.mark := by
  cases e with
  | live a m => exact live_le_live.2 ⟨rfl, Bool.le_true m⟩
  | absent | gone => exact le_rfl

theorem le_delete (e : Entry α) : e ≤ e.delete := by
  cases e with
  | live a m => exact le_gone _
  | absent | gone => exact le_rfl

theorem mark_mono {e e' : Entry α} (h : e ≤ e') : e.mark ≤ e'.mark := by
  cases e with
  | absent => exact absent_le _
  | gone => rw [gone_le.1 h]
  | live a m =>
    rcases live_le.1 h with rfl | ⟨n, rfl, -⟩
    · exact le_gone _
    · exact le_rfl

theorem delete_mono {e e' : Entry α} (h : e ≤ e') : e.delete ≤ e'.delete := by
  cases e with
  | absent => exact absent_le _
  | gone => rw [gone_le.1 h]
  | live a m =>
    rcases live_le.1 h with rfl | ⟨n, rfl, -⟩
    · exact le_gone _
    · exact le_rfl

end Entry

end Store
