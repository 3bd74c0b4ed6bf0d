/-
Transactions of two writes without a coordinator. Each record of a list writes its key in one service
and in another, by two writes that end on their own. If the transactions of a key follow one another and
each ends with both writes done or neither, then whenever none is under way the key was last written by
the same transaction in both.
-/
import PetIT.Run.Slots

namespace Store

variable {α κ : Type} (key : α → κ) (settled done done' : α → Prop)

/-- The transactions on the key `u`, the last ones to have written it in either service being `w` and
`w'`: one at a time is under way, and those that are over have done both their writes or neither. -/
structure Paired (u : κ) (l : List α) (w w' : Option Nat) : Prop where
  one : ∀ (i j : Nat) (p q : α), l[i]? = some p → l[j]? = some q → key p = u → key q = u → ¬ settled p →
    ¬ settled q → i = j
  even : ∀ (i : Nat) (p : α), l[i]? = some p → key p = u → settled p → (done p ↔ done' p)
  left : ∀ (i : Nat) (p : α), l[i]? = some p → key p = u → done p → ¬ done' p → w = some i
  right : ∀ (i : Nat) (p : α), l[i]? = some p → key p = u → done' p → ¬ done p → w' = some i
  same : (∀ (i : Nat) (p : α), l[i]? = some p → key p = u → (done p ↔ done' p)) → w = w'

variable {key settled done done'} {u : κ} {l : List α} {w w' : Option Nat} {k : Nat} {p x : α}

namespace Paired

theorem nil : Paired key settled done done' u [] none none := by
  constructor <;> simp

theorem symm (h : Paired key settled done done' u l w w') : Paired key settled done' done u l w' w :=
  ⟨h.one, fun i p hp hk hs => (h.even i p hp hk hs).symm, h.right, h.left,
    fun he => (h.same fun i p hp hk => (he i p hp hk).symm).symm⟩

/-- With no transaction under way, the last writers are the same. -/
theorem eq_of_settled (h : Paired key settled done done' u l w w')
    (hs : ∀ (i : Nat) (p : α), l[i]? = some p → key p = u → settled p) : w = w' :=
  h.same fun i p hp hk => h.even i p hp hk (hs i p hp hk)

/-- A transaction starts, the others on its key being over. -/
theorem concat (h : Paired key settled done done' u l w w') (hd : ¬ done x) (hd' : ¬ done' x)
    (hx : key x = u → ∀ (i : Nat) (p : α), l[i]? = some p → key p = u → settled p) :
    Paired key settled done done' u (l ++ [x]) w w' := by
  refine ⟨fun i j p q hi hj hp hq hsp hsq => ?_, fun i p hi hk hs => ?_, fun i p hi hk h1 h2 => ?_,
    fun i p hi hk h1 h2 => ?_, fun he => h.same fun i p hi => he i p (Slots.getElem?_concat_of_some hi)⟩
  · rcases Slots.concat_cases hi with hi' | ⟨rfl, rfl⟩ <;> rcases Slots.concat_cases hj with hj' | ⟨rfl, rfl⟩
    · exact h.one i j p q hi' hj' hp hq hsp hsq
    · exact absurd (hx hq i p hi' hp) hsp
    · exact absurd (hx hp j q hj' hq) hsq
    · rfl
  · rcases Slots.concat_cases hi with hi | ⟨-, rfl⟩
    · exact h.even i p hi hk hs
    · exact iff_of_false hd hd'
  · rcases Slots.concat_cases hi with hi | ⟨-, rfl⟩
    · exact h.left i p hi hk h1 h2
    · exact absurd h1 hd
  · rcases Slots.concat_cases hi with hi | ⟨-, rfl⟩
    · exact h.right i p hi hk h1 h2
    · exact absurd h1 hd'

/-- What becomes of a transaction on another key does not matter. -/
theorem set_of_ne (h : Paired key settled done done' u l w w') (hk : l[k]? = some p) (hkey : key x = key p)
    (hu : key p ≠ u) : Paired key settled done done' u (l.set k x) w w' := by
  have hold : ∀ (i : Nat) (q : α), (l.set k x)[i]? = some q → key q = u → l[i]? = some q := by
    intro i q hi hq
    rcases Slots.set_cases hi with ⟨-, rfl⟩ | ⟨-, hi⟩
    · exact absurd (hkey.symm.trans hq) hu
    · exact hi
  refine ⟨fun i j q r hi hj hq hr => h.one i j q r (hold i q hi hq) (hold j r hj hr) hq hr,
    fun i q hi hq => h.even i q (hold i q hi hq) hq, fun i q hi hq => h.left i q (hold i q hi hq) hq,
    fun i q hi hq => h.right i q (hold i q hi hq) hq, fun he => h.same fun i q hi hq => ?_⟩
  have hne : k ≠ i := by
    rintro rfl
    rw [hk] at hi; cases hi
    exact hu hq
  exact he i q (by rw [List.getElem?_set_ne hne, hi]) hq

/-- A transaction moves on without writing, and not from over to under way. -/
theorem set (h : Paired key settled done done' u l w w') (hk : l[k]? = some p) (hkey : key x = key p)
    (hd : done x ↔ done p) (hd' : done' x ↔ done' p) (hp : settled p → settled x)
    (hx : key x = u → settled x → (done x ↔ done' x)) : Paired key settled done done' u (l.set k x) w w' := by
  refine ⟨fun i j q r hi hj hq hr hsq hsr => ?_, fun i q hi hq hs => ?_, fun i q hi hq h1 h2 => ?_,
    fun i q hi hq h1 h2 => ?_, fun he => h.same fun i q hi hq => ?_⟩
  · rcases Slots.set_cases hi with ⟨rfl, rfl⟩ | ⟨-, hi'⟩ <;> rcases Slots.set_cases hj with ⟨rfl, rfl⟩ | ⟨-, hj'⟩
    · rfl
    · exact h.one _ _ _ _ hk hj' (hkey ▸ hq) hr (mt hp hsq) hsr
    · exact h.one _ _ _ _ hi' hk hq (hkey ▸ hr) hsq (mt hp hsr)
    · exact h.one _ _ _ _ hi' hj' hq hr hsq hsr
  · rcases Slots.set_cases hi with ⟨rfl, rfl⟩ | ⟨-, hi⟩
    · exact hx hq hs
    · exact h.even i q hi hq hs
  · rcases Slots.set_cases hi with ⟨rfl, rfl⟩ | ⟨-, hi⟩
    · exact h.left _ _ hk (hkey ▸ hq) (hd.1 h1) fun h => h2 (hd'.2 h)
    · exact h.left i q hi hq h1 h2
  · rcases Slots.set_cases hi with ⟨rfl, rfl⟩ | ⟨-, hi⟩
    · exact h.right _ _ hk (hkey ▸ hq) (hd'.1 h1) fun h => h2 (hd.2 h)
    · exact h.right i q hi hq h1 h2
  · by_cases hki : i = k
    · subst hki
      rw [hk] at hi; cases hi
      have := he i x (Slots.getElem?_set_self hk) (hkey.trans hq)
      exact hd.symm.trans (this.trans hd')
    · exact he i q (by rw [List.getElem?_set_ne (Ne.symm hki), hi]) hq

/-- The transaction under way does its first service's write, and is over only if the other is done. -/
theorem write [DecidableEq κ] (h : Paired key settled done done' u l w w') (hk : l[k]? = some p)
    (hkey : key x = key p) (hp : ¬ settled p) (hnd : ¬ done p) (hd : done x) (hd' : done' x ↔ done' p)
    (hx : key x = u → settled x → done' x) :
    Paired key settled done done' u (l.set k x) (if key p = u then some k else w) w' := by
  by_cases hu : key p = u
  · rw [if_pos hu]
    -- every other transaction on the key is over
    have hother : ∀ (i : Nat) (q : α), i ≠ k → l[i]? = some q → key q = u → (done q ↔ done' q) := by
      intro i q hne hi hq
      refine h.even i q hi hq ?_
      by_contra hs
      exact hne (h.one i k q p hi hk hq hu hs hp)
    refine ⟨fun i j q r hi hj hq hr hsq hsr => ?_, fun i q hi hq hs => ?_, fun i q hi hq h1 h2 => ?_,
      fun i q hi hq h1 h2 => ?_, fun he => ?_⟩
    · rcases Slots.set_cases hi with ⟨rfl, rfl⟩ | ⟨-, hi'⟩ <;> rcases Slots.set_cases hj with ⟨rfl, rfl⟩ | ⟨-, hj'⟩
      · rfl
      · exact h.one _ _ _ _ hk hj' hu hr hp hsr
      · exact h.one _ _ _ _ hi' hk hq hu hsq hp
      · exact h.one _ _ _ _ hi' hj' hq hr hsq hsr
    · rcases Slots.set_cases hi with ⟨rfl, rfl⟩ | ⟨hne, hi⟩
      · exact iff_of_true hd (hx hq hs)
      · exact hother i q hne hi hq
    · rcases Slots.set_cases hi with ⟨rfl, rfl⟩ | ⟨hne, hi⟩
      · rfl
      · exact absurd ((hother i q hne hi hq).1 h1) h2
    · rcases Slots.set_cases hi with ⟨rfl, rfl⟩ | ⟨hne, hi⟩
      · exact absurd hd h2
      · exact absurd ((hother i q hne hi hq).2 h1) h2
    · -- its other write is done as well, and was the last one there
      have hdx : done' x := (he k x (Slots.getElem?_set_self hk) (hkey.trans hu)).1 hd
      exact (h.right k p hk hu (hd'.1 hdx) hnd).symm
  · rw [if_neg hu]
    exact h.set_of_ne hk hkey hu

end Paired

end Store
