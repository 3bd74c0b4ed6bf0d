/-
Records kept in a list and addressed by their position: a new record goes to the end, and an
update replaces one record in place. A fact about every record is kept by both, and so is a fact about
the record at a given position.
-/
import Mathlib.Tactic

namespace Slots

variable {α : Type}

/-! ## Facts about every record -/

theorem concat_cases {l : List α} {x r : α} {k : Nat} (hk : (l ++ [x])[k]? = some r) :
    l[k]? = some r ∨ (k = l.length ∧ r = x) := by
  rw [List.getElem?_append] at hk
  split at hk
  · exact Or.inl hk
  · obtain ⟨hlt, rfl⟩ := List.getElem?_eq_some_iff.1 hk
    have hk' : k = l.length := by simp only [List.length_singleton] at hlt; omega
    subst hk'
    exact Or.inr ⟨rfl, by simp⟩

theorem set_cases {l : List α} {x r : α} {i k : Nat} (hk : (l.set i x)[k]? = some r) :
    (k = i ∧ r = x) ∨ (k ≠ i ∧ l[k]? = some r) := by
  rw [List.getElem?_set] at hk
  split at hk
  · subst_vars
    split at hk
    · cases hk; exact Or.inl ⟨rfl, rfl⟩
    · cases hk
  · rename_i hne
    exact Or.inr ⟨Ne.symm hne, hk⟩

theorem forall_concat {l : List α} {P : Nat → α → Prop} {x : α}
    (h : ∀ k r, l[k]? = some r → P k r) (hx : P l.length x) :
    ∀ k r, (l ++ [x])[k]? = some r → P k r := by
  intro k r hk
  rcases concat_cases hk with hk | ⟨rfl, rfl⟩
  · exact h k r hk
  · exact hx

theorem forall_set {l : List α} {P : Nat → α → Prop} {i : Nat} {x : α}
    (h : ∀ k r, l[k]? = some r → P k r) (hx : P i x) :
    ∀ k r, (l.set i x)[k]? = some r → P k r := by
  intro k r hk
  rcases set_cases hk with ⟨rfl, rfl⟩ | ⟨-, hk⟩
  · exact hx
  · exact h k r hk

theorem getElem?_set_self {l : List α} {i : Nat} {x y : α} (h : l[i]? = some y) :
    (l.set i x)[i]? = some x := by
  obtain ⟨hi, -⟩ := List.getElem?_eq_some_iff.1 h
  simp [hi]

theorem getElem?_concat_self (l : List α) (x : α) : (l ++ [x])[l.length]? = some x := by simp

theorem getElem?_concat_of_some {l : List α} {k : Nat} {r x : α} (h : l[k]? = some r) :
    (l ++ [x])[k]? = some r := by
  obtain ⟨hk, -⟩ := List.getElem?_eq_some_iff.1 h
  rw [List.getElem?_append_left hk, h]

theorem getElem?_set_of_ne {l : List α} {i k : Nat} {p q x : α} (hk : l[k]? = some p)
    (hi : l[i]? = some q) (hne : p ≠ q) : (l.set k x)[i]? = some q := by
  have hki : k ≠ i := by
    rintro rfl
    rw [hk] at hi; cases hi; exact hne rfl
  rw [List.getElem?_set_ne hki, hi]

/-- An update that keeps the image of the record under `f` keeps the images of all of them. -/
theorem map_set {β : Type} (f : α → β) {l : List α} {k : Nat} {p x : α} (hk : l[k]? = some p)
    (hx : f x = f p) : (l.set k x).map f = l.map f := by
  rw [List.map_set, hx]
  have hf : (l.map f)[k]? = some (f p) := by rw [List.getElem?_map, hk]; rfl
  obtain ⟨h, he⟩ := List.getElem?_eq_some_iff.1 hf
  rw [← he, List.set_getElem_self]

/-- The images under `f` of records of which one is modified. -/
theorem map_modify {β : Type} (f : α → β) {g : α → α} {m : β → β} (h : ∀ a, f (g a) = m (f a)) (l : List α)
    (k : Nat) : (l.modify k g).map f = (l.map f).modify k m := by
  refine List.ext_getElem? fun j => ?_
  simp only [List.getElem?_map, List.getElem?_modify]
  cases l[j]? with
  | none => rfl
  | some a => by_cases hj : k = j <;> simp [hj, h]

theorem map_modify_self {β : Type} (f : α → β) {g : α → α} (h : ∀ a, f (g a) = f a) (l : List α) (k : Nat) :
    (l.modify k g).map f = l.map f :=
  (map_modify (m := id) f h l k).trans (List.modify_id k _)

theorem modify_eq_set {l : List α} {k : Nat} {p : α} (f : α → α) (hk : l[k]? = some p) :
    l.modify k f = l.set k (f p) := by
  refine List.ext_getElem? fun j => ?_
  rw [List.getElem?_modify]
  by_cases hkj : k = j
  · subst hkj
    rw [hk, getElem?_set_self hk]
    simp
  · rw [List.getElem?_set_ne hkj]
    simp [hkj]

/-- Records that agree on a key no two records share are one record. -/
theorem index_eq {β : Type} {f : α → β} {l : List α} (hl : (l.map f).Nodup) {i j : Nat} {p q : α}
    (hi : l[i]? = some p) (hj : l[j]? = some q) (h : f p = f q) : i = j := by
  have hi' : (l.map f)[i]? = some (f p) := by rw [List.getElem?_map, hi]; rfl
  have hj' : (l.map f)[j]? = some (f p) := by rw [List.getElem?_map, hj, h]; rfl
  obtain ⟨hlt, -⟩ := List.getElem?_eq_some_iff.1 hi'
  exact (List.getElem?_inj hlt hl).1 (hi'.trans hj'.symm)

/-! ## A fact about the record at an index -/

theorem get_concat {l : List α} {P : α → Prop} {i : Nat} (x : α) (h : ∃ q, l[i]? = some q ∧ P q) :
    ∃ q, (l ++ [x])[i]? = some q ∧ P q := by
  obtain ⟨q, hq, hp⟩ := h
  exact ⟨q, getElem?_concat_of_some hq, hp⟩

/-- An update that keeps the fact for its own record keeps it for the record at any index. -/
theorem get_set {l : List α} {P : α → Prop} {i k : Nat} {p x : α} (hk : l[k]? = some p) (hx : P p → P x)
    (h : ∃ q, l[i]? = some q ∧ P q) : ∃ q, (l.set k x)[i]? = some q ∧ P q := by
  obtain ⟨q, hq, hp⟩ := h
  by_cases hki : k = i
  · subst hki
    rw [hk] at hq; cases hq
    exact ⟨x, getElem?_set_self hk, hx hp⟩
  · exact ⟨q, by rw [List.getElem?_set_ne hki, hq], hp⟩

/-! ## A fact about some record -/

theorem exists_concat {l : List α} {P : α → Prop} {x : α} :
    (∃ (k : Nat) (r : α), (l ++ [x])[k]? = some r ∧ P r) ↔ (∃ (k : Nat) (r : α), l[k]? = some r ∧ P r) ∨ P x := by
  constructor
  · rintro ⟨k, r, hk, hr⟩
    rcases concat_cases hk with hk | ⟨-, rfl⟩
    · exact Or.inl ⟨k, r, hk, hr⟩
    · exact Or.inr hr
  · rintro (⟨k, r, hk, hr⟩ | hx)
    · exact ⟨k, r, getElem?_concat_of_some hk, hr⟩
    · exact ⟨l.length, x, getElem?_concat_self l x, hx⟩

/-- An update that adds a reason for the fact to its own record adds it to all of them. -/
theorem exists_set {l : List α} {P : α → Prop} {i : Nat} {p x : α} {q : Prop} (hi : l[i]? = some p)
    (hx : P x ↔ P p ∨ q) :
    (∃ (k : Nat) (r : α), (l.set i x)[k]? = some r ∧ P r) ↔ (∃ (k : Nat) (r : α), l[k]? = some r ∧ P r) ∨ q := by
  constructor
  · rintro ⟨k, r, hk, hr⟩
    rcases set_cases hk with ⟨rfl, rfl⟩ | ⟨-, hk⟩
    · exact (hx.1 hr).imp_left fun hp => ⟨k, p, hi, hp⟩
    · exact Or.inl ⟨k, r, hk, hr⟩
  · rintro (⟨k, r, hk, hr⟩ | hq)
    · obtain ⟨r', hk', hr'⟩ := get_set (x := x) hi (fun hp => hx.2 (Or.inl hp)) ⟨r, hk, hr⟩
      exact ⟨k, r', hk', hr'⟩
    · exact ⟨i, x, getElem?_set_self hi, hx.2 (Or.inr hq)⟩

/-! ## Records side by side -/

variable {β : Type} {R : α → β → Prop} {l : List α} {m : List β}

theorem forall₂_get (h : List.Forall₂ R l m) :
    ∀ {k : Nat} {a : α} {b : β}, l[k]? = some a → m[k]? = some b → R a b := by
  induction h with
  | nil => intro k a b ha; simp at ha
  | cons hr _ ih =>
    rintro (_ | k) a b ha hb
    · cases ha; cases hb; exact hr
    · exact ih ha hb

theorem forall₂_concat (h : List.Forall₂ R l m) {a : α} {b : β} (hr : R a b) :
    List.Forall₂ R (l ++ [a]) (m ++ [b]) := by
  induction h with
  | nil => exact .cons hr .nil
  | cons hr' _ ih => exact .cons hr' ih

/-- Both records at a position change, and what relates them is kept. -/
theorem forall₂_modify (h : List.Forall₂ R l m) {f : α → α} {g : β → β} : ∀ {k : Nat},
    (∀ a b, l[k]? = some a → R a b → R (f a) (g b)) → List.Forall₂ R (l.modify k f) (m.modify k g) := by
  induction h with
  | nil => intro k _; simp
  | @cons a b l m hr ht ih =>
    rintro (_ | k) hfg
    · exact .cons (hfg a b rfl hr) ht
    · exact .cons hr (ih fun a b ha => hfg a b ha)

/-! ## Records of a kind -/

/-- At most one record has an image under `f` exactly when any two that have are in one place. -/
theorem length_filterMap_le_one {β : Type} {f : α → Option β} {l : List α} : (l.filterMap f).length ≤ 1 ↔
    ∀ (j k : Nat) (a b : α), l[j]? = some a → l[k]? = some b → (f a).isSome → (f b).isSome → j = k := by
  induction l with
  | nil => simp
  | cons x l ih =>
    have hnil : l.filterMap f = [] ↔ ∀ (k : Nat) (b : α), l[k]? = some b → (f b).isSome = false := by
      rw [List.filterMap_eq_nil_iff]
      constructor
      · intro h k b hk
        rw [h b (List.mem_of_getElem? hk)]; rfl
      · intro h b hb
        obtain ⟨k, hk⟩ := List.mem_iff_getElem?.1 hb
        exact Option.not_isSome_iff_eq_none.1 (by rw [h k b hk]; exact Bool.false_ne_true)
    cases hx : f x with
    | none =>
      rw [List.filterMap_cons_none hx, ih]
      constructor
      · rintro h (_ | j) (_ | k) a b ha hb hfa hfb
        · rfl
        · cases ha; rw [hx] at hfa; cases hfa
        · cases hb; rw [hx] at hfb; cases hfb
        · rw [h j k a b ha hb hfa hfb]
      · intro h j k a b ha hb hfa hfb
        exact Nat.succ.inj (h (j + 1) (k + 1) a b ha hb hfa hfb)
    | some y =>
      rw [List.filterMap_cons_some hx, List.length_cons, Nat.succ_le_succ_iff, Nat.le_zero,
        List.length_eq_zero_iff, hnil]
      constructor
      · rintro h (_ | j) (_ | k) a b ha hb hfa hfb
        · rfl
        · rw [h k b hb] at hfb; cases hfb
        · rw [h j a ha] at hfa; cases hfa
        · rw [h k b hb] at hfb; cases hfb
      · intro h k b hk
        rw [Bool.eq_false_iff]
        intro hb
        have := h 0 (k + 1) x b rfl hk (by rw [hx]; rfl) hb
        omega

end Slots
