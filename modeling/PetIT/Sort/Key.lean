/-
Sorting by a predicate that says which of two elements comes first: when the predicate goes by a key, the
result is in the order of the key, whatever the predicate says of ties; when no two keys are equal, that order
is the only one, and selecting before sorting is selecting after it.
-/
import Mathlib.Data.List.Sort
import Mathlib.Tactic

namespace Sorting

variable {α κ : Type}

/-- `sorted(by:)`: an element stays in front of another that does not have to come first. -/
def sorted (p : α → α → Bool) (l : List α) : List α := l.insertionSort fun a b => p b a = false

theorem sorted_perm (p : α → α → Bool) (l : List α) : (sorted p l).Perm l := List.perm_insertionSort _ l

@[simp] theorem mem_sorted {p : α → α → Bool} {l : List α} {a : α} : a ∈ sorted p l ↔ a ∈ l :=
  List.mem_insertionSort _

@[simp] theorem length_sorted (p : α → α → Bool) (l : List α) : (sorted p l).length = l.length :=
  List.length_insertionSort _ l

/-- Only what the predicate says of the elements counts. -/
theorem sorted_congr {p q : α → α → Bool} : ∀ {l : List α}, (∀ a ∈ l, ∀ b ∈ l, p a b = q a b) →
    sorted p l = sorted q l
  | [], _ => rfl
  | a :: l, h => by
    have hinsert : ∀ {m : List α}, m ⊆ l → m.orderedInsert (fun a b => p b a = false) a =
        m.orderedInsert (fun a b => q b a = false) a := by
      intro m hm
      induction m with
      | nil => rfl
      | cons b m ih =>
        rw [List.orderedInsert_cons, List.orderedInsert_cons, ih fun c hc => hm (List.mem_cons_of_mem b hc)]
        simp only [h b (List.mem_cons_of_mem a (hm (List.mem_cons_self ..))) a (List.mem_cons_self ..)]
    have ih : sorted p l = sorted q l := sorted_congr fun b hb c hc =>
      h b (List.mem_cons_of_mem a hb) c (List.mem_cons_of_mem a hc)
    unfold sorted at ih ⊢
    rw [List.insertionSort_cons, List.insertionSort_cons, ih]
    exact hinsert fun b hb => (List.mem_insertionSort _).1 hb

/-! ## Legal predicates -/

/-- The predicate is a strict weak order on the elements of the list. -/
def Legal (l : List α) (p : α → α → Bool) : Prop := IsStrictWeakOrder {a // a ∈ l} fun a b => p a b = true

section

variable {l : List α} {p : α → α → Bool} {a b c : α}

theorem Legal.irrefl (h : Legal l p) (ha : a ∈ l) : p a a = false := Bool.eq_false_iff.2 (h.toIrrefl.irrefl ⟨a, ha⟩)

theorem Legal.incomp_trans (h : Legal l p) (ha : a ∈ l) (hb : b ∈ l) (hc : c ∈ l)
    (hab : p a b = false ∧ p b a = false) (hbc : p b c = false ∧ p c b = false) : p a c = false ∧ p c a = false := by
  simp only [Bool.eq_false_iff] at hab hbc ⊢
  have : IsStrictWeakOrder {a // a ∈ l} fun a b => p a b = true := h
  exact this.incomp_trans ⟨a, ha⟩ ⟨b, hb⟩ ⟨c, hc⟩ hab hbc

/-- An asymmetric predicate is legal if what comes before an element also comes before, or is preceded by, any
third one. -/
theorem legal_of_connected (hasymm : ∀ a ∈ l, ∀ b ∈ l, p a b = true → p b a = false)
    (hconn : ∀ a ∈ l, ∀ b ∈ l, ∀ c ∈ l, p a c = true → p a b = true ∨ p b c = true) : Legal l p := by
  have : Std.Asymm fun a b : {a // a ∈ l} => p a b = true :=
    ⟨fun a b h => Bool.eq_false_iff.1 (hasymm a a.2 b b.2 h)⟩
  have : IsOrderConnected {a // a ∈ l} fun a b => p a b = true :=
    ⟨fun a b c => hconn a a.2 b b.2 c c.2⟩
  exact isStrictWeakOrder_of_isOrderConnected

end

variable [LinearOrder κ]

/-- A predicate that compares keys, and no two equal ones, is legal. -/
theorem legal_key {l : List α} {p : α → α → Bool} {key : α → κ}
    (hp : ∀ a ∈ l, ∀ b ∈ l, p a b = true ↔ key a < key b) : Legal l p := by
  refine legal_of_connected (fun a ha b hb h => ?_) fun a ha b hb c hc h => ?_
  · exact Bool.eq_false_iff.2 fun h' => lt_asymm ((hp a ha b hb).1 h) ((hp b hb a ha).1 h')
  · rw [hp a ha b hb, hp b hb c hc]
    exact (lt_or_ge (key a) (key b)).imp_right fun hba => hba.trans_lt ((hp a ha c hc).1 h)

/-! ## Predicates that go by a key -/

/-- The predicate puts smaller keys first; of equal keys it may say anything. -/
structure Follows (l : List α) (p : α → α → Bool) (key : α → κ) : Prop where
  first : ∀ a ∈ l, ∀ b ∈ l, key a < key b → p a b = true
  last : ∀ a ∈ l, ∀ b ∈ l, p a b = true → key a ≤ key b

namespace Follows

variable {l l' : List α} {p : α → α → Bool} {key : α → κ}

theorem of_iff (hp : ∀ a ∈ l, ∀ b ∈ l, p a b = true ↔ key a < key b) : Follows l p key :=
  ⟨fun a ha b hb => (hp a ha b hb).2, fun a ha b hb h => ((hp a ha b hb).1 h).le⟩

theorem subset (h : Follows l p key) (hl : l' ⊆ l) : Follows l' p key :=
  ⟨fun a ha b hb => h.first a (hl ha) b (hl hb), fun a ha b hb => h.last a (hl ha) b (hl hb)⟩

theorem orderedInsert {a : α} : ∀ {l : List α}, Follows (a :: l) p key → l.Pairwise (key · ≤ key ·) →
    (l.orderedInsert (fun a b => p b a = false) a).Pairwise (key · ≤ key ·)
  | [], _, _ => List.pairwise_singleton _ _
  | b :: l, h, hl => by
    have hbl := List.pairwise_cons.1 hl
    rw [List.orderedInsert_cons]
    split
    case isTrue hpb =>
      -- `b` does not have to come first, so its key is not the smaller one
      have hab : key a ≤ key b := not_lt.1 fun hlt => by
        rw [h.first b (by simp) a (by simp) hlt] at hpb
        cases hpb
      refine List.pairwise_cons.2 ⟨fun c hc => ?_, hl⟩
      rcases List.mem_cons.1 hc with rfl | hc
      · exact hab
      · exact hab.trans (hbl.1 c hc)
    case isFalse hpb =>
      have hba : key b ≤ key a := h.last b (by simp) a (by simp) (Bool.not_eq_false _ ▸ hpb)
      have hsub : Follows (a :: l) p key := h.subset (List.cons_subset_cons a (List.subset_cons_self b l))
      refine List.pairwise_cons.2 ⟨fun c hc => ?_, hsub.orderedInsert hbl.2⟩
      rcases List.mem_cons.1 ((List.mem_orderedInsert _).1 hc |> List.mem_cons.2) with rfl | hc
      · exact hba
      · exact hbl.1 c hc

/-- The sorted list is in the order of the key. -/
theorem pairwise : ∀ {l : List α}, Follows l p key → (sorted p l).Pairwise (key · ≤ key ·)
  | [], _ => List.Pairwise.nil
  | a :: l, h => by
    unfold sorted
    rw [List.insertionSort_cons]
    refine orderedInsert (h.subset ?_) (h.subset (List.subset_cons_self a l)).pairwise
    exact List.cons_subset_cons a fun b hb => (List.mem_insertionSort _).1 hb

/-- The first element has the smallest key. -/
theorem head_le (h : Follows l p key) {a : α} (ha : (sorted p l).head? = some a) {b : α} (hb : b ∈ l) :
    key a ≤ key b := by
  obtain ⟨rest, hl⟩ := List.head?_eq_some_iff.1 ha
  have hpw := h.pairwise
  rw [hl] at hpw
  have hb' : b ∈ a :: rest := hl ▸ mem_sorted.2 hb
  rcases List.mem_cons.1 hb' with rfl | hb'
  · exact le_rfl
  · exact (List.pairwise_cons.1 hpw).1 b hb'

end Follows

/-! ## Distinct keys -/

/-- Two lists of the same elements in the order of a key that no two of them share are one list. -/
theorem eq_of_perm {l l' : List α} {key : α → κ} (hk : (l.map key).Nodup) (hp : l.Perm l')
    (hl : l.Pairwise (key · ≤ key ·)) (hl' : l'.Pairwise (key · ≤ key ·)) : l = l' := by
  have : ∀ a b, a ∈ l → b ∈ l' → key a ≤ key b → key b ≤ key a → a = b := fun a b ha hb hab hba =>
    List.inj_on_of_nodup_map hk ha (hp.mem_iff.2 hb) (le_antisymm hab hba)
  exact hp.eq_of_pairwise this hl hl'

variable {l l' : List α} {p q : α → α → Bool} {key : α → κ}

/-- With distinct keys the sorted list goes strictly up. -/
theorem sorted_lt (hk : (l.map key).Nodup) (hp : Follows l p key) : (sorted p l).Pairwise (key · < key ·) := by
  have hn : ((sorted p l).map key).Nodup := (((sorted_perm p l).map key).nodup_iff).2 hk
  exact (hp.pairwise.and (List.pairwise_map.1 hn)).imp fun h => lt_of_le_of_ne h.1 h.2

/-- With distinct keys, selecting and sorting can be done in either order. -/
theorem sorted_filter (hk : (l.map key).Nodup) (hp : Follows l p key) (f : α → Bool)
    (hl : l'.Perm (l.filter f)) (hq : Follows l' q key) : sorted q l' = (sorted p l).filter f := by
  have hk' : ((sorted q l').map key).Nodup := by
    have hn : ((l.filter f).map key).Nodup := hk.sublist (List.filter_sublist.map key)
    exact ((((sorted_perm q l').trans hl).map key).nodup_iff).2 hn
  refine eq_of_perm hk' ?_ hq.pairwise (hp.pairwise.filter f)
  exact (sorted_perm q l').trans (hl.trans ((sorted_perm p l).filter f).symm)

/-- Elements of a list in the order of two keys are in the same order by both. -/
theorem le_of_pairwise {κ' : Type} [LinearOrder κ'] {l : List α} {f : α → κ} {g : α → κ'} (hk : (l.map f).Nodup)
    (hf : l.Pairwise (f · ≤ f ·)) (hg : l.Pairwise (g · ≤ g ·)) {a b : α} (ha : a ∈ l) (hb : b ∈ l)
    (h : f a ≤ f b) : g a ≤ g b := by
  by_cases hab : a = b
  · rw [hab]
  -- whichever of the two comes first, it is not the one with the greater key
  have hor : l.Pairwise fun a b => f a ≤ f b ∧ g a ≤ g b ∨ f b ≤ f a ∧ g b ≤ g a := (hf.and hg).imp Or.inl
  have : Std.Symm fun a b => f a ≤ f b ∧ g a ≤ g b ∨ f b ≤ f a ∧ g b ≤ g a := ⟨fun _ _ => Or.symm⟩
  rcases hor.forall ha hb hab with h' | h'
  · exact h'.2
  · exact absurd (List.inj_on_of_nodup_map hk ha hb (le_antisymm h h'.1)) hab

/-- Sorting by two predicates gives one list exactly when their keys order the elements alike. -/
theorem sorted_eq_iff {key' : α → κ} (hk : (l.map key).Nodup) (hk' : (l.map key').Nodup) (hp : Follows l p key)
    (hq : Follows l q key') :
    sorted p l = sorted q l ↔ ∀ a ∈ l, ∀ b ∈ l, key a ≤ key b → key' a ≤ key' b := by
  have hn : ((sorted p l).map key).Nodup := (((sorted_perm p l).map key).nodup_iff).2 hk
  have hn' : ((sorted p l).map key').Nodup := (((sorted_perm p l).map key').nodup_iff).2 hk'
  constructor
  · intro h a ha b hb hab
    have hg := hq.pairwise
    rw [← h] at hg
    exact le_of_pairwise hn hp.pairwise hg (mem_sorted.2 ha) (mem_sorted.2 hb) hab
  · intro h
    refine eq_of_perm hn' ((sorted_perm p l).trans (sorted_perm q l).symm) ?_ hq.pairwise
    exact hp.pairwise.imp_of_mem fun ha hb hab => h _ (mem_sorted.1 ha) _ (mem_sorted.1 hb) hab

end Sorting
