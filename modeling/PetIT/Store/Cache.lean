/-
What a client knows of the documents of a collection, over any ids, field names and values: a document, or that it
was deleted. Writing, updating and deleting act on what is known of one document, and seen as entries that are
created, marked and deleted they only ever go up, but for a document that is written over.
-/
import PetIT.Store.Collection
import PetIT.Store.Lifecycle

namespace Store

/-- What is known of the documents, by id; `none` under an id is a document known to be deleted. -/
abbrev Cache (ι κ ν : Type) := AList fun _ : ι => Option (Fields κ ν)

/-- A write to a document. -/
inductive Mutation (ι κ ν : Type) where
  | set (id : ι) (d : Fields κ ν)
  | update (id : ι) (new : Fields κ ν)
  | delete (id : ι)

variable {ι κ ν α : Type}

/-- The document that the write is to. -/
def Mutation.id : Mutation ι κ ν → ι
  | .set id _ => id
  | .update id _ => id
  | .delete id => id

namespace Cache

variable [DecidableEq ι]

/-- The document under the id, if it is known and there. -/
def document (c : Cache ι κ ν) (id : ι) : Option (Fields κ ν) := (c.lookup id).join

/-- A write, as it changes what is known; a document that is not known to be there is not updated, and one that is
not known at all is not known to be deleted. -/
def apply (c : Cache ι κ ν) : Mutation ι κ ν → Cache ι κ ν
  | .set id d => c.insert id (some d)
  | .update id new =>
    match c.document id with
    | some d => c.insert id (some (d.merge new))
    | none => c
  | .delete id => if (c.lookup id).isSome then c.insert id none else c

theorem document_eq_some {c : Cache ι κ ν} {id : ι} {d : Fields κ ν} :
    c.document id = some d ↔ c.lookup id = some (some d) := by
  unfold document
  rw [Option.join_eq_some_iff]

/-- A write leaves the other documents alone. -/
theorem lookup_apply_of_ne (c : Cache ι κ ν) {m : Mutation ι κ ν} {j : ι} (h : j ≠ m.id) :
    (c.apply m).lookup j = c.lookup j := by
  cases m with
  | set id d => exact AList.lookup_insert_ne h
  | update id new =>
    dsimp only [apply]
    split
    · exact AList.lookup_insert_ne h
    · rfl
  | delete id =>
    dsimp only [apply]
    split
    · exact AList.lookup_insert_ne h
    · rfl

/-- What a write makes of the documents that are there. -/
theorem document_apply {c : Cache ι κ ν} {m : Mutation ι κ ν} {j : ι} {d : Fields κ ν}
    (h : (c.apply m).document j = some d) : c.document j = some d ∨ m = .set j d ∨
      ∃ d₀ new, m = .update j new ∧ c.document j = some d₀ ∧ d = d₀.merge new := by
  by_cases hj : j = m.id
  · subst hj
    rw [document_eq_some] at h
    cases m with
    | set id d' =>
      have hl := (AList.lookup_insert c).symm.trans h
      cases hl
      exact Or.inr (Or.inl rfl)
    | update id new =>
      dsimp only [apply] at h
      split at h
      · rename_i d₀ hd₀
        rw [Mutation.id, AList.lookup_insert] at h
        cases h
        exact Or.inr (Or.inr ⟨d₀, new, rfl, hd₀, rfl⟩)
      · exact Or.inl (document_eq_some.2 h)
    | delete id =>
      dsimp only [apply] at h
      split at h
      · rw [Mutation.id, AList.lookup_insert] at h
        cases h
      · exact Or.inl (document_eq_some.2 h)
  · rw [document_eq_some, lookup_apply_of_ne c hj, ← document_eq_some] at h
    exact Or.inl h

/-! ## The documents that are there -/

/-- In the order of their ids. -/
def documents [LE ι] [DecidableLE ι] (c : Cache ι κ ν) : List (Fields κ ν) :=
  (c.entries.insertionSort fun a b => a.1 ≤ b.1).filterMap (·.2)

theorem mem_documents [LE ι] [DecidableLE ι] {c : Cache ι κ ν} {d : Fields κ ν} :
    d ∈ c.documents ↔ ∃ id, c.document id = some d := by
  unfold documents
  simp only [List.mem_filterMap, List.mem_insertionSort, document_eq_some]
  constructor
  · rintro ⟨⟨id, x⟩, he, rfl⟩
    exact ⟨id, AList.mem_lookup_iff.2 he⟩
  · rintro ⟨id, hl⟩
    exact ⟨⟨id, some d⟩, AList.mem_lookup_iff.1 hl, rfl⟩

/-- When every document tells its id, no two of them tell the same one. -/
theorem documents_nodup [LE ι] [DecidableLE ι] {c : Cache ι κ ν} {f : Fields κ ν → ι}
    (hf : ∀ id d, c.document id = some d → f d = id) : (c.documents.map f).Nodup := by
  have hkeys : ((c.entries.insertionSort fun a b => a.1 ≤ b.1).map Sigma.fst).Nodup :=
    ((List.perm_insertionSort _ c.entries).map Sigma.fst).nodup_iff.2 c.nodupKeys
  unfold documents List.Nodup
  rw [List.pairwise_map, List.pairwise_filterMap]
  refine (List.pairwise_map.1 hkeys).imp_of_mem fun {a b} ha hb hne d hd d' hd' he => hne ?_
  have hid : ∀ e : Sigma fun _ : ι => Option (Fields κ ν),
      e ∈ c.entries.insertionSort (fun a b => a.1 ≤ b.1) → ∀ d, e.2 = some d → f d = e.1 := by
    rintro ⟨id, x⟩ he d rfl
    exact hf id d (document_eq_some.2 (AList.mem_lookup_iff.2 ((List.mem_insertionSort _).1 he)))
  rw [← hid a ha d hd, he, hid b hb d' hd']

/-! ## As entries -/

section

variable (content : Fields κ ν → α) (marked : Fields κ ν → Bool)

/-- What is known of a document, as an entry with a content and a mark. -/
def entry (c : Cache ι κ ν) (id : ι) : Entry α :=
  match c.lookup id with
  | none => .absent
  | some none => .gone
  | some (some d) => .live (content d) (marked d)

/-- The write sets the mark and leaves the content alone, if it is an update. -/
def Marks : Mutation ι κ ν → Prop
  | .update _ new => ∀ d : Fields κ ν, content (d.merge new) = content d ∧ marked (d.merge new) = true
  | _ => True

end

variable {content : Fields κ ν → α} {marked : Fields κ ν → Bool} {c c' : Cache ι κ ν} {m : Mutation ι κ ν} {id : ι}

theorem entry_congr (h : c.lookup id = c'.lookup id) : c.entry content marked id = c'.entry content marked id := by
  unfold entry
  rw [h]

theorem entry_of_document {d : Fields κ ν} (h : c.document id = some d) :
    c.entry content marked id = .live (content d) (marked d) := by
  unfold entry
  rw [document_eq_some.1 h]

theorem entry_insert (c : Cache ι κ ν) (id : ι) (x : Option (Fields κ ν)) :
    entry content marked (c.insert id x) id = x.elim .gone fun d => .live (content d) (marked d) := by
  unfold entry
  rw [AList.lookup_insert]
  cases x <;> rfl

theorem document_of_live {a : α} {b : Bool} (h : c.entry content marked id = .live a b) :
    ∃ d, c.document id = some d ∧ content d = a ∧ marked d = b := by
  unfold entry at h
  split at h
  · cases h
  · cases h
  · rename_i d hd
    cases h
    exact ⟨d, document_eq_some.2 hd, rfl, rfl⟩

theorem document_of_gone (h : c.entry content marked id = .gone) : c.document id = none := by
  unfold entry at h
  unfold document
  split at h
  · cases h
  · rename_i hl
    rw [hl]; rfl
  · cases h

theorem entry_apply_of_ne (h : id ≠ m.id) : (c.apply m).entry content marked id = c.entry content marked id :=
  entry_congr (lookup_apply_of_ne c h)

theorem entry_set (c : Cache ι κ ν) (id : ι) (d : Fields κ ν) :
    (c.apply (.set id d)).entry content marked id = .live (content d) (marked d) := entry_insert c id (some d)

theorem entry_update {new : Fields κ ν} (hm : Marks content marked (.update id new : Mutation ι κ ν)) :
    (c.apply (.update id new)).entry content marked id = (c.entry content marked id).mark := by
  dsimp only [apply]
  cases hd : c.document id with
  | some d =>
    show entry content marked (c.insert id (some (d.merge new))) id = _
    rw [entry_insert, entry_of_document hd]
    show Entry.live (content (d.merge new)) (marked (d.merge new)) = .live (content d) true
    rw [(hm d).1, (hm d).2]
  | none =>
    -- nothing that is there, so nothing to mark
    show c.entry content marked id = _
    cases he : c.entry content marked id with
    | absent | gone => rfl
    | live a b =>
      obtain ⟨d, hd', -⟩ := document_of_live he
      rw [hd] at hd'; cases hd'

theorem entry_delete (c : Cache ι κ ν) (id : ι) :
    (c.apply (.delete id)).entry content marked id = (c.entry content marked id).delete := by
  dsimp only [apply]
  cases hl : c.lookup id with
  | none =>
    have he : c.entry content marked id = .absent := by unfold entry; rw [hl]
    rw [if_neg (by simp), he]
    rfl
  | some x =>
    rw [if_pos (by simp), entry_insert]
    unfold entry
    rw [hl]
    cases x <;> rfl

/-- Who knows more before a write knows more after it. -/
theorem entry_apply_mono (hm : Marks content marked m) (h : c.entry content marked id ≤ c'.entry content marked id) :
    (c.apply m).entry content marked id ≤ (c'.apply m).entry content marked id := by
  by_cases hid : id = m.id
  · subst hid
    cases m with
    | set id d => rw [Mutation.id, entry_set, entry_set]
    | update id new => rw [Mutation.id, entry_update hm, entry_update hm]; exact Entry.mark_mono h
    | delete id => rw [Mutation.id, entry_delete, entry_delete]; exact Entry.delete_mono h
  · rw [entry_apply_of_ne hid, entry_apply_of_ne hid]
    exact h

/-- A write goes up, if it does not write over anything. -/
theorem entry_le_apply (hm : Marks content marked m)
    (hset : ∀ j d, m = .set j d → c.entry content marked j = .absent) (id : ι) :
    c.entry content marked id ≤ (c.apply m).entry content marked id := by
  by_cases hid : id = m.id
  · subst hid
    cases m with
    | set id d => rw [Mutation.id, hset id d rfl]; exact Entry.absent_le _
    | update id new => rw [Mutation.id, entry_update hm]; exact Entry.le_mark _
    | delete id => rw [Mutation.id, entry_delete]; exact Entry.le_delete _
  · rw [entry_apply_of_ne hid]

/-- What is not known does not come to be known but by being written. -/
theorem entry_apply_absent (h : c.entry content marked id = .absent) (hset : ∀ d, m ≠ .set id d) :
    (c.apply m).entry content marked id = .absent := by
  have hl : c.lookup id = none := by
    unfold entry at h
    split at h
    · assumption
    · cases h
    · cases h
  have hl' : (c.apply m).lookup id = none := by
    by_cases hid : id = m.id
    · subst hid
      cases m with
      | set id d => exact absurd rfl (hset d)
      | update id new =>
        have hd : c.document id = none := by unfold document; rw [show c.lookup id = none from hl]; rfl
        dsimp only [apply]
        rw [hd]
        exact hl
      | delete id =>
        dsimp only [apply]
        rw [show c.lookup id = none from hl, if_neg (by simp)]
        exact hl
    · rw [lookup_apply_of_ne c hid]
      exact hl
  unfold entry
  rw [hl']

end Cache

end Store
