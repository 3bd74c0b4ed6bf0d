/-
A collection of documents addressed by id, over any ids, field names and values: writing a
document whole, updating some of its fields, deleting it, and querying by the value of a field.
A document's id occurs once, by construction of the association list.
-/
import Mathlib.Data.List.AList
import Mathlib.Tactic

namespace Store

/-- The fields of a document. -/
abbrev Fields (κ ν : Type) := κ → Option ν

/-- The documents of a collection, by id. -/
abbrev Collection (ι κ ν : Type) := AList fun _ : ι => Fields κ ν

/-! ## Fields -/

namespace Fields

variable {κ ν : Type} [DecidableEq κ]

/-- The fields a dictionary literal lists. -/
def ofList (l : List (κ × ν)) : Fields κ ν := fun k => l.lookup k

/-- The fields of `new` in place of those of `d`, the others as they were. -/
def merge (d new : Fields κ ν) : Fields κ ν := fun k => (new k).or (d k)

@[simp] theorem ofList_nil (k : κ) : (ofList [] : Fields κ ν) k = none := rfl

@[simp] theorem ofList_cons (k k' : κ) (v : ν) (l : List (κ × ν)) :
    ofList ((k', v) :: l) k = if k = k' then some v else ofList l k := by
  unfold ofList
  rw [List.lookup_cons]
  by_cases h : k = k'
  · simp [h]
  · rw [if_neg h, beq_eq_false_iff_ne.2 h]

theorem ofList_isSome {l : List (κ × ν)} {k : κ} : (ofList l k).isSome = true ↔ k ∈ l.map (·.1) := by
  induction l with
  | nil => simp
  | cons e l ih =>
    obtain ⟨k', v⟩ := e
    rw [ofList_cons, List.map_cons, List.mem_cons, ← ih]
    by_cases h : k = k' <;> simp [h]

omit [DecidableEq κ] in
theorem merge_some {d new : Fields κ ν} {k : κ} {v : ν} (h : new k = some v) :
    d.merge new k = some v := by
  unfold merge; rw [h]; rfl

omit [DecidableEq κ] in
theorem merge_none {d new : Fields κ ν} {k : κ} (h : new k = none) : d.merge new k = d k := by
  unfold merge; rw [h]; rfl

omit [DecidableEq κ] in
theorem merge_merge {d a b : Fields κ ν} (h : ∀ k, (a k).isSome → (b k).isSome) :
    (d.merge a).merge b = d.merge b := by
  funext k
  unfold merge
  rcases hb : b k with _ | v
  · have : a k = none := by
      rcases ha : a k with _ | w
      · rfl
      · have := h k (by rw [ha]; rfl)
        rw [hb] at this; cases this
    rw [this]; rfl
  · rfl

end Fields

/-! ## Writes and reads -/

namespace Collection

variable {ι κ ν : Type} [DecidableEq ι]

/-- Writes a document whole, over whatever was there. -/
def setData (c : Collection ι κ ν) (id : ι) (d : Fields κ ν) : Collection ι κ ν := c.insert id d

/-- Updates some fields of a document; there is no updating a document that does not exist. -/
def updateData (c : Collection ι κ ν) (id : ι) (new : Fields κ ν) : Option (Collection ι κ ν) :=
  (c.lookup id).map fun d => c.insert id (d.merge new)

/-- The document is removed, if it is there. -/
def delete (c : Collection ι κ ν) (id : ι) : Collection ι κ ν := c.erase id

/-- The documents of the collection. -/
def documents (c : Collection ι κ ν) : List (Fields κ ν) := c.entries.map (·.2)

/-- The documents whose field has the value. -/
def whereField [DecidableEq ν] (c : Collection ι κ ν) (key : κ) (v : ν) : List (Fields κ ν) :=
  (c.entries.filter fun e => e.2 key = some v).map (·.2)

theorem lookup_setData (c : Collection ι κ ν) (id j : ι) (d : Fields κ ν) :
    (c.setData id d).lookup j = if j = id then some d else c.lookup j := by
  unfold setData
  by_cases h : j = id
  · subst h; rw [if_pos rfl, AList.lookup_insert]
  · rw [if_neg h, AList.lookup_insert_ne h]

theorem lookup_delete (c : Collection ι κ ν) (id j : ι) :
    (c.delete id).lookup j = if j = id then none else c.lookup j := by
  unfold delete
  by_cases h : j = id
  · subst h; rw [if_pos rfl, AList.lookup_erase]
  · rw [if_neg h, AList.lookup_erase_ne h]

theorem updateData_eq_some {c c' : Collection ι κ ν} {id : ι} {new : Fields κ ν} :
    c.updateData id new = some c' ↔
      ∃ d, c.lookup id = some d ∧ c' = c.setData id (d.merge new) := by
  unfold updateData setData
  rw [Option.map_eq_some_iff]
  constructor <;> rintro ⟨d, hd, h⟩ <;> exact ⟨d, hd, h.symm⟩

/-! ## Queries -/

theorem mem_entries {c : Collection ι κ ν} {id : ι} {d : Fields κ ν} :
    (⟨id, d⟩ : Sigma fun _ : ι => Fields κ ν) ∈ c.entries ↔ c.lookup id = some d := by
  rw [← AList.mem_lookup_iff]; rfl

variable [DecidableEq ν]

omit [DecidableEq ι] in
theorem whereField_eq_filter (c : Collection ι κ ν) (key : κ) (v : ν) :
    c.whereField key v = c.documents.filter fun d => d key = some v := by
  unfold whereField documents
  rw [List.filter_map]
  rfl

/-- When a field holds the id of its document, the query by that field finds the document with
that id and no other. -/
theorem whereField_eq {c : Collection ι κ ν} {key : κ} {v : ι → ν} (hv : Function.Injective v)
    (hc : ∀ id d, c.lookup id = some d → d key = some (v id)) (id : ι) :
    c.whereField key (v id) = (c.lookup id).toList := by
  have hf : c.entries.filter (fun e => e.2 key = some (v id)) = c.entries.filter (fun e => e.1 = id) := by
    apply List.filter_congr
    rintro ⟨j, d⟩ hm
    have := hc j d (mem_entries.1 hm)
    simp only [this, Option.some.injEq, decide_eq_decide]
    exact hv.eq_iff
  unfold whereField
  rw [hf]
  rcases hl : c.lookup id with _ | d
  · have : ∀ e ∈ c.entries, ¬ e.1 = id := by
      rintro ⟨j, d⟩ hm rfl
      rw [mem_entries.1 hm] at hl; cases hl
    rw [List.filter_eq_nil_iff.2 (by simpa using this)]
    rfl
  · have hnd : (c.entries.filter fun e => e.1 = id).Nodup := c.nodupKeys.nodup.filter _
    have hmem : ∀ e, e ∈ c.entries.filter (fun e => e.1 = id) ↔ e = ⟨id, d⟩ := by
      rintro ⟨j, d'⟩
      rw [List.mem_filter, mem_entries]
      constructor
      · rintro ⟨h, hj⟩
        have hj' : j = id := by simpa using hj
        subst hj'
        rw [hl] at h; cases h; rfl
      · intro h; cases h; exact ⟨hl, by simp⟩
    have hp : (c.entries.filter fun e => e.1 = id).Perm [⟨id, d⟩] :=
      (List.perm_ext_iff_of_nodup hnd (List.nodup_singleton _)).2 fun e => by
        rw [hmem, List.mem_singleton]
    rw [List.perm_singleton.1 hp]
    rfl

end Collection

end Store
