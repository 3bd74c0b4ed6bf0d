/-
A device and its Firestore client. The client shows a write of the device at once, and takes it back if the server
refuses it; the writes of a device are sent and answered in their order. Of every document the client keeps the newest
version it has had, be it from the server or by a write of its own that was applied. Of the client it is taken that it
forgets no document, and of the device that it stays with its user.
-/
import PetIT.Job.Stages
import PetIT.Store.Cache
import PetIT.Store.Replica

namespace PetIT.Live

open JobPostCollectionKeys

/-! ## Writes -/

/-- What a client knows of the `jobPost` collection. -/
abbrev Cache := Store.Cache String String Value

/-- A write to the collection: the post of press `k`, the booking write `b`, or a deletion. -/
inductive Write where
  | post (k : Nat) (jobPost : JobPost)
  | book (b : Nat) (postId : String)
  | delete (postId : String)

/-- The write as the client sends it. -/
def Write.mutation : Write → Store.Mutation String String Value
  | .post _ jobPost => .set jobPost.postId jobPost.postJob
  | .book _ postId => .update postId Job.booked
  | .delete postId => .delete postId

/-- The document that the write is to. -/
def Write.id (w : Write) : String := w.mutation.id

/-- The collection with the write in it. -/
def act (c : Cache) (w : Write) : Cache := c.apply w.mutation

/-- How far a document has come, as far as it is known: an entry that is created, booked and deleted. -/
def stage (c : Cache) (id : String) : Store.Entry Document :=
  c.entry Job.content (fun d => d statusKey = some (.string "BOOKED")) id

/-- The one knows of every document what it can have become in the other, but for those in `refused`. -/
def Up (refused : List String) (c c' : Cache) : Prop := ∀ id, id ∉ refused → stage c id ≤ stage c' id

/-! ## The device -/

/-- A user's device: the collection as its client has it, with the writes it has no answer to. -/
structure Device where
  user : String
  replica : Store.Replica Write Cache := ⟨∅, []⟩
  /-- The state of the server that each document is known from, by its place in the server's history. -/
  versions : String → Nat := fun _ => 0
  /-- The documents that a write of the device was to which the server has refused. -/
  refused : List String := []

namespace Device

/-- The collection as it is shown on the device. -/
def view (d : Device) : Cache := d.replica.view act

/-- The device sends a write, and its client shows it from now on. -/
def send (d : Device) (w : Write) : Device := { d with replica := d.replica.send w }

/-- The oldest write is answered. If it was applied, its document is known from the server's state `version`. -/
def answer (d : Device) (applied : Bool) (version : Nat) : Option (Write × Device) := do
  let (w, replica) ← d.replica.answer act applied
  if applied then
    some (w, { d with replica := replica, versions := Function.update d.versions w.id version })
  else
    some (w, { d with replica := replica, refused := w.id :: d.refused })

/-- The server sends a document, or that it is no longer there. -/
def learn (d : Device) (id : String) (doc : Option Document) (version : Nat) : Device :=
  { d with
    replica := { d.replica with base := d.replica.base.insert id doc }
    versions := Function.update d.versions id version }

end Device

/-! ## Writes go up -/

theorem marks (w : Write) : Store.Cache.Marks Job.content (fun d : Document => d statusKey = some (.string "BOOKED"))
    w.mutation := by
  cases w with
  | book b postId => exact fun d => ⟨Job.content_merge_booked d, decide_eq_true (Job.merge_booked_status d)⟩
  | post | delete => exact trivial

variable {c c' : Cache} {w : Write} {id : String} {d d' : Device} {refused refused' : List String}

theorem stage_act_mono (w : Write) (h : stage c id ≤ stage c' id) : stage (act c w) id ≤ stage (act c' w) id :=
  Store.Cache.entry_apply_mono (marks w) h

theorem stage_post (c : Cache) (k : Nat) (j : JobPost) : stage (act c (.post k j)) j.postId =
    .live (Job.content j.postJob) (j.postJob statusKey = some (.string "BOOKED")) :=
  Store.Cache.entry_set c j.postId j.postJob

theorem stage_book (c : Cache) (b : Nat) (id : String) : stage (act c (.book b id)) id = (stage c id).mark :=
  Store.Cache.entry_update (marks (.book b id))

theorem stage_delete (c : Cache) (id : String) : stage (act c (.delete id)) id = (stage c id).delete :=
  Store.Cache.entry_delete c id

theorem stage_act_of_ne (c : Cache) (h : id ≠ w.id) : stage (act c w) id = stage c id :=
  Store.Cache.entry_apply_of_ne h

/-- A post of an id that nothing is known of, a booking and a deletion go up. -/
theorem stage_le_act (h : ∀ k j, w = .post k j → stage c j.postId = .absent) (id : String) :
    stage c id ≤ stage (act c w) id := by
  refine Store.Cache.entry_le_apply (marks w) (fun i doc hw => ?_) id
  cases w with
  | post k j => cases hw; exact h k j rfl
  | book | delete => cases hw

theorem stage_act_absent (h : stage c id = .absent) (hw : ∀ k j, w = .post k j → j.postId ≠ id) :
    stage (act c w) id = .absent := by
  refine Store.Cache.entry_apply_absent h fun doc he => ?_
  cases w with
  | post k j => cases he; exact hw k j rfl rfl
  | book | delete => cases he

theorem Up.refl (refused : List String) (c : Cache) : Up refused c c := fun _ _ => le_rfl

theorem Up.trans {c'' : Cache} (h : Up refused c c') (h' : Up refused c' c'') : Up refused c c'' :=
  fun id hid => (h id hid).trans (h' id hid)

theorem Up.mono (h : Up refused c c') (hsub : refused ⊆ refused') : Up refused' c c' :=
  fun id hid => h id fun hm => hid (hsub hm)

/-! ## What is shown goes up -/

namespace Device

theorem view_send (d : Device) (w : Write) : (d.send w).view = act d.view w := Store.Replica.view_send _ _

theorem view_le_send (h : ∀ k j, w = .post k j → stage d.view j.postId = .absent) :
    Up refused d.view (d.send w).view := by
  intro id _
  rw [view_send]
  exact stage_le_act h id

/-- What an answer leaves. -/
theorem answer_some {applied : Bool} {version : Nat} (h : d.answer applied version = some (w, d')) :
    d.replica.pending = w :: d'.replica.pending ∧
    d'.replica.base = (if applied then act d.replica.base w else d.replica.base) ∧
    d'.versions = (if applied then Function.update d.versions w.id version else d.versions) ∧
    d'.refused = (if applied then d.refused else w.id :: d.refused) := by
  unfold answer at h
  obtain ⟨⟨v, r⟩, hr, h⟩ := Option.bind_eq_some_iff.1 h
  obtain ⟨hp, hb⟩ := Store.Replica.answer_some hr
  cases applied <;> cases h <;> exact ⟨hp, hb, rfl, rfl⟩

theorem refused_subset {applied : Bool} {version : Nat} (h : d.answer applied version = some (w, d')) :
    d.refused ⊆ d'.refused := by
  obtain ⟨-, -, -, hr⟩ := answer_some h
  rw [hr]
  cases applied
  · exact List.subset_cons_self _ _
  · exact List.Subset.refl _

/-- A write that was applied is shown as before; one that was refused is taken back, which only its document shows. -/
theorem view_le_answer {applied : Bool} {version : Nat} (h : d.answer applied version = some (w, d')) :
    Up d'.refused d.view d'.view := by
  intro id hid
  obtain ⟨-, -, -, hr⟩ := answer_some h
  unfold answer at h
  obtain ⟨⟨v, r⟩, hrep, h⟩ := Option.bind_eq_some_iff.1 h
  cases applied with
  | true =>
    cases h
    have hv : r.view act = d.replica.view act := Store.Replica.view_acknowledge hrep
    show stage (d.replica.view act) id ≤ stage (r.view act) id
    rw [hv]
  | false =>
    cases h
    have hne : id ≠ w.id := fun he => hid (he ▸ List.mem_cons_self ..)
    have hv : stage (r.view act) id = stage (d.replica.view act) id :=
      Store.Replica.view_refuse (f := fun c => stage c id)
        (fun w _ a b hab => le_antisymm (stage_act_mono w hab.le) (stage_act_mono w hab.ge)) hrep
        fun a => stage_act_of_ne a hne
    exact hv.ge

/-- The server sends nothing that is older than what is there. -/
theorem view_le_learn {doc : Option Document} {version : Nat}
    (h : stage d.replica.base id ≤ stage (d.replica.base.insert id doc) id) :
    Up refused d.view (d.learn id doc version).view := by
  intro i _
  refine Store.Replica.view_rel (R := fun a b => stage a i ≤ stage b i) (fun w _ a b => stage_act_mono w) ?_
  by_cases hi : i = id
  · subst hi; exact h
  · exact (Store.Cache.entry_congr (AList.lookup_insert_ne hi).symm).le

end Device

/-! ## The server's history -/

/-- Whatever the device has from the server is not ahead of the state it is known from. -/
def Device.Behind (history : List Job.Core) (d : Device) : Prop :=
  ∀ id, ∃ c, history[d.versions id]? = some c ∧ stage d.replica.base id ≤ c.entry id

variable {history : List Job.Core} {core : Job.Core}

theorem stage_insert_none (c : Cache) (id : String) : stage (c.insert id none) id = .gone :=
  Store.Cache.entry_insert c id none

theorem stage_insert_some (c : Cache) (id : String) (doc : Document) :
    stage (c.insert id (some doc)) id = .live (Job.content doc) (doc statusKey = some (.string "BOOKED")) :=
  Store.Cache.entry_insert c id (some doc)

theorem Device.Behind.new (user : String) (h : history ≠ []) : Device.Behind history { user := user } := by
  obtain ⟨c, rest, rfl⟩ := List.exists_cons_of_ne_nil h
  exact fun id => ⟨c, rfl, Store.Entry.absent_le _⟩

theorem Device.Behind.mono {history' : List Job.Core} (h : d.Behind history) (hp : history <+: history') :
    d.Behind history' := by
  intro id
  obtain ⟨c, hc, hle⟩ := h id
  obtain ⟨hlt, rfl⟩ := List.getElem?_eq_some_iff.1 hc
  exact ⟨_, List.prefix_iff_getElem?.1 hp _ hlt, hle⟩

/-- The document of a write that was applied is known from the state that this has led to. -/
theorem Device.Behind.answer {applied : Bool} (h : d.Behind history)
    (hd : d.answer applied history.length = some (w, d'))
    (hw : applied = true → stage (act d.replica.base w) w.id ≤ core.entry w.id) : d'.Behind (history ++ [core]) := by
  obtain ⟨-, hb, hv, -⟩ := Device.answer_some hd
  cases applied with
  | false =>
    have hbehind := h.mono (List.prefix_append history [core])
    intro id
    rw [hb, hv]
    exact hbehind id
  | true =>
    intro id
    rw [hb, hv, if_pos rfl, if_pos rfl]
    by_cases hid : id = w.id
    · subst hid
      rw [Function.update_self]
      exact ⟨core, Slots.getElem?_concat_self _ _, hw rfl⟩
    · obtain ⟨c, hc, hle⟩ := h id
      rw [Function.update_of_ne hid, stage_act_of_ne _ hid]
      exact ⟨c, Slots.getElem?_concat_of_some hc, hle⟩

/-- A document that is sent from a state that is not older: it is that state's, and no older than the one there. -/
theorem Device.Behind.learn {version : Nat} (h : d.Behind history) (hv : history[version]? = some core)
    (hle : ∀ c, history[d.versions id]? = some c → c.Grows core)
    (hknown : (core.jobPost.lookup id).isSome ∨ (d.replica.base.lookup id).isSome) :
    stage d.replica.base id ≤ stage (d.replica.base.insert id (core.jobPost.lookup id)) id ∧
      (d.learn id (core.jobPost.lookup id) version).Behind history := by
  obtain ⟨c, hc, hbase⟩ := h id
  have hcore : stage d.replica.base id ≤ core.entry id := hbase.trans ((hle c hc).entry id)
  have hentry : stage (d.replica.base.insert id (core.jobPost.lookup id)) id = core.entry id := by
    cases hl : core.jobPost.lookup id with
    | some doc => rw [stage_insert_some, Job.Core.entry_some hl]
    | none =>
      rw [stage_insert_none]
      rw [Job.Core.entry_none hl] at hcore ⊢
      split
      · rfl
      · -- a document that the device knows of was created
        rename_i hcr
        rw [if_neg hcr, Store.Entry.le_absent] at hcore
        have hsome : (d.replica.base.lookup id).isSome := hknown.resolve_left (by rw [hl]; exact Bool.false_ne_true)
        obtain ⟨x, hx⟩ := Option.isSome_iff_exists.1 hsome
        unfold stage Store.Cache.entry at hcore
        rw [hx] at hcore
        cases x <;> cases hcore
  refine ⟨hentry ▸ hcore, fun i => ?_⟩
  by_cases hi : i = id
  · subst hi
    refine ⟨core, ?_, hentry.le⟩
    show history[Function.update d.versions i version i]? = _
    rw [Function.update_self]
    exact hv
  · obtain ⟨c, hc, hle⟩ := h i
    refine ⟨c, ?_, ?_⟩
    · show history[Function.update d.versions id version i]? = _
      rw [Function.update_of_ne hi]
      exact hc
    · exact (Store.Cache.entry_congr (AList.lookup_insert_ne hi)).le.trans hle

end PetIT.Live
