/-
The record against which the devices are read: the states the server has been in, and the writes that have been sent.
A document that a device knows of is a post that was sent, and either it has been created on the server or it was
sent from this very device; so with its booking.
-/
import PetIT.Job.Listed
import PetIT.Live.Step

namespace PetIT.Live

open Job (CreatedBy IsBooked DocOK)

/-! ## Definitions -/

/-- Each state of the server is a later stage of those before it, and the last one is the present. -/
structure History (resolve : String → Option String) (history : List Job.Core) (core : Job.Core) : Prop where
  inv : ∀ c ∈ history, Job.Inv resolve c
  grows : history.Pairwise Job.Core.Grows
  last : history.getLast? = some core

/-- What a write is behind: a press that has sent it, or a booking. -/
def Write.OK (resolve : String → Option String) (core : Job.Core) : Write → Prop
  | .post k j => ∃ p, core.posts[k]? = some p ∧ p.Built resolve j ∧ p.Sent j
  | .book b id => ∃ r, core.bookings[b]? = some r ∧ r.postId = id
  | .delete _ => True

/-- The writes so far, every post that a press has built among them. -/
structure Ledger (resolve : String → Option String) (core : Job.Core) (sent : List (Nat × Write)) : Prop where
  write : ∀ i w, (i, w) ∈ sent → w.OK resolve core
  built : ∀ (k : Nat) (p : Job.Post) (j : JobPost), core.posts[k]? = some p → p.phase.built = some j →
    ∃ i, (i, Write.post k j) ∈ sent

/-- A booking of the post has been applied, or made on device `i`. -/
def Booked (core : Job.Core) (sent : List (Nat × Write)) (i : Nat) (id : String) : Prop :=
  IsBooked core.bookings id ∨ ∃ b, (i, Write.book b id) ∈ sent

/-- On device `i` the document `d` is the post `j` of press `k`, which has been created or was sent from there. -/
structure DocFrom (core : Job.Core) (sent : List (Nat × Write)) (i : Nat) (id : String) (d : Document) (k : Nat)
    (j : JobPost) : Prop where
  post : ∃ i', (i', Write.post k j) ∈ sent ∧ (i' = i ∨ ∃ p, CreatedBy core.posts id k p j)
  postId : j.postId = id
  doc : ∃ b : Bool, DocOK j (b = true) d ∧ (b = true → Booked core sent i id)

/-- Every document that is known is one of those. -/
def Known (core : Job.Core) (sent : List (Nat × Write)) (i : Nat) (c : Cache) : Prop :=
  ∀ id d, c.document id = some d → ∃ k j, DocFrom core sent i id d k j

variable {resolve : String → Option String} {history : List Job.Core} {core core' c c' : Job.Core}
  {sent sent' : List (Nat × Write)} {i : Nat} {id : String} {d : Document} {k : Nat} {j : JobPost} {v : Cache}
  {posts : Nat → String → Job.Captured → Prop} {books : Nat → String → String → Prop}

/-! ## The history -/

theorem History.init : History resolve [Job.State.init.core] Job.State.init.core :=
  ⟨List.forall_mem_singleton.2 Job.Inv.init, List.pairwise_singleton _ _, rfl⟩

theorem History.present (h : History resolve history core) : Job.Inv resolve core :=
  h.inv _ (List.mem_of_getLast? h.last)

theorem History.ne_nil (h : History resolve history core) : history ≠ [] := by
  rintro rfl
  cases h.last

/-- A state at a later place is a later stage. -/
theorem History.grows_of_le (h : History resolve history core) {t t' : Nat} (ht : t ≤ t') (hc : history[t]? = some c)
    (hc' : history[t']? = some c') : c.Grows c' := by
  obtain ⟨hlt, rfl⟩ := List.getElem?_eq_some_iff.1 hc
  obtain ⟨hlt', rfl⟩ := List.getElem?_eq_some_iff.1 hc'
  rcases Nat.eq_or_lt_of_le ht with rfl | ht
  · exact .refl _
  · exact List.pairwise_iff_getElem.1 h.grows t t' hlt hlt' ht

theorem History.grows_present (h : History resolve history core) (hc : c ∈ history) : c.Grows core := by
  obtain ⟨t, ht⟩ := List.mem_iff_getElem?.1 hc
  refine h.grows_of_le (show t ≤ history.length - 1 from ?_) ht (List.getLast?_eq_getElem? ▸ h.last)
  have := (List.getElem?_eq_some_iff.1 ht).1
  omega

theorem History.advance (h : History resolve history core) (hs : Job.CoreStep resolve posts books core core') :
    History resolve (history ++ [core']) core' := by
  refine ⟨fun c hc => ?_, ?_, by simp⟩
  · rcases List.mem_append.1 hc with hc | hc
    · exact h.inv c hc
    · rw [List.mem_singleton] at hc
      rw [hc]
      exact h.present.coreStep hs
  · refine List.pairwise_append.2 ⟨h.grows, List.pairwise_singleton _ _, fun a ha b hb => ?_⟩
    rw [List.mem_singleton] at hb
    rw [hb]
    exact (h.grows_present ha).trans (hs.grows h.present)

/-! ## The writes -/

theorem Write.OK.step {w : Write} (h : w.OK resolve core) (hs : Job.CoreStep resolve posts books core core') :
    w.OK resolve core' := by
  cases w with
  | post k j =>
    obtain ⟨p, hk, hb, hp⟩ := h
    exact hs.sent hk hb hp
  | book b id => exact hs.booking_stays h
  | delete id => trivial

theorem Ledger.init : Ledger resolve Job.State.init.core [] := ⟨nofun, fun k p j hk => by cases hk⟩

/-- The job system moves on, with a write that is sent for every post that it builds. -/
theorem Ledger.advance (h : Ledger resolve core sent) (hs : Job.CoreStep resolve posts books core core')
    (hsub : sent ⊆ sent') (hnew : ∀ i w, (i, w) ∈ sent' → (i, w) ∈ sent ∨ w.OK resolve core')
    (hb : ∀ (k : Nat) (p : Job.Post) (j : JobPost), core'.posts[k]? = some p → p.phase.built = some j →
      (∃ q, core.posts[k]? = some q ∧ q.phase.built = some j) ∨ ∃ i, (i, Write.post k j) ∈ sent') :
    Ledger resolve core' sent' := by
  refine ⟨fun i w hw => ?_, fun k p j hk hj => ?_⟩
  · rcases hnew i w hw with hw | hw
    · exact (h.write i w hw).step hs
    · exact hw
  · rcases hb k p j hk hj with ⟨q, hq, hqj⟩ | hi
    · obtain ⟨i, hi⟩ := h.built k q j hq hqj
      exact ⟨i, hsub hi⟩
    · exact hi

/-- The press of a post that was sent. -/
theorem Ledger.press (h : Ledger resolve core sent) (hd : DocFrom core sent i id d k j) :
    ∃ p, core.posts[k]? = some p ∧ p.docId = id ∧ p.Built resolve j := by
  obtain ⟨i', hi', -⟩ := hd.post
  obtain ⟨p, hk, hb, -⟩ := h.write i' _ hi'
  exact ⟨p, hk, hb.postId.symm.trans hd.postId, hb⟩

/-! ## The documents -/

theorem Booked.mono (h : Booked core sent i id) (hg : core.Grows core') (hsub : sent ⊆ sent') :
    Booked core' sent' i id := by
  rcases h with h | ⟨b, h⟩
  · exact Or.inl (hg.booked id h)
  · exact Or.inr ⟨b, hsub h⟩

theorem DocFrom.mono (h : DocFrom core sent i id d k j) (hg : core.Grows core') (hsub : sent ⊆ sent') :
    DocFrom core' sent' i id d k j := by
  obtain ⟨i', hi', hcr⟩ := h.post
  obtain ⟨b, hb, hbooked⟩ := h.doc
  exact ⟨⟨i', hsub hi', hcr.imp_right fun ⟨p, hp⟩ => ⟨p, hg.created _ _ _ _ hp⟩⟩, h.postId, b, hb,
    fun hb => (hbooked hb).mono hg hsub⟩

theorem Known.mono (h : Known core sent i v) (hg : core.Grows core') (hsub : sent ⊆ sent') :
    Known core' sent' i v := fun id d hd =>
  let ⟨k, j, hdoc⟩ := h id d hd
  ⟨k, j, hdoc.mono hg hsub⟩

theorem Known.empty : Known core sent i (∅ : Cache) := fun id d hd => by
  rw [Store.Cache.document_eq_some] at hd
  cases hd

/-- A document of the server, in a state it has been in. -/
theorem DocFrom.of_lookup (hl : Ledger resolve core sent) (hi : Job.Inv resolve c) (hg : c.Grows core)
    (hd : c.jobPost.lookup id = some d) : ∃ k j, DocFrom core sent i id d k j := by
  obtain ⟨k, p, j, hcr, hdoc, hid⟩ := hi.listed hd
  have hcr' := hg.created _ _ _ _ hcr
  obtain ⟨i', hi'⟩ := hl.built k p j hcr'.get (by rw [hcr'.phase]; rfl)
  refine ⟨k, j, ⟨i', hi', Or.inr ⟨p, hcr'⟩⟩, hid, decide (IsBooked c.bookings id), hdoc.congr (by simp), fun hb => ?_⟩
  exact Or.inl (hg.booked id (of_decide_eq_true hb))

/-- The documents of the server are known to all. -/
theorem Known.of_lookup (hl : Ledger resolve core sent) (hi : Job.Inv resolve core)
    (hv : ∀ id, v.document id = core.jobPost.lookup id) (i : Nat) : Known core sent i v := fun id _ hd =>
  DocFrom.of_lookup hl hi (.refl _) ((hv id).symm.trans hd)

/-- What the device knows from the server. -/
theorem Known.learn (h : Known core sent i v) (hl : Ledger resolve core sent) (hi : Job.Inv resolve c)
    (hg : c.Grows core) (id : String) : Known core sent i (v.insert id (c.jobPost.lookup id)) := by
  intro id' d hd
  rw [Store.Cache.document_eq_some] at hd
  by_cases hid : id' = id
  · subst hid
    rw [AList.lookup_insert, Option.some.injEq] at hd
    exact DocFrom.of_lookup hl hi hg hd
  · rw [AList.lookup_insert_ne hid, ← Store.Cache.document_eq_some] at hd
    exact h id' d hd

/-- What the device knows with a write of its own on top. -/
theorem Known.act {w : Write} (h : Known core sent i v) (hl : Ledger resolve core sent) (hw : (i, w) ∈ sent) :
    Known core sent i (act v w) := by
  intro id d hd
  rcases Store.Cache.document_apply hd with hd | hm | ⟨d₀, new, hm, hd₀, rfl⟩
  · exact h id d hd
  · cases w with
    | post k j =>
      cases hm
      obtain ⟨p, -, hb, -⟩ := hl.write i _ hw
      exact ⟨k, j, ⟨i, hw, Or.inl rfl⟩, rfl, false, (DocOK.postJob hb.status).congr (by simp), nofun⟩
    | book | delete => cases hm
  · cases w with
    | book b postId =>
      cases hm
      obtain ⟨k, j, hdoc⟩ := h id d₀ hd₀
      obtain ⟨b', hb', -⟩ := hdoc.doc
      exact ⟨k, j, hdoc.post, hdoc.postId, true, hb'.merge_booked.congr (by simp), fun _ => Or.inr ⟨b, hw⟩⟩
    | post | delete => cases hm

/-! ## Writes that the server applies -/

variable {job job' : Job.State}

theorem post_applied {q : Job.Post} (hk : job.posts[k]? = some q) (hs : q.Sent j)
    (h : Job.postJobReply job k none = some job') :
    stage (act v (.post k j)) j.postId ≤ job'.core.entry j.postId := by
  obtain ⟨p, j', hp, hj', ⟨m, hm, -⟩ | ⟨-, rfl⟩⟩ := Job.postJobReply_some h
  · cases hm
  · rw [hk, Option.some.injEq] at hp
    subst hp
    obtain rfl : j' = j := hs.eq (by rw [hj']; rfl)
    have hl : (job.jobPost.setData j'.postId j'.postJob).lookup j'.postId = some j'.postJob := by
      rw [Store.Collection.lookup_setData, if_pos rfl]
    rw [stage_post]
    exact (Job.Core.entry_some hl).ge

theorem book_applied {b : Nat} {r : Job.Booking} (hb : job.bookings[b]? = some r)
    (hv : stage v r.postId ≤ job.core.entry r.postId) (h : Job.bookReply job b none = some job') :
    stage (act v (.book b r.postId)) r.postId ≤ job'.core.entry r.postId := by
  obtain ⟨r', hr', -, ⟨-, d, hd, rfl⟩ | ⟨m, hm, -⟩⟩ := Job.bookReply_some h
  · rw [hb, Option.some.injEq] at hr'
    subst hr'
    have hl : (job.jobPost.setData r.postId (d.merge Job.booked)).lookup r.postId = some (d.merge Job.booked) := by
      rw [Store.Collection.lookup_setData, if_pos rfl]
    have hbooked : (job.core.entry r.postId).mark = .live (Job.content d) true := by
      rw [Job.Core.entry_some (c := job.core) hd]
      rfl
    rw [stage_book]
    refine (Store.Entry.mark_mono hv).trans (hbooked.trans ?_).le
    refine Eq.trans ?_ (Job.Core.entry_some hl).symm
    rw [Job.content_merge_booked, Job.merge_booked_status]
    simp
  · cases hm

theorem delete_applied (hi : Job.Inv resolve job.core) (hv : stage v id ≤ job.core.entry id)
    (h : Job.deleteReply job (job.deletions.idxOf id) none = some job') :
    stage (act v (.delete id)) id ≤ job'.core.entry id := by
  obtain ⟨id', hid', h⟩ := Option.bind_eq_some_iff.1 h
  cases h
  obtain ⟨hlt, rfl⟩ := List.getElem?_eq_some_iff.1 hid'
  rw [List.getElem_idxOf hlt] at *
  have hl : (job.jobPost.delete id).lookup id = none := by rw [Store.Collection.lookup_delete, if_pos rfl]
  rw [stage_delete]
  refine (Store.Entry.delete_mono hv).trans (Eq.le ?_)
  refine Eq.trans ?_ (Job.Core.entry_none hl).symm
  -- a document that is there was created, and one that is not stays away
  show (job.core.entry id).delete = if Job.Created job.posts id then .gone else .absent
  cases hd : job.core.jobPost.lookup id with
  | some d =>
    have hcr : Job.Created job.posts id := hi.created_of_lookup hd
    rw [Job.Core.entry_some hd, if_pos hcr]
    rfl
  | none =>
    rw [Job.Core.entry_none hd]
    show (if Job.Created job.posts id then Store.Entry.gone else .absent).delete = _
    split <;> rfl

/-- A write makes of its document on the device no more than the server makes of it. -/
theorem Write.OK.applied {w : Write} (hw : w.OK resolve job.core) (hi : Job.Inv resolve job.core)
    (hv : stage v w.id ≤ job.core.entry w.id) (h : Job.step resolve job (w.reply job none) = some job') :
    stage (Live.act v w) w.id ≤ job'.core.entry w.id := by
  cases w with
  | post k j =>
    obtain ⟨p, hk, -, hs⟩ := hw
    exact post_applied hk hs h
  | book b id =>
    obtain ⟨r, hb, rfl⟩ := hw
    exact book_applied hb hv h
  | delete id => exact delete_applied hi hv h

end PetIT.Live
