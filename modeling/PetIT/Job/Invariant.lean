/-
The invariant of the job system's core: no two presses share an id, every upload in the storage is
at the path of the press or profile that made it, and every document is the post its press built,
booked or not. Every change of the core keeps it.
-/
import PetIT.Job.Step

namespace PetIT.Job

open JobPostCollectionKeys

/-! ## Definitions -/

/-- A booking write for the id has applied. -/
def IsBooked (bookings : List Booking) (id : String) : Prop :=
  ∃ r ∈ bookings, r.postId = id ∧ r.phase = .applied

instance (bookings : List Booking) (id : String) : Decidable (IsBooked bookings id) :=
  inferInstanceAs (Decidable (∃ r ∈ bookings, _))

/-- The upload of press `k`. -/
def Post.put (p : Post) (k : Nat) : Put Writer := ⟨.post k, p.path, p.captured.imageData⟩

/-- `j` is the post press `p` builds, its image URL one of the object the press uploaded. -/
def Post.Built (resolve : String → Option String) (p : Post) (j : JobPost) : Prop :=
  ∃ url createdDate, resolve url = some p.path ∧ j = p.captured.jobPost p.docId url createdDate

/-- A press that is past its upload has its image in the storage, and its post has a URL of that image. -/
def PhaseOK (resolve : String → Option String) (puts : List (Put Writer)) (k : Nat) (p : Post) : Prop :=
  match p.phase with
  | .uploading | .failed => True
  | .fetchingURL => p.put k ∈ puts
  | .posting j | .posted j => p.put k ∈ puts ∧ p.Built resolve j

/-- An upload is that of its press or profile, at the path of its own. -/
def PutOK (posts : List Post) (put : Put Writer) : Prop :=
  match put.writer with
  | .post k => ∃ p, posts[k]? = some p ∧ p.phase ≠ .uploading ∧ put = p.put k
  | .profile uid => put.path = profileImage uid

/-- The document of a post: the dictionary it was created with, but for the status. -/
structure DocOK (j : JobPost) (isBooked : Prop) [Decidable isBooked] (d : Document) : Prop where
  fields : ∀ key, key ≠ statusKey → d key = j.postJob key
  status : d statusKey = some (.string (if isBooked then "BOOKED" else "PENDING"))

/-- Press `p`, at index `k`, created the document `id` as `j`. -/
structure CreatedBy (posts : List Post) (id : String) (k : Nat) (p : Post) (j : JobPost) : Prop where
  get : posts[k]? = some p
  docId : p.docId = id
  phase : p.phase = .posted j

/-- What holds of posts, uploads, bookings and documents in every state: ids are drawn once, images are at their
paths, each document is the post of the press that created it, booked exactly if a booking of it was applied, and
what was booked had been created. -/
structure Inv (resolve : String → Option String) (c : Core) : Prop where
  docIds : (c.posts.map (·.docId)).Nodup
  slash : ∀ id ∈ c.posts.map (·.docId), '/' ∉ id.toList
  phase : ∀ (k : Nat) (p : Post), c.posts[k]? = some p → PhaseOK resolve c.puts k p
  puts : ∀ put ∈ c.puts, PutOK c.posts put
  putsOnce : c.puts.Pairwise fun a b => a.writer = b.writer → ∃ uid, a.writer = .profile uid
  docs : ∀ id d, c.jobPost.lookup id = some d → ∃ k p j, CreatedBy c.posts id k p j ∧ DocOK j (IsBooked c.bookings id) d
  created : ∀ r ∈ c.bookings, r.phase = .applied → ∃ k p j, CreatedBy c.posts r.postId k p j

/-! ## Small facts -/

theorem Post.Built.postId {resolve : String → Option String} {p : Post} {j : JobPost}
    (h : p.Built resolve j) : j.postId = p.docId := by
  obtain ⟨url, date, -, rfl⟩ := h; rfl

theorem Post.Built.status {resolve : String → Option String} {p : Post} {j : JobPost}
    (h : p.Built resolve j) : j.status = "PENDING" := by
  obtain ⟨url, date, -, rfl⟩ := h; rfl

theorem PhaseOK.mono {resolve : String → Option String} {puts puts' : List (Put Writer)} {k : Nat}
    {p : Post} (hsub : puts ⊆ puts') (h : PhaseOK resolve puts k p) : PhaseOK resolve puts' k p := by
  unfold PhaseOK at *
  split at h
  · exact trivial
  · exact trivial
  · exact hsub h
  · exact ⟨hsub h.1, h.2⟩
  · exact ⟨hsub h.1, h.2⟩

theorem PutOK.concat {posts : List Post} {put : Put Writer} (x : Post) (h : PutOK posts put) :
    PutOK (posts ++ [x]) put := by
  unfold PutOK at *
  split at h
  · exact Slots.get_concat x h
  · exact h

theorem PutOK.setPhase {posts : List Post} {put : Put Writer} {k : Nat} {p : Post} {phase : PostPhase}
    (hk : posts[k]? = some p) (hph : phase ≠ .uploading) (h : PutOK posts put) :
    PutOK (posts.set k { p with phase := phase }) put := by
  unfold PutOK at *
  split at h
  · exact Slots.get_set hk (fun hp => ⟨hph, hp.2⟩) h
  · exact h

theorem CreatedBy.concat {posts : List Post} {id : String} {k : Nat} {p : Post} {j : JobPost} (x : Post)
    (h : CreatedBy posts id k p j) : CreatedBy (posts ++ [x]) id k p j :=
  ⟨Slots.getElem?_concat_of_some h.get, h.docId, h.phase⟩

/-- A press that has created its document is past every later change of phase. -/
theorem CreatedBy.setPhase {posts : List Post} {id : String} {i k : Nat} {p q : Post} {j : JobPost}
    {phase : PostPhase} (hk : posts[k]? = some p) (hp : ∀ j, p.phase ≠ .posted j)
    (h : CreatedBy posts id i q j) : CreatedBy (posts.set k { p with phase := phase }) id i q j :=
  ⟨Slots.getElem?_set_of_ne hk h.get (by rintro rfl; exact hp j h.phase), h.docId, h.phase⟩

theorem merge_booked_status (d : Document) : d.merge booked statusKey = some (.string "BOOKED") := by
  apply Store.Fields.merge_some
  simp [booked]

theorem merge_booked_of_ne (d : Document) {key : String} (h : key ≠ statusKey) :
    d.merge booked key = d key := by
  apply Store.Fields.merge_none
  simp only [statusKey] at h
  simp [booked, h]

/-- What a change of the bookings does to `isBooked`: nothing, unless the write applied. -/
theorem isBooked_set {bs : List Booking} {b : Nat} {r : Booking} {phase : BookPhase}
    (hb : bs[b]? = some r) (hr : r.phase = .inFlight) (id : String) :
    IsBooked (bs.set b { r with phase := phase }) id ↔
      IsBooked bs id ∨ (phase = .applied ∧ r.postId = id) := by
  constructor
  · rintro ⟨x, hx, h1, h2⟩
    rcases List.mem_or_eq_of_mem_set hx with hx | rfl
    · exact Or.inl ⟨x, hx, h1, h2⟩
    · exact Or.inr ⟨h2, h1⟩
  · rintro (⟨x, hx, h1, h2⟩ | ⟨rfl, h⟩)
    · obtain ⟨i, hi⟩ := List.mem_iff_getElem?.1 hx
      have hne : r ≠ x := by rintro rfl; rw [hr] at h2; cases h2
      exact ⟨x, List.mem_of_getElem? (Slots.getElem?_set_of_ne hb hi hne), h1, h2⟩
    · exact ⟨_, List.mem_of_getElem? (Slots.getElem?_set_self hb), h, rfl⟩

/-! ## Every change of the core keeps the invariant -/

variable {resolve : String → Option String} {c c' : Core}

theorem Inv.init : Inv resolve State.init.core := by
  refine ⟨?_, ?_, ?_, ?_, ?_, ?_, ?_⟩ <;> simp [State.core, State.init]

/-- A document's fields after a step that changes neither its content nor its bookings. -/
theorem DocOK.congr {j : JobPost} {p q : Prop} [Decidable p] [Decidable q] {d : Document}
    (hpq : p ↔ q) (h : DocOK j p d) : DocOK j q d := by
  refine ⟨h.fields, ?_⟩
  rw [h.status]
  by_cases hp : p
  · rw [if_pos hp, if_pos (hpq.1 hp)]
  · rw [if_neg hp, if_neg (mt hpq.2 hp)]

theorem Inv.pressed (hi : Inv resolve c) {f : Nat} {docId : String} {cap : Captured}
    (fresh : c.freshId docId) :
    Inv resolve { c with posts := c.posts ++ [⟨f, docId, cap, .uploading⟩] } := by
  refine ⟨?_, ?_, ?_, fun put hput => (hi.puts put hput).concat _, hi.putsOnce, ?_, ?_⟩
  · rw [List.map_append]
    refine List.nodup_append.2 ⟨hi.docIds, List.nodup_singleton _, ?_⟩
    rintro a ha b hb rfl
    obtain ⟨p, hp, rfl⟩ := List.mem_map.1 ha
    rw [List.map_singleton, List.mem_singleton] at hb
    exact fresh.1 p hp hb
  · intro id hid
    rw [List.map_append, List.mem_append] at hid
    rcases hid with hid | hid
    · exact hi.slash id hid
    · rw [List.map_singleton, List.mem_singleton] at hid
      subst hid; exact fresh.2
  · exact Slots.forall_concat hi.phase trivial
  · intro id d hd
    obtain ⟨k, p, j, h1, h2⟩ := hi.docs id d hd
    exact ⟨k, p, j, h1.concat _, h2⟩
  · intro r hr hph
    obtain ⟨k, p, j, h⟩ := hi.created r hr hph
    exact ⟨k, p, j, h.concat _⟩

/-- A press that has not created its document moves to a phase its uploads justify. -/
theorem Inv.setPhase (hi : Inv resolve c) {k : Nat} {p : Post} {phase : PostPhase}
    (hk : c.posts[k]? = some p) (hp : ∀ j, p.phase ≠ .posted j) (hne : phase ≠ .uploading)
    (hok : PhaseOK resolve c.puts k { p with phase := phase }) : Inv resolve (c.setPhase k p phase) := by
  have hmap : (c.posts.set k { p with phase := phase }).map (·.docId) = c.posts.map (·.docId) :=
    Slots.map_set _ hk rfl
  refine ⟨?_, ?_, Slots.forall_set hi.phase hok, fun put hput => (hi.puts put hput).setPhase hk hne,
    hi.putsOnce, ?_, ?_⟩
  · show ((c.posts.set k _).map _).Nodup
    rw [hmap]; exact hi.docIds
  · show ∀ id ∈ (c.posts.set k _).map _, _
    rw [hmap]; exact hi.slash
  · intro id d hd
    obtain ⟨i, q, j, h1, h2⟩ := hi.docs id d hd
    exact ⟨i, q, j, h1.setPhase hk hp, h2⟩
  · intro r hr hph
    obtain ⟨i, q, j, h⟩ := hi.created r hr hph
    exact ⟨i, q, j, h.setPhase hk hp⟩

/-- An upload reaches the storage: the first one of its press, or another one of a profile. -/
theorem Inv.put (hi : Inv resolve c) {put : Put Writer} (hok : PutOK c.posts put)
    (hnew : ∀ k, put.writer = .post k → ∀ q ∈ c.puts, q.writer ≠ .post k) :
    Inv resolve { c with puts := put :: c.puts } := by
  refine ⟨hi.docIds, hi.slash, fun k p hp => (hi.phase k p hp).mono (List.subset_cons_self _ _), ?_, ?_,
    hi.docs, hi.created⟩
  · intro q hq
    rcases List.mem_cons.1 hq with rfl | hq
    · exact hok
    · exact hi.puts q hq
  · refine List.pairwise_cons.2 ⟨fun q hq he => ?_, hi.putsOnce⟩
    rcases hw : put.writer with k | uid
    · exact absurd (he ▸ hw) (hnew k hw q hq)
    · exact ⟨uid, rfl⟩

theorem Inv.uploaded (hi : Inv resolve c) {k : Nat} {p : Post} (hk : c.posts[k]? = some p)
    (hp : p.phase = .uploading) :
    Inv resolve { c.setPhase k p .fetchingURL with
      puts := ⟨.post k, p.path, p.captured.imageData⟩ :: c.puts } := by
  have hnew : ∀ i, (p.put k).writer = .post i → ∀ q ∈ c.puts, q.writer ≠ .post i := by
    rintro i hi' q hq hqi
    cases hi'
    have hok := hi.puts q hq
    unfold PutOK at hok
    rw [hqi] at hok
    obtain ⟨p', hp', hph, -⟩ := hok
    rw [hk] at hp'; cases hp'
    exact hph hp
  have hne : ∀ j, p.phase ≠ .posted j := fun j => by rw [hp]; exact fun h => by cases h
  -- the upload and the phase justify each other, so the press passes through `failed` in between
  have h1 : Inv resolve (c.setPhase k p .failed) := hi.setPhase hk hne (by simp) trivial
  have hk1 : (c.setPhase k p .failed).posts[k]? = some { p with phase := .failed } :=
    Slots.getElem?_set_self hk
  have h2 : Inv resolve { c.setPhase k p .failed with puts := p.put k :: c.puts } :=
    h1.put ⟨_, hk1, by simp, rfl⟩ hnew
  have h3 : Inv resolve ({ c.setPhase k p .failed with puts := p.put k :: c.puts }.setPhase k
      { p with phase := .failed } .fetchingURL) :=
    h2.setPhase hk1 (by simp) (by simp) (List.mem_cons_self ..)
  simpa only [Core.setPhase, List.set_set, Post.put] using h3

/-- What a document of the collection becomes when its bookings stay as they are. -/
theorem Inv.docs_of_lookup (hi : Inv resolve c) {jobPost : Store.Collection String String Value}
    (h : ∀ id d, jobPost.lookup id = some d →
      ∃ k p j, CreatedBy c.posts id k p j ∧ DocOK j (IsBooked c.bookings id) d) :
    Inv resolve { c with jobPost := jobPost } :=
  ⟨hi.docIds, hi.slash, hi.phase, hi.puts, hi.putsOnce, h, hi.created⟩

/-- An id nobody has created a document for is not booked. -/
theorem Inv.not_isBooked (hi : Inv resolve c) {k : Nat} {p : Post} (hk : c.posts[k]? = some p)
    (hp : ∀ j, p.phase ≠ .posted j) : ¬ IsBooked c.bookings p.docId := by
  rintro ⟨r, hr, hid, hph⟩
  obtain ⟨i, q, j, h⟩ := hi.created r hr hph
  have hget := h.get
  rw [Slots.index_eq hi.docIds hget hk (h.docId.trans hid), hk] at hget
  cases hget
  exact hp j h.phase

theorem Inv.posted (hi : Inv resolve c) {k : Nat} {p : Post} {j : JobPost}
    (hk : c.posts[k]? = some p) (hp : p.phase = .posting j) :
    Inv resolve { c.setPhase k p (.posted j) with jobPost := c.jobPost.setData j.postId j.postJob } := by
  have hok := hi.phase k p hk
  unfold PhaseOK at hok
  rw [hp] at hok
  have hne : ∀ j, p.phase ≠ .posted j := fun j => by rw [hp]; exact fun h => by cases h
  have h1 : Inv resolve (c.setPhase k p (.posted j)) := hi.setPhase hk hne (by simp) hok
  refine h1.docs_of_lookup fun id d hd => ?_
  rw [Store.Collection.lookup_setData] at hd
  split at hd
  · rename_i hid
    cases hd
    subst hid
    have hid : j.postId = p.docId := hok.2.postId
    refine ⟨k, _, j, ⟨Slots.getElem?_set_self hk, hid.symm, rfl⟩, fun _ _ => rfl, ?_⟩
    rw [if_neg (hid ▸ hi.not_isBooked hk hne), JobPost.postJob_status, hok.2.status]
  · exact h1.docs id d hd

theorem Inv.deleted (hi : Inv resolve c) (id : String) :
    Inv resolve { c with jobPost := c.jobPost.delete id } := by
  refine hi.docs_of_lookup fun i d hd => hi.docs i d ?_
  rw [Store.Collection.lookup_delete] at hd
  split at hd
  · cases hd
  · exact hd

theorem Inv.booking (hi : Inv resolve c) (i : Nat) (user id : String) :
    Inv resolve { c with bookings := c.bookings ++ [⟨i, user, id, .inFlight⟩] } := by
  refine ⟨hi.docIds, hi.slash, hi.phase, hi.puts, hi.putsOnce, fun id' d hd => ?_, fun r hr hph => ?_⟩
  · obtain ⟨k, p, j, h1, h2⟩ := hi.docs id' d hd
    refine ⟨k, p, j, h1, h2.congr ?_⟩
    simp [IsBooked, List.mem_append, or_and_right, exists_or]
  · rcases List.mem_append.1 hr with hr | hr
    · exact hi.created r hr hph
    · rw [List.mem_singleton] at hr
      subst hr; cases hph

theorem Inv.bookFailed (hi : Inv resolve c) {b : Nat} {r : Booking} (hb : c.bookings[b]? = some r)
    (hr : r.phase = .inFlight) :
    Inv resolve { c with bookings := c.bookings.set b { r with phase := .failed } } := by
  refine ⟨hi.docIds, hi.slash, hi.phase, hi.puts, hi.putsOnce, fun id d hd => ?_, fun x hx hph => ?_⟩
  · obtain ⟨k, p, j, h1, h2⟩ := hi.docs id d hd
    refine ⟨k, p, j, h1, h2.congr ?_⟩
    rw [isBooked_set hb hr]
    simp
  · rcases List.mem_or_eq_of_mem_set hx with hx | rfl
    · exact hi.created x hx hph
    · cases hph

theorem Inv.bookApplied (hi : Inv resolve c) {b : Nat} {r : Booking} {d : Document}
    (hb : c.bookings[b]? = some r) (hr : r.phase = .inFlight) (hd : c.jobPost.lookup r.postId = some d) :
    Inv resolve { c with
      jobPost := c.jobPost.setData r.postId (d.merge booked)
      bookings := c.bookings.set b { r with phase := .applied } } := by
  obtain ⟨k, p, j, hcr, hdoc⟩ := hi.docs r.postId d hd
  have hbooked : ∀ id, IsBooked (c.bookings.set b { r with phase := .applied }) id ↔
      IsBooked c.bookings id ∨ r.postId = id := by
    intro id
    rw [isBooked_set hb hr]
    simp
  refine ⟨hi.docIds, hi.slash, hi.phase, hi.puts, hi.putsOnce, fun id d' hd' => ?_, fun x hx hph => ?_⟩
  · rw [Store.Collection.lookup_setData] at hd'
    split at hd'
    · rename_i hid
      cases hd'
      subst hid
      refine ⟨k, p, j, hcr, fun key hkey => ?_, ?_⟩
      · rw [merge_booked_of_ne d hkey]; exact hdoc.fields key hkey
      · rw [merge_booked_status, if_pos ((hbooked _).2 (Or.inr rfl))]
    · rename_i hid
      obtain ⟨k', p', j', h1, h2⟩ := hi.docs id d' hd'
      refine ⟨k', p', j', h1, h2.congr ?_⟩
      rw [hbooked]
      exact ⟨Or.inl, fun h => h.resolve_right fun he => hid he.symm⟩
  · rcases List.mem_or_eq_of_mem_set hx with hx | rfl
    · exact hi.created x hx hph
    · exact ⟨k, p, j, hcr⟩

theorem Inv.coreStep {posts : Nat → String → Captured → Prop} {books : Nat → String → String → Prop}
    (hi : Inv resolve c) (h : CoreStep resolve posts books c c') : Inv resolve c' := by
  cases h with
  | idle => exact hi
  | pressed _ fresh => exact hi.pressed fresh
  | uploaded hk hp => exact hi.uploaded hk hp
  | @linked k p url date hk hp hurl =>
    have hok := hi.phase _ _ hk
    unfold PhaseOK at hok
    rw [hp] at hok
    exact hi.setPhase hk (fun j => by rw [hp]; exact fun h => by cases h) (by simp)
      ⟨hok, url, date, hurl, rfl⟩
  | failed hk hp => exact hi.setPhase hk hp (by simp) trivial
  | posted hk hp => exact hi.posted hk hp
  | profile => exact hi.put rfl fun k hk => by cases hk
  | booking _ => exact hi.booking _ _ _
  | bookApplied hb hr hd => exact hi.bookApplied hb hr hd
  | bookFailed hb hr => exact hi.bookFailed hb hr
  | deleted => exact hi.deleted _

theorem Inv.step {s s' : State} {e : Event} (hi : Inv resolve s.core)
    (h : Job.step resolve s e = some s') : Inv resolve s'.core :=
  hi.coreStep (step_core h)

/-- Every state of every run satisfies the invariant. -/
theorem Inv.exec {s : State} {es : List Event} (h : Run.exec (Job.step resolve) State.init es = some s) :
    Inv resolve s.core :=
  Run.exec_inv (I := fun s => Inv resolve s.core) (fun _ _ _ hi hs => hi.step hs) Inv.init h

end PetIT.Job
