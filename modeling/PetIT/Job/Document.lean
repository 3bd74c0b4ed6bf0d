/-
The documents of the `jobPost` collection over whole runs. Seen from outside, a document is an
entry that is created once, has its status set at most once, and is deleted for good; every step
goes up in the order of `Store.Entry`. Each document is the work of one Post press and holds what
that press captured.
-/
import PetIT.Job.Invariant
import PetIT.Store.Lifecycle

namespace PetIT.Job

open JobPostCollectionKeys Store

/-! ## The collection as a store of entries -/

/-- A document's fields but for its status. -/
def content (d : Document) : Document := fun key => if key = statusKey then none else d key

/-- The document was created. -/
def PostPhase.isPosted : PostPhase → Bool
  | .posted _ => true
  | _ => false

/-- Some press has created the document `id`. -/
def Created (posts : List Post) (id : String) : Prop :=
  ∃ p ∈ posts, p.docId = id ∧ p.phase.isPosted = true

instance (posts : List Post) (id : String) : Decidable (Created posts id) :=
  inferInstanceAs (Decidable (∃ p ∈ posts, _))

/-- What has become of the document `id`. -/
def Core.entry (c : Core) (id : String) : Entry Document :=
  match c.jobPost.lookup id with
  | some d => .live (content d) (d statusKey = some (.string "BOOKED"))
  | none => if Created c.posts id then .gone else .absent

theorem created_iff {posts : List Post} {id : String} :
    Created posts id ↔ ∃ k p j, CreatedBy posts id k p j := by
  constructor
  · rintro ⟨p, hp, hid, hph⟩
    obtain ⟨k, hk⟩ := List.mem_iff_getElem?.1 hp
    rcases hpp : p.phase with _ | _ | j | j | _ <;> rw [hpp] at hph <;> try cases hph
    exact ⟨k, p, j, hk, hid, hpp⟩
  · rintro ⟨k, p, j, h⟩
    exact ⟨p, List.mem_of_getElem? h.get, h.docId, by rw [h.phase]; rfl⟩

theorem Core.entry_some {c : Core} {id : String} {d : Document} (h : c.jobPost.lookup id = some d) :
    c.entry id = .live (content d) (d statusKey = some (.string "BOOKED")) := by
  unfold Core.entry; rw [h]

theorem Core.entry_none {c : Core} {id : String} (h : c.jobPost.lookup id = none) :
    c.entry id = if Created c.posts id then .gone else .absent := by
  unfold Core.entry; rw [h]

theorem Core.entry_eq_gone {c : Core} {id : String} (h : c.entry id = .gone) :
    c.jobPost.lookup id = none := by
  unfold Core.entry at h
  split at h
  · cases h
  · assumption

variable {resolve : String → Option String} {posts : Nat → String → Captured → Prop}
  {books : Nat → String → String → Prop} {c c' : Core}

theorem Inv.created_of_lookup (hi : Inv resolve c) {id : String} {d : Document}
    (h : c.jobPost.lookup id = some d) : Created c.posts id := by
  obtain ⟨k, p, j, hp, -⟩ := hi.docs id d h
  exact created_iff.2 ⟨k, p, j, hp⟩

/-- The presses that have created their documents are still there after a change. -/
theorem CoreStep.createdBy (h : CoreStep resolve posts books c c') {id : String} {k : Nat} {p : Post}
    {j : JobPost} (hp : CreatedBy c.posts id k p j) : CreatedBy c'.posts id k p j := by
  cases h with
  | pressed => exact hp.concat _
  | uploaded hk hph => exact hp.setPhase hk fun j => by rw [hph]; exact fun h => by cases h
  | linked hk hph => exact hp.setPhase hk fun j => by rw [hph]; exact fun h => by cases h
  | failed hk hph => exact hp.setPhase hk hph
  | posted hk hph => exact hp.setPhase hk fun j => by rw [hph]; exact fun h => by cases h
  | _ => exact hp

/-- A press still posting has not created its document, and no other press has its id. -/
theorem Inv.not_created (hi : Inv resolve c) {k : Nat} {p : Post} {j : JobPost}
    (hk : c.posts[k]? = some p) (hp : p.phase = .posting j) : ¬ Created c.posts j.postId := by
  rintro hcr
  obtain ⟨i, q, j', hq⟩ := created_iff.1 hcr
  have hok := hi.phase k p hk
  unfold PhaseOK at hok
  rw [hp] at hok
  have hget := hq.get
  rw [Slots.index_eq hi.docIds hget hk (hq.docId.trans hok.2.postId), hk] at hget
  cases hget
  have := hq.phase
  rw [hp] at this; cases this

/-- Where a change writes to the collection: it creates a document nobody has created before, sets
the status of one that exists, or deletes. -/
theorem CoreStep.lookup (hi : Inv resolve c) (h : CoreStep resolve posts books c c') (id : String) :
    c'.jobPost.lookup id = c.jobPost.lookup id ∨ ¬ Created c.posts id ∨
      (∃ d, c.jobPost.lookup id = some d ∧ c'.jobPost.lookup id = some (d.merge booked)) ∨
      c'.jobPost.lookup id = none := by
  cases h with
  | @posted k p j hk hp =>
    show (c.jobPost.setData _ _).lookup id = _ ∨ _
    rw [Collection.lookup_setData]
    by_cases hid : id = j.postId
    · subst hid; exact Or.inr (Or.inl (hi.not_created hk hp))
    · rw [if_neg hid]; exact Or.inl rfl
  | @bookApplied b r d hb hr hd =>
    show (c.jobPost.setData _ _).lookup id = _ ∨ _ ∨ (∃ d, _ ∧ (c.jobPost.setData _ _).lookup id = _) ∨ _
    rw [Collection.lookup_setData]
    by_cases hid : id = r.postId
    · subst hid
      rw [if_pos rfl]
      exact Or.inr (Or.inr (Or.inl ⟨d, hd, rfl⟩))
    · rw [if_neg hid]; exact Or.inl rfl
  | @deleted i =>
    show (c.jobPost.delete _).lookup id = _ ∨ _ ∨ _ ∨ (c.jobPost.delete _).lookup id = _
    rw [Collection.lookup_delete]
    by_cases hid : id = i
    · rw [if_pos hid]; exact Or.inr (Or.inr (Or.inr rfl))
    · rw [if_neg hid]; exact Or.inl rfl
  | _ => exact Or.inl rfl

theorem field_of_content {d d' : Document} {key : String} (h : content d' = content d) (hkey : key ≠ statusKey) :
    d' key = d key := by
  have := congrFun h key
  unfold content at this
  rwa [if_neg hkey, if_neg hkey] at this

theorem content_merge_booked (d : Document) : content (d.merge booked) = content d := by
  funext key
  unfold content
  by_cases h : key = statusKey
  · rw [if_pos h, if_pos h]
  · rw [if_neg h, if_neg h, merge_booked_of_ne d h]

/-- Every change goes up in the order of entries. -/
theorem CoreStep.entry_le (hi : Inv resolve c) (h : CoreStep resolve posts books c c') (id : String) :
    c.entry id ≤ c'.entry id := by
  by_cases hcr : Created c.posts id
  · have hcr' : Created c'.posts id := by
      obtain ⟨k, p, j, hp⟩ := created_iff.1 hcr
      exact created_iff.2 ⟨k, p, j, h.createdBy hp⟩
    rcases hl : c'.jobPost.lookup id with _ | d'
    · rw [Core.entry_none hl, if_pos hcr']; exact Entry.le_gone _
    · rw [Core.entry_some hl]
      rcases h.lookup hi id with h' | h' | ⟨d, hd, hd'⟩ | h'
      · rw [Core.entry_some (h'.symm.trans hl)]
      · exact absurd hcr h'
      · rw [hl] at hd'; cases hd'
        rw [Core.entry_some hd, Entry.live_le_live, content_merge_booked, merge_booked_status]
        exact ⟨rfl, by simp⟩
      · rw [hl] at h'; cases h'
  · have hl : c.jobPost.lookup id = none := by
      rcases hl : c.jobPost.lookup id with _ | d
      · rfl
      · exact absurd (hi.created_of_lookup hl) hcr
    rw [Core.entry_none hl, if_neg hcr]; exact Entry.absent_le _

theorem entry_le_of_exec {s s' : State} {es : List Event} (hi : Inv resolve s.core)
    (h : Run.exec (step resolve) s es = some s') (id : String) : s.core.entry id ≤ s'.core.entry id :=
  Run.exec_rel (I := fun s => Inv resolve s.core) (R := fun s s' => s.core.entry id ≤ s'.core.entry id)
    (fun _ => le_refl _) (fun _ _ _ => le_trans) (fun _ _ _ hi hs => hi.step hs)
    (fun _ _ _ hi hs => (step_core hs).entry_le hi id) hi h

/-! ## The press behind a document -/

/-- Press `p`, at index `k`, is a Post press of the run, and captured what the form showed then. -/
def PressedIn (resolve : String → Option String) (es : List Event) (k : Nat) (p : Post) : Prop :=
  ∃ pre post f u fs s₀, es = pre ++ .postButtonPressed f u p.docId :: post ∧
    Run.exec (step resolve) State.init pre = some s₀ ∧ s₀.posts.length = k ∧
    s₀.forms[f]? = some fs ∧ capture fs.form u = .ok p.captured

theorem PressedIn.concat {es : List Event} {k : Nat} {p : Post} (e : Event)
    (h : PressedIn resolve es k p) : PressedIn resolve (es ++ [e]) k p := by
  obtain ⟨pre, post, f, u, fs, s₀, rfl, h⟩ := h
  exact ⟨pre, post ++ [e], f, u, fs, s₀, by simp, h⟩

/-- The records of the presses are those the run made. -/
theorem pressedIn_of_exec {es : List Event} {s : State}
    (h : Run.exec (step resolve) State.init es = some s) :
    ∀ (k : Nat) (p : Post), s.posts[k]? = some p → PressedIn resolve es k p := by
  refine Run.exec_trace (H := fun es s => ∀ (k : Nat) (p : Post), s.posts[k]? = some p →
    PressedIn resolve es k p) (by simp [State.init]) ?_ h
  intro es s e s' hs ih hstep k p hk
  have hold : ∀ (k : Nat) (p : Post), s.posts[k]? = some p → PressedIn resolve (es ++ [e]) k p :=
    fun k p hk => (ih k p hk).concat e
  have hset : ∀ i q phase, s.posts[i]? = some q →
      (s.posts.set i { q with phase := phase })[k]? = some p → PressedIn resolve (es ++ [e]) k p :=
    fun i q phase hq hk => Slots.forall_set (P := PressedIn resolve (es ++ [e]))
      (x := { q with phase := phase }) hold (hold i q hq) k p hk
  have hcore := step_core hstep
  -- the core of the new state is all that matters of it
  rw [show s'.posts = s'.core.posts from rfl] at hk
  generalize s'.core = c' at hcore hk
  cases hcore with
  | @pressed f docId cap press fresh =>
    obtain ⟨u, fs, rfl, hfs, hcap⟩ := press
    refine Slots.forall_concat (P := PressedIn resolve _) hold ?_ k p hk
    exact ⟨es, [], f, u, fs, s, rfl, hs, rfl, hfs, hcap⟩
  | uploaded hq _ => exact hset _ _ _ hq hk
  | linked hq _ _ => exact hset _ _ _ hq hk
  | failed hq _ => exact hset _ _ _ hq hk
  | posted hq _ => exact hset _ _ _ hq hk
  | _ => exact hold k p hk

/-! ## Uploads do not meet -/

/-- Whatever is at the path of a press's image was put there by that press. -/
theorem Inv.put_eq (hi : Inv resolve c) {k : Nat} {p : Post} (hk : c.posts[k]? = some p)
    {put : Put Writer} (hput : put ∈ c.puts) (hpath : put.path = p.path) : put = p.put k := by
  have hok := hi.puts put hput
  unfold PutOK at hok
  split at hok
  · rename_i i _
    obtain ⟨q, hq, -, rfl⟩ := hok
    have hslash : ∀ {i : Nat} {q : Post}, c.posts[i]? = some q → '/' ∉ q.docId.toList := fun h =>
      hi.slash _ (List.mem_map.2 ⟨_, List.mem_of_getElem? h, rfl⟩)
    have hid : q.docId = p.docId := petImage_inj (hslash hq) (hslash hk) hpath
    have hik : i = k := Slots.index_eq hi.docIds hq hk hid
    subst hik
    rw [hk] at hq; cases hq; rfl
  · exact absurd (hpath.symm.trans hok) (petImage_ne_profileImage _ _ _)

theorem Inv.object_eq (hi : Inv resolve c) {k : Nat} {p : Post} (hk : c.posts[k]? = some p)
    (hput : p.put k ∈ c.puts) : object c.puts p.path = some (p.put k) := by
  obtain ⟨q, hq⟩ : ∃ q, object c.puts p.path = some q := last_of_mem hput rfl
  rw [hq, hi.put_eq hk (mem_of_last hq) (key_of_last hq)]

/-! ## Every document of every run -/

/-- The document `d` holds what press `p`, at index `k`, captured, refers to the image that press
uploaded, and is pending until a booking write for it applies. -/
structure JobDocument (resolve : String → Option String) (s : State) (id : String) (d : Document)
    (k : Nat) (p : Post) : Prop where
  postId : d postIdKey = some (.string id)
  ownerId : d ownerIdKey = some (.string p.captured.uid)
  jobDescription : d jobDescriptionKey = some (.string p.captured.postDescription)
  petBio : d petBioKey = some (.string p.captured.petDescription)
  timeFrame : d timeFrameKey = some (.string p.captured.jobTimeFrame)
  wage : d wageKey = some (.string p.captured.jobWage)
  lat : d latKey = some (.double p.captured.userLat)
  long : d longKey = some (.double p.captured.userLong)
  image : ∃ url, d imageURLStringKey = some (.string url) ∧ resolve url = some p.path ∧
    object s.puts p.path = some ⟨.post k, p.path, p.captured.imageData⟩
  status : d statusKey = some (.string (if IsBooked s.bookings id then "BOOKED" else "PENDING"))

theorem jobDocument_of_docOK {s : State} (hi : Inv resolve s.core) {id : String} {d : Document}
    {k : Nat} {p : Post} {j : JobPost} (hp : CreatedBy s.posts id k p j)
    (hd : DocOK j (IsBooked s.bookings id) d) : JobDocument resolve s id d k p := by
  have hok := hi.phase k p hp.get
  unfold PhaseOK at hok
  rw [hp.phase] at hok
  obtain ⟨hput, url, date, hurl, rfl⟩ := hok
  have hid := hp.docId
  subst hid
  refine ⟨?_, ?_, ?_, ?_, ?_, ?_, ?_, ?_, ⟨url, ?_, hurl, hi.object_eq hp.get hput⟩, hd.status⟩ <;>
  · rw [hd.fields _ (by decide)]
    simp [JobPost.postJob, Captured.jobPost]

/-- Every document was created by exactly one Post press, whose captured values it holds; the
object its image URL refers to is written by that press alone; its other fields never change, its
status only from pending to booked, and once deleted it stays deleted. -/
theorem jobPost_documents (resolve : String → Option String) (es : List Event) (s : State)
    (h : Run.exec (step resolve) State.init es = some s) :
    (∀ id d, s.jobPost.lookup id = some d →
      (∃! k, ∃ p j, CreatedBy s.posts id k p j) ∧
      ∃ k p j, CreatedBy s.posts id k p j ∧ PressedIn resolve es k p ∧ JobDocument resolve s id d k p) ∧
    (∀ (k : Nat) (p : Post), s.posts[k]? = some p →
      ∀ put ∈ s.puts, put.path = p.path → put = ⟨.post k, p.path, p.captured.imageData⟩) ∧
    (s.puts.Pairwise fun a b => ∀ k, a.writer = .post k → b.writer ≠ .post k) ∧
    (∀ fs s', Run.exec (step resolve) s fs = some s' → ∀ id d, s.jobPost.lookup id = some d →
      (∀ d', s'.jobPost.lookup id = some d' → (∀ key, key ≠ statusKey → d' key = d key) ∧
        (d statusKey = some (.string "BOOKED") → d' statusKey = some (.string "BOOKED"))) ∧
      (s'.jobPost.lookup id = none → ∀ gs s'', Run.exec (step resolve) s' gs = some s'' →
        s''.jobPost.lookup id = none)) := by
  have hi : Inv resolve s.core := Inv.exec h
  refine ⟨fun id d hd => ?_, fun k p hk put hput hpath => hi.put_eq hk hput hpath, ?_,
    fun fs s' hs' id d hd => ⟨fun d' hd' => ?_, fun hd' gs s'' hs'' => ?_⟩⟩
  · obtain ⟨k, p, j, hp, hdoc⟩ := hi.docs id d hd
    refine ⟨⟨k, ⟨p, j, hp⟩, ?_⟩, k, p, j, hp, pressedIn_of_exec h k p hp.get, jobDocument_of_docOK hi hp hdoc⟩
    rintro k' ⟨p', j', hp'⟩
    exact Slots.index_eq hi.docIds hp'.get hp.get (hp'.docId.trans hp.docId.symm)
  · refine hi.putsOnce.imp fun {a b} hab k ha hb => ?_
    obtain ⟨uid, hu⟩ := hab (ha.trans hb.symm)
    rw [ha] at hu; cases hu
  · have hle := entry_le_of_exec hi hs' id
    rw [Core.entry_some hd, Core.entry_some hd', Entry.live_le_live] at hle
    refine ⟨fun key hkey => ?_, fun hb => ?_⟩
    · have := congrFun hle.1 key
      simpa only [content, if_neg hkey] using this.symm
    · have hb' := hle.2
      rw [decide_eq_true hb] at hb'
      exact of_decide_eq_true (Bool.eq_true_of_true_le hb')
  · have hi' : Inv resolve s'.core := Run.exec_inv (I := fun s => Inv resolve s.core)
      (fun _ _ _ hi hs => hi.step hs) hi hs'
    -- created and no longer there, the document is gone
    have hgone : s'.core.entry id = .gone := by
      have hle := entry_le_of_exec hi hs' id
      rw [Core.entry_some hd, Entry.live_le] at hle
      rcases hle with hg | ⟨n, hl, -⟩
      · exact hg
      · rw [Core.entry_none hd'] at hl
        split at hl <;> cases hl
    have hle := entry_le_of_exec hi' hs'' id
    rw [hgone, Entry.gone_le] at hle
    exact Core.entry_eq_gone hle

/-! ## A sample run -/

/-- A form with everything filled in. -/
def sampleForm : AddJobPostForm where
  jobDescription := "Walk the dog"
  petBio := "Rex"
  timeFrame := "Monday"
  wages := "20"
  locationTitle := "Location Added"
  latitude := 1
  longitude := 2
  imageData := some [255]

/-- The URL of the image that the sample form uploads. -/
def sampleURL : String := "https://storage/rex.jpg"

/-- Where that URL leads. -/
def sampleResolve (url : String) : Option String :=
  if url = sampleURL then some (petImage "ann" "job1") else none

/-- Ann posts a job. -/
def samplePost : List Event := [
  .openForm,
  .edit 0 sampleForm,
  .postButtonPressed 0 (some "ann") "job1",
  .uploadReply 0 true,
  .downloadURLReply 0 (some sampleURL) "2019-03-27T10:00:00Z",
  .postJobReply 0 none]

/-- The post as every list decodes it. -/
def samplePosted : JobPost where
  createdDate := "2019-03-27T10:00:00Z"
  postId := "job1"
  ownerId := "ann"
  sitterId := some ""
  imageURLString := sampleURL
  jobDescription := "Walk the dog"
  petBio := "Rex"
  timeFrame := "Monday"
  wage := "20"
  lat := 1
  long := 2
  status := "PENDING"

theorem jobPost_documents_sample : ∃ s d k p,
    Run.exec (step sampleResolve) State.init samplePost = some s ∧ s.jobPost.lookup "job1" = some d ∧
      PressedIn sampleResolve samplePost k p ∧ JobDocument sampleResolve s "job1" d k p := by
  have hl : ((Run.exec (step sampleResolve) State.init samplePost).bind
      fun s => s.jobPost.lookup "job1").isSome = true := by decide
  obtain ⟨d, hd⟩ := Option.isSome_iff_exists.1 hl
  obtain ⟨s, hs, hd⟩ := Option.bind_eq_some_iff.1 hd
  obtain ⟨-, k, p, j, -, hp, hdoc⟩ := (jobPost_documents sampleResolve samplePost s hs).1 "job1" d hd
  exact ⟨s, d, k, p, hs, hd, hp, hdoc⟩

end PetIT.Job
