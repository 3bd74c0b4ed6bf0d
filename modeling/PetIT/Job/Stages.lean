/-
Stages of the job system's core. Each change leads to a later stage: a document is what it can have become, and no
press and no booking is undone. A press that has sent its post keeps it to the end, whatever the answer.
-/
import PetIT.Job.Document

namespace PetIT.Job

open JobPostCollectionKeys

/-! ## Definitions -/

/-- The one state is a later stage of the other: every document is what it can have become, and no press and no
booking is undone. -/
structure Core.Grows (c c' : Core) : Prop where
  entry : ∀ id, c.entry id ≤ c'.entry id
  created : ∀ (id : String) (k : Nat) (p : Post) (j : JobPost), CreatedBy c.posts id k p j → CreatedBy c'.posts id k p j
  booked : ∀ id, IsBooked c.bookings id → IsBooked c'.bookings id

/-- The post that a press has built. -/
def PostPhase.built : PostPhase → Option JobPost
  | .posting j => some j
  | .posted j => some j
  | _ => none

/-- The press has built `j` and sent it, whatever came of it. -/
def Post.Sent (p : Post) (j : JobPost) : Prop := p.phase = .posting j ∨ p.phase = .posted j ∨ p.phase = .failed

theorem Post.Sent.eq {p : Post} {j j' : JobPost} (h : p.Sent j) (hb : p.phase.built = some j') : j' = j := by
  rcases h with h | h | h <;> rw [h] at hb <;> cases hb <;> rfl

/-! ## Stages -/

variable {resolve : String → Option String} {posts : Nat → String → Captured → Prop}
  {books : Nat → String → String → Prop} {c c' c'' : Core} {s s' : State} {k : Nat} {p : Post} {j : JobPost}

theorem Core.Grows.refl (c : Core) : c.Grows c := ⟨fun _ => le_rfl, fun _ _ _ _ h => h, fun _ h => h⟩

theorem Core.Grows.trans (h : c.Grows c') (h' : c'.Grows c'') : c.Grows c'' :=
  ⟨fun id => (h.entry id).trans (h'.entry id), fun id k p j hcr => h'.created id k p j (h.created id k p j hcr),
    fun id hb => h'.booked id (h.booked id hb)⟩

theorem CoreStep.isBooked (h : CoreStep resolve posts books c c') {id : String} (hb : IsBooked c.bookings id) :
    IsBooked c'.bookings id := by
  cases h with
  | booking =>
    obtain ⟨r, hr, h⟩ := hb
    exact ⟨r, List.mem_append_left _ hr, h⟩
  | bookApplied hb' hr => exact (isBooked_set hb' hr id).2 (Or.inl hb)
  | bookFailed hb' hr => exact (isBooked_set hb' hr id).2 (Or.inl hb)
  | _ => exact hb

theorem CoreStep.grows (hi : Inv resolve c) (h : CoreStep resolve posts books c c') : c.Grows c' :=
  ⟨h.entry_le hi, fun _ _ _ _ => h.createdBy, fun _ => h.isBooked⟩

/-- An id whose press has not created its document has no document yet. -/
theorem Inv.entry_absent (hi : Inv resolve c) (hk : c.posts[k]? = some p) (hp : ∀ j, p.phase ≠ .posted j) :
    c.entry p.docId = .absent := by
  have hcr : ¬ Created c.posts p.docId := fun hcr => by
    obtain ⟨i, q, j, hq⟩ := created_iff.1 hcr
    have hget := hq.get
    rw [Slots.index_eq hi.docIds hget hk hq.docId, hk] at hget
    cases hget
    exact hp j hq.phase
  have hl : c.jobPost.lookup p.docId = none :=
    Option.eq_none_iff_forall_ne_some.2 fun d hd => hcr (hi.created_of_lookup hd)
  rw [Core.entry_none hl, if_neg hcr]

/-! ## Presses and bookings stay -/

/-- A press that has sent its post keeps it. -/
theorem CoreStep.sent (h : CoreStep resolve posts books c c') (hk : c.posts[k]? = some p) (hb : p.Built resolve j)
    (hs : p.Sent j) : ∃ p', c'.posts[k]? = some p' ∧ p'.Built resolve j ∧ p'.Sent j := by
  have hset : ∀ (i : Nat) (q : Post) (phase : PostPhase), c.posts[i]? = some q →
      (q.Sent j → { q with phase := phase }.Sent j) →
      ∃ p', (c.posts.set i { q with phase := phase })[k]? = some p' ∧ p'.Built resolve j ∧ p'.Sent j :=
    fun i q phase hi hq => Slots.get_set (P := fun p' => p'.Built resolve j ∧ p'.Sent j)
      (x := { q with phase := phase }) hi (fun h => ⟨h.1, hq h.2⟩) ⟨p, hk, hb, hs⟩
  cases h with
  | pressed => exact Slots.get_concat _ ⟨p, hk, hb, hs⟩
  | uploaded hi hp =>
    refine hset _ _ _ hi fun h => ?_
    rcases h with h | h | h <;> rw [hp] at h <;> cases h
  | linked hi hp =>
    refine hset _ _ _ hi fun h => ?_
    rcases h with h | h | h <;> rw [hp] at h <;> cases h
  | failed hi => exact hset _ _ _ hi fun _ => Or.inr (Or.inr rfl)
  | posted hi hp =>
    refine hset _ _ _ hi fun h => Or.inr (Or.inl ?_)
    rcases h with h | h | h <;> rw [hp] at h <;> cases h
    rfl
  | _ => exact ⟨p, hk, hb, hs⟩

/-- A booking keeps its post. -/
theorem CoreStep.booking_stays (h : CoreStep resolve posts books c c') {b : Nat} {id : String}
    (hb : ∃ r, c.bookings[b]? = some r ∧ r.postId = id) : ∃ r, c'.bookings[b]? = some r ∧ r.postId = id := by
  have hset : ∀ (i : Nat) (r : Booking) (phase : BookPhase), c.bookings[i]? = some r →
      ∃ r', (c.bookings.set i { r with phase := phase })[b]? = some r' ∧ r'.postId = id :=
    fun i r phase hi => Slots.get_set (P := fun r : Booking => r.postId = id) (x := { r with phase := phase }) hi
      (fun h => h) hb
  cases h with
  | booking => exact Slots.get_concat (P := fun r : Booking => r.postId = id) _ hb
  | bookApplied hr => exact hset _ _ _ hr
  | bookFailed hr => exact hset _ _ _ hr
  | _ => exact hb

/-- A press builds its post from the reply to its download URL. -/
theorem step_built {e : Event} (h : step resolve s e = some s') {p' : Post} (hk : s'.posts[k]? = some p')
    (hj : p'.phase.built = some j) :
    (∃ p, s.posts[k]? = some p ∧ p.phase.built = some j) ∨ ∃ url, e = .downloadURLReply k url j.createdDate := by
  have hset : ∀ (i : Nat) (p : Post) (phase : PostPhase), s.posts[i]? = some p →
      (s.posts.set i { p with phase := phase })[k]? = some p' →
      (∀ j, phase.built = some j → p.phase.built = some j ∨ ∃ url, e = .downloadURLReply i url j.createdDate) →
      (∃ p, s.posts[k]? = some p ∧ p.phase.built = some j) ∨ ∃ url, e = .downloadURLReply k url j.createdDate := by
    intro i p phase hi hk hphase
    rcases Slots.set_cases hk with ⟨rfl, rfl⟩ | ⟨-, hk⟩
    · exact (hphase j hj).imp_left fun h => ⟨p, hi, h⟩
    · exact Or.inl ⟨p', hk, hj⟩
  have hsame : s'.posts = s.posts → (∃ p, s.posts[k]? = some p ∧ p.phase.built = some j) ∨
      ∃ url, e = .downloadURLReply k url j.createdDate := fun he => Or.inl ⟨p', he ▸ hk, hj⟩
  cases e with
  | openForm | edit | profileUpload | snapshot | deleteJobPost => cases h; exact hsame rfl
  | postButtonPressed f u docId =>
    obtain ⟨fs, -, ⟨t, -, rfl⟩ | ⟨c, -, -, rfl⟩⟩ := postButtonPressed_some h
    · exact hsame rfl
    · rcases Slots.concat_cases hk with hk | ⟨-, rfl⟩
      · exact Or.inl ⟨p', hk, hj⟩
      · cases hj
  | uploadReply i ok =>
    obtain ⟨p, hi, -, rfl⟩ := uploadReply_some h
    cases ok <;> exact hset i p _ hi hk nofun
  | downloadURLReply i url date =>
    obtain ⟨p, hi, -, ⟨-, rfl⟩ | ⟨v, rfl, -, rfl⟩⟩ := downloadURLReply_some h
    · exact hset i p _ hi hk nofun
    · refine hset i p _ hi hk fun j hj => Or.inr ⟨some v, ?_⟩
      cases hj; rfl
  | postJobReply i error =>
    obtain ⟨p, j', hi, hp, ⟨m, -, rfl⟩ | ⟨-, rfl⟩⟩ := postJobReply_some h
    · exact hset i p _ hi hk nofun
    · refine hset i p _ hi hk fun j hj => Or.inl ?_
      rw [hp]; exact hj
  | openDetail user jobPost =>
    obtain ⟨-, rfl⟩ := openDetail_eq_some.1 h
    exact hsame rfl
  | viewWillAppear i =>
    obtain ⟨_, _, _, -, -, -, rfl⟩ := screen_some (Or.inl ⟨i, rfl⟩) h; exact hsame rfl
  | fetchUserReply i r =>
    obtain ⟨_, _, _, -, -, -, rfl⟩ := screen_some (Or.inr (Or.inl ⟨i, r, rfl⟩)) h; exact hsame rfl
  | updateUI i =>
    obtain ⟨_, _, _, -, -, -, rfl⟩ := screen_some (Or.inr (Or.inr ⟨i, rfl⟩)) h; exact hsame rfl
  | bookJobButtonPressed i =>
    obtain ⟨d, -, -, rfl⟩ := bookJobButtonPressed_some h; exact hsame rfl
  | bookReply b error =>
    obtain ⟨r, -, -, ⟨-, d, -, rfl⟩ | ⟨m, -, rfl⟩⟩ := bookReply_some h <;> exact hsame rfl
  | deleteReply d error =>
    obtain ⟨id, -, h⟩ := Option.bind_eq_some_iff.1 h
    cases error <;> cases h <;> exact hsame rfl

/-- What has been handed to a list stays handed. -/
theorem delivered_subset {e : Event} (h : step resolve s e = some s') : s.delivered ⊆ s'.delivered := by
  cases e with
  | openForm | edit | profileUpload | deleteJobPost => cases h; exact fun _ h => h
  | snapshot => cases h; exact List.subset_append_left _ _
  | postButtonPressed f u docId =>
    obtain ⟨fs, -, ⟨t, -, rfl⟩ | ⟨c, -, -, rfl⟩⟩ := postButtonPressed_some h <;> exact fun _ h => h
  | uploadReply k ok =>
    obtain ⟨p, -, -, rfl⟩ := uploadReply_some h
    cases ok <;> exact fun _ h => h
  | downloadURLReply k url date =>
    obtain ⟨p, -, -, ⟨-, rfl⟩ | ⟨v, -, -, rfl⟩⟩ := downloadURLReply_some h <;> exact fun _ h => h
  | postJobReply k error =>
    obtain ⟨p, j, -, -, ⟨m, -, rfl⟩ | ⟨-, rfl⟩⟩ := postJobReply_some h <;> exact fun _ h => h
  | openDetail user jobPost =>
    obtain ⟨-, rfl⟩ := openDetail_eq_some.1 h
    exact fun _ h => h
  | viewWillAppear i =>
    obtain ⟨_, _, _, -, -, -, rfl⟩ := screen_some (Or.inl ⟨i, rfl⟩) h; exact fun _ h => h
  | fetchUserReply i r =>
    obtain ⟨_, _, _, -, -, -, rfl⟩ := screen_some (Or.inr (Or.inl ⟨i, r, rfl⟩)) h; exact fun _ h => h
  | updateUI i =>
    obtain ⟨_, _, _, -, -, -, rfl⟩ := screen_some (Or.inr (Or.inr ⟨i, rfl⟩)) h; exact fun _ h => h
  | bookJobButtonPressed i =>
    obtain ⟨d, -, -, rfl⟩ := bookJobButtonPressed_some h; exact fun _ h => h
  | bookReply b error =>
    obtain ⟨r, -, -, ⟨-, d, -, rfl⟩ | ⟨m, -, rfl⟩⟩ := bookReply_some h <;> exact fun _ h => h
  | deleteReply d error =>
    obtain ⟨id, -, h⟩ := Option.bind_eq_some_iff.1 h
    cases error <;> cases h <;> exact fun _ h => h

end PetIT.Job
