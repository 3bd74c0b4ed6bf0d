/-
A document as a screen reads it: the post that a press built, with the fields that were not written filled in, and
booked or not.
-/
import PetIT.Model.RoundTrip
import PetIT.Job.Document

namespace PetIT.Job

open JobPostCollectionKeys

/-- The post of a press as every screen has it. -/
def listed (j : JobPost) (booked : Prop) [Decidable booked] : JobPost :=
  { j with status := if booked then "BOOKED" else "PENDING" }.filled

variable {resolve : String → Option String} {c : Core} {id : String} {d d' : Document} {j : JobPost}

theorem listed_congr {p q : Prop} [Decidable p] [Decidable q] (h : p ↔ q) (j : JobPost) : listed j p = listed j q := by
  unfold listed
  by_cases hp : p
  · rw [if_pos hp, if_pos (h.1 hp)]
  · rw [if_neg hp, if_neg (mt h.2 hp)]

/-! ## The document of a press -/

theorem DocOK.eq_postJob {b : Prop} [Decidable b] (h : DocOK j b d) :
    d = { j with status := if b then "BOOKED" else "PENDING" }.postJob := by
  funext key
  by_cases hkey : key = statusKey
  · subst hkey
    rw [h.status, JobPost.postJob_status]
  · rw [h.fields key hkey]
    simp only [statusKey] at hkey
    simp [JobPost.postJob, hkey]

theorem DocOK.ofDict {b : Prop} [Decidable b] (h : DocOK j b d) : JobPost.ofDict d = listed j b := by
  rw [h.eq_postJob, JobPost.ofDict_postJob]
  rfl

theorem DocOK.postId {b : Prop} [Decidable b] (h : DocOK j b d) : (JobPost.ofDict d).postId = j.postId := by
  rw [h.ofDict]
  rfl

theorem DocOK.ownerId {b : Prop} [Decidable b] (h : DocOK j b d) : d ownerIdKey = some (.string j.ownerId) := by
  rw [h.fields ownerIdKey (by decide)]
  simp [JobPost.postJob]

/-- The booking write takes a document of a press to one. -/
theorem DocOK.merge_booked {b : Prop} [Decidable b] (h : DocOK j b d) : DocOK j True (d.merge booked) := by
  refine ⟨fun key hkey => ?_, ?_⟩
  · rw [merge_booked_of_ne d hkey]
    exact h.fields key hkey
  · rw [merge_booked_status, if_pos trivial]

/-- The document as its press writes it. -/
theorem DocOK.postJob (hj : j.status = "PENDING") : DocOK j False j.postJob := by
  refine ⟨fun _ _ => rfl, ?_⟩
  rw [JobPost.postJob_status, hj, if_neg not_false]

/-- A document of the collection is read as the post of its press, under its own id. -/
theorem Inv.listed (hi : Inv resolve c) (hd : c.jobPost.lookup id = some d) :
    ∃ k p j, CreatedBy c.posts id k p j ∧ DocOK j (IsBooked c.bookings id) d ∧ j.postId = id := by
  obtain ⟨k, p, j, hcr, hdoc⟩ := hi.docs id d hd
  have hok := hi.phase k p hcr.get
  unfold PhaseOK at hok
  rw [hcr.phase] at hok
  exact ⟨k, p, j, hcr, hdoc, hok.2.postId.trans hcr.docId⟩

theorem CreatedBy.unique {posts : List Post} (hn : (posts.map (·.docId)).Nodup) {k k' : Nat} {p p' : Post}
    {j' : JobPost} (h : CreatedBy posts id k p j) (h' : CreatedBy posts id k' p' j') : j = j' := by
  have hget := h.get
  rw [Slots.index_eq hn hget h'.get (h.docId.trans h'.docId.symm), h'.get] at hget
  cases hget
  have hph := h.phase
  rw [h'.phase] at hph
  cases hph; rfl

/-! ## The document at two times -/

/-- Of one content, the later document is read as the same post, or as it when it has been booked. -/
theorem ofDict_stage {b b' : Prop} [Decidable b] [Decidable b'] {j' : JobPost} (h : DocOK j b d) (h' : DocOK j' b' d')
    (hc : content d = content d')
    (hm : d statusKey = some (.string "BOOKED") → d' statusKey = some (.string "BOOKED")) :
    JobPost.ofDict d' = JobPost.ofDict d ∨ (JobPost.ofDict d).status = "PENDING" ∧
      JobPost.ofDict d' = { JobPost.ofDict d with status := "BOOKED" } := by
  have hfields : ∀ key, key ≠ statusKey → d key = d' key := fun key => field_of_content hc
  by_cases hstatus : d statusKey = d' statusKey
  · refine Or.inl (congrArg JobPost.ofDict (funext fun key => ?_)).symm
    by_cases hkey : key = statusKey
    · rw [hkey]; exact hstatus
    · exact hfields key hkey
  · -- the status can only have gone from pending to booked
    have hd : d statusKey = some (.string "PENDING") := by
      have hs := h.status
      split at hs
      · exact absurd (hs.trans (hm hs).symm) hstatus
      · exact hs
    have hd' : d' statusKey = some (.string "BOOKED") := by
      have hs := h'.status
      split at hs
      · exact hs
      · exact absurd (hd.trans hs.symm) hstatus
    have he : d' = d.merge booked := funext fun key => by
      by_cases hkey : key = statusKey
      · rw [hkey, merge_booked_status]; exact hd'
      · rw [merge_booked_of_ne d hkey]; exact (hfields key hkey).symm
    refine Or.inr ⟨?_, ?_⟩
    · show d.string statusKey "" = _
      unfold Document.string
      rw [hd]
      rfl
    · rw [he, h.merge_booked.ofDict, h.ofDict]
      rfl

end PetIT.Job
