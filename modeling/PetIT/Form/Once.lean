/-
How many jobs one form posts. Each press that passes the guards draws an id and starts a chain of requests of its
own, and the form stays as it is; so it posts at most one job as long as it is pressed again only after everything
before has failed, and any other press can end in a second document.
-/
import PetIT.Form.Step
import PetIT.Run.Slots

namespace PetIT.Form

open Job (AddJobPostForm Captured PostPhase capture)

/-! ## Definitions -/

/-- The job a press has posted. -/
def Post.created (p : Post) : Option JobPost :=
  match p.phase with
  | .posted jobPost => some jobPost
  | _ => none

/-- The documents created from the form, each under the id its press drew. -/
def State.created (s : State) : List JobPost := s.posts.filterMap Post.created

/-- At most one document has been created from the form. -/
def OneDocument (s : State) : Prop := s.created.length ≤ 1

instance : DecidablePred OneDocument := fun _ => inferInstanceAs (Decidable (_ ≤ _))

/-- A press that passes the guards comes only after every earlier one has failed. -/
def Retries (s : State) (e : Event) : Prop := Passes s e → ∀ p ∈ s.posts, p.phase = .failed

instance (s : State) (e : Event) : Decidable (Retries s e) := inferInstanceAs (Decidable (_ → _))

variable {s s' : State} {e : Event} {k : Nat} {p : Post}

/-! ## Guarded runs -/

/-- At most one press has not failed. -/
def OneLive (s : State) : Prop :=
  ∀ (j k : Nat) (p q : Post), s.posts[j]? = some p → s.posts[k]? = some q →
    p.phase ≠ .failed → q.phase ≠ .failed → j = k

theorem created_not_failed {p : Post} (h : p.created.isSome) : p.phase ≠ .failed := by
  intro hf
  simp [Post.created, hf] at h

theorem oneDocument_of_oneLive (h : OneLive s) : OneDocument s :=
  Slots.length_filterMap_le_one.2 fun j k p q hj hk hp hq =>
    h j k p q hj hk (created_not_failed hp) (created_not_failed hq)

/-- After failures only, the new press is the only one that has not failed. -/
theorem oneLive_concat {x : Post} (hs' : s'.posts = s.posts ++ [x]) (h : ∀ p ∈ s.posts, p.phase = .failed) :
    OneLive s' := by
  have key : ∀ (j : Nat) (p : Post), s'.posts[j]? = some p → p.phase ≠ .failed → j = s.posts.length := by
    intro j p hj hp
    rw [hs'] at hj
    rcases Slots.concat_cases hj with hj | ⟨rfl, -⟩
    · exact absurd (h p (List.mem_of_getElem? hj)) hp
    · rfl
  intro j k p q hj hk hp hq
  rw [key j p hj hp, key k q hk hq]

/-- Moving on a press that has not failed adds none. -/
theorem oneLive_set {phase : PostPhase} (hs' : s'.posts = s.posts.set k { p with phase := phase })
    (hk : s.posts[k]? = some p) (hp : p.phase ≠ .failed) (hi : OneLive s) : OneLive s' := by
  have key : ∀ (j : Nat) (q : Post), s'.posts[j]? = some q → q.phase ≠ .failed → j = k := by
    intro j q hj hq
    rw [hs'] at hj
    rcases Slots.set_cases hj with ⟨rfl, -⟩ | ⟨-, hj⟩
    · rfl
    · exact hi j k q p hj hk hq hp
  intro i j q r hi' hj hq hr
  rw [key i q hi' hq, key j r hj hr]

theorem step_oneLive (s : State) (e : Event) (s' : State) (hi : OneLive s) (hr : Retries s e)
    (h : step s e = some s') : OneLive s' := by
  generalize hps : s'.posts = ps
  have hstep := step_posts h
  rw [hps] at hstep
  cases hstep with
  | same => intro j k p q; rw [hps]; exact hi j k p q
  | pressed hc hd => exact oneLive_concat hps (hr ⟨_, hc⟩)
  | moved hn hk hf hph => exact oneLive_set hps hk hf hi

/-! ## Any other press -/

/-- The requests of press `k` can all succeed, whatever the others do. -/
def CanPost (s : State) (k : Nat) : Prop :=
  ∃ es t, Run.exec step s es = some t ∧ (∃ q, t.posts[k]? = some q ∧ q.created.isSome) ∧
    ∀ j, j ≠ k → t.posts[j]? = s.posts[j]?

/-- One more reply to the press leads to a state from which it can post. -/
theorem canPost_step {phase : PostPhase} (h : step s e = some s')
    (hs' : s'.posts = s.posts.set k { p with phase := phase }) (hc : CanPost s' k) : CanPost s k := by
  obtain ⟨es, t, hes, hq, hj⟩ := hc
  refine ⟨e :: es, t, Run.exec_cons.2 ⟨s', h, hes⟩, hq, fun j hjk => ?_⟩
  rw [hj j hjk, hs', List.getElem?_set_ne (Ne.symm hjk)]

theorem canPost_posting {jobPost : JobPost} (hk : s.posts[k]? = some p) (hp : p.phase = .posting jobPost) :
    CanPost s k := by
  have h : step s (.postJobReply k none) = some ((s.setPhase k p (.posted jobPost)).present .jobPosted) := by
    simp [step, postJobReply, hk, hp]
  refine canPost_step h (present_posts ..) ⟨[], _, rfl, ⟨{ p with phase := .posted jobPost }, ?_, rfl⟩, fun _ _ => rfl⟩
  rw [present_posts]
  exact Slots.getElem?_set_self hk

theorem canPost_fetchingURL (hk : s.posts[k]? = some p) (hp : p.phase = .fetchingURL) : CanPost s k := by
  have h : step s (.downloadURLReply k (.ok "") "") =
      some (s.setPhase k p (.posting (p.captured.jobPost p.docId "" ""))) := by
    simp [step, downloadURLReply, hk, hp, guard]
  exact canPost_step h rfl (canPost_posting (Slots.getElem?_set_self hk) rfl)

theorem canPost_uploading (hk : s.posts[k]? = some p) (hp : p.phase = .uploading) : CanPost s k := by
  have h : step s (.uploadReply k true) = some (s.setPhase k p .fetchingURL) := by
    simp [step, uploadReply, hk, hp, guard]
  exact canPost_step h rfl (canPost_fetchingURL (Slots.getElem?_set_self hk) rfl)

theorem canPost_of_not_failed (hk : s.posts[k]? = some p) (hp : p.phase ≠ .failed) : CanPost s k := by
  cases hph : p.phase with
  | uploading => exact canPost_uploading hk hph
  | fetchingURL => exact canPost_fetchingURL hk hph
  | posting jobPost => exact canPost_posting hk hph
  | posted jobPost => exact ⟨[], s, rfl, ⟨p, hk, by simp [Post.created, hph]⟩, fun _ _ => rfl⟩
  | failed => exact absurd hph hp

/-- Two presses that have not failed can end in two documents. -/
theorem two_documents {j k : Nat} {p q : Post} (hj : s.posts[j]? = some p) (hk : s.posts[k]? = some q)
    (hp : p.phase ≠ .failed) (hq : q.phase ≠ .failed) (hjk : j ≠ k) :
    ∃ es t, Run.exec step s es = some t ∧ ¬ OneDocument t := by
  obtain ⟨es, t, hes, ⟨p', hp', hcp⟩, hother⟩ := canPost_of_not_failed hj hp
  have hk' : t.posts[k]? = some q := by rw [hother k (Ne.symm hjk), hk]
  obtain ⟨fs, u, hfs, ⟨q', hq', hcq⟩, hother'⟩ := canPost_of_not_failed hk' hq
  refine ⟨es ++ fs, u, Run.exec_append.2 ⟨t, hes, hfs⟩, fun hone => hjk ?_⟩
  -- the second chain leaves the first document where it is
  have hj' : u.posts[j]? = some p' := by rw [hother' j hjk, hp']
  exact Slots.length_filterMap_le_one.1 hone j k p' q' hj' hq' hcp hcq

theorem two_documents_of_not_retries (h : step s e = some s') (hr : ¬ Retries s e) :
    ∃ es t, Run.exec step s' es = some t ∧ ¬ OneDocument t := by
  generalize hps : s'.posts = ps
  have hstep := step_posts h
  rw [hps] at hstep
  cases hstep with
  | same hn => exact absurd (fun hp => absurd hp hn) hr
  | moved hn => exact absurd (fun hp => absurd hp hn) hr
  | @pressed u docId c hc hd =>
    have hp : ∃ p ∈ s.posts, p.phase ≠ .failed := by
      by_contra hall
      refine hr fun _ p hp => ?_
      by_contra hf
      exact hall ⟨p, hp, hf⟩
    obtain ⟨p, hmem, hf⟩ := hp
    obtain ⟨j, hj⟩ := List.mem_iff_getElem?.1 hmem
    have hlt := (List.getElem?_eq_some_iff.1 hj).1
    have hnew : (⟨docId, c, .uploading, s.jobDescription, s.petBio⟩ : Post).phase ≠ .failed := by simp
    exact two_documents (hps ▸ Slots.getElem?_concat_of_some hj) (hps ▸ Slots.getElem?_concat_self ..) hf hnew
      (Nat.ne_of_lt hlt)

/-! ## The form posts one job -/

/-- A form whose presses are retries only posts at most one job; after a press that is not one, the replies can make
it post two. -/
theorem one_document (es : List Event) :
    (Run.Guarded step Retries {} es → Run.Always step OneDocument {} es) ∧
      ∀ s e s', Run.exec step {} es = some s → step s e = some s' → ¬ Retries s e →
        ∃ fs t, Run.exec step s' fs = some t ∧ ¬ OneDocument t := by
  refine ⟨?_, fun _ _ _ _ h hr => two_documents_of_not_retries h hr⟩
  refine Run.always_of_guarded (I := OneLive) (fun _ => oneDocument_of_oneLive) step_oneLive ?_
  intro j k p q hj
  cases hj

/-- Ann fills in the form. -/
def sampleFilled : List Event := [
  .beginEditing (.view .jobDescription), .shouldChangeText .jobDescription 0 0 "Walk Rex",
  .beginEditing (.view .petBio), .shouldChangeText .petBio 0 0 "A calm dog",
  .beginEditing .wages, .editWages "12", .beginEditing .timeFrame, .editTimeFrame "Noon",
  .petImageButtonPressed, .didFinishPicking (some [1]), .editLocation, .unwindFromEditLocation 1 2]

/-- Her first upload fails, and she presses Post again. -/
def sampleRetry : List Event := sampleFilled ++ [
  .postButtonPressed (some "ann") "p1", .uploadReply 0 false, .postButtonPressed (some "ann") "p2",
  .uploadReply 1 true, .downloadURLReply 1 (.ok "u2") "d", .postJobReply 1 none]

theorem one_document_sample : ∃ s, Run.exec step {} sampleRetry = some s ∧ s.created.length = 1 ∧
    Run.Always step OneDocument {} sampleRetry := by
  have hx : (Run.exec step {} sampleRetry).map (·.created.length) = some 1 := by decide
  obtain ⟨s, hs, hx⟩ := Option.map_eq_some_iff.1 hx
  exact ⟨s, hs, hx, (one_document sampleRetry).1 (by decide)⟩

/-- Post is pressed twice before the first upload has ended, and both presses go through. -/
theorem not_one_document : ¬ ∀ es, Run.Always step OneDocument {} es := by
  intro h
  refine absurd (h (sampleFilled ++ [
    .postButtonPressed (some "ann") "p1", .postButtonPressed (some "ann") "p2",
    .uploadReply 0 true, .uploadReply 1 true, .downloadURLReply 0 (.ok "u1") "d", .downloadURLReply 1 (.ok "u2") "d",
    .postJobReply 0 none, .postJobReply 1 none])) ?_
  decide

end PetIT.Form
