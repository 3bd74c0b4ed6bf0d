/-
One form alone is a run of the whole job system: each of its events is one event there, its presses are the presses of
the system's form 0, and what it has posted is in the `jobPost` collection. The system asks of a document id that it
has no slash and of a download URL that it resolves to the object uploaded, so a run of the form has to be served so.
-/
import PetIT.Form.Once
import PetIT.Job.Invariant

namespace PetIT.Form

open Job (AddJobPostForm FormScreen capture)

/-! ## Definitions -/

/-- The ids and the URLs that an event brings are the platform's. -/
def Served (resolve : String → Option String) (s : State) : Event → Prop
  | .postButtonPressed _ docId => '/' ∉ docId.toList
  | .downloadURLReply k (.ok url) _ => ∀ p ∈ s.posts[k]?, resolve url = some (petImage p.captured.uid p.docId)
  | _ => True

/-- The press, as a press of the system's form 0. -/
def Post.toJob (p : Post) : Job.Post := ⟨0, p.docId, p.captured, p.phase⟩

/-- What happens in the system: a reply, a press, or an edit that leaves the form as it is afterwards. -/
def Event.toJob (s' : State) : Event → Job.Event
  | .postButtonPressed currentUser docId => .postButtonPressed 0 currentUser docId
  | .uploadReply k ok => .uploadReply k ok
  | .downloadURLReply k reply createdDate => .downloadURLReply k reply.toOption createdDate
  | .postJobReply k error => .postJobReply k error
  | _ => .edit 0 s'.form

/-- The system has the one form, with its presses and the documents they have created. -/
structure Agrees (s : State) (j : Job.State) : Prop where
  form : ∃ alerts, j.forms = [⟨s.form, alerts⟩]
  posts : j.posts = s.posts.map Post.toJob
  created : ∀ p ∈ s.posts, ∀ jobPost ∈ p.created, j.jobPost.lookup p.docId = some jobPost.postJob

variable {resolve : String → Option String} {s s' : State} {e : Event} {j : Job.State} {k : Nat} {p : Post}

/-! ## Steps of the form and of the system -/

theorem Agrees.getPost (ha : Agrees s j) (hk : s.posts[k]? = some p) : j.posts[k]? = some p.toJob := by
  rw [ha.posts, List.getElem?_map, hk]; rfl

theorem setPhase_toJob (ha : Agrees s j) (phase : Job.PostPhase) :
    (j.setPhase k p.toJob phase).posts = (s.setPhase k p phase).posts.map Post.toJob := by
  show j.posts.set k _ = (s.posts.set k _).map Post.toJob
  rw [ha.posts, List.map_set]; rfl

theorem present_form (s : State) (x : Presented) : (s.present x).form = s.form := by
  unfold State.present
  split <;> rfl

/-- An alert of the system's form changes neither the form nor what is posted. -/
theorem Agrees.showFormAlert (ha : Agrees s j) (a : Alert) : Agrees s (j.showFormAlert 0 a) where
  form := by
    obtain ⟨alerts, hf⟩ := ha.form
    exact ⟨alerts ++ [a], by rw [Job.State.showFormAlert, hf]; rfl⟩
  posts := ha.posts
  created := ha.created

theorem Agrees.present (ha : Agrees s j) (x : Presented) : Agrees (s.present x) j where
  form := by rw [present_form]; exact ha.form
  posts := by rw [present_posts]; exact ha.posts
  created := by rw [present_posts]; exact ha.created

/-- What leaves the posts alone is an edit of the system's form. -/
theorem Agrees.edit (ha : Agrees s j) (hp : s'.posts = s.posts) : Agrees s' (Job.edit j 0 s'.form) where
  form := by
    obtain ⟨alerts, hf⟩ := ha.form
    exact ⟨alerts, by rw [Job.edit, hf]; rfl⟩
  posts := by rw [hp]; exact ha.posts
  created := by rw [hp]; exact ha.created

/-- A press that is moved on to a phase without a document leaves the documents of the others. -/
theorem Agrees.setPhase (ha : Agrees s j) {phase : Job.PostPhase} (hph : ∀ jobPost, phase ≠ .posted jobPost) :
    Agrees (s.setPhase k p phase) (j.setPhase k p.toJob phase) where
  form := ha.form
  posts := setPhase_toJob ha phase
  created := by
    intro q hq jobPost hc
    rcases List.mem_or_eq_of_mem_set hq with hq | rfl
    · exact ha.created q hq jobPost hc
    · exfalso
      unfold Post.created at hc
      split at hc
      · rename_i jobPost' h; exact hph jobPost' h
      · cases hc

/-- The document of a posted job goes under an id of its own, so the others stay. -/
theorem Agrees.posted (ha : Agrees s j) (hi : Job.Inv resolve j.core) (hk : s.posts[k]? = some p) {jobPost : JobPost}
    (hph : p.phase = .posting jobPost) : Agrees (s.setPhase k p (.posted jobPost))
      { j.setPhase k p.toJob (.posted jobPost) with
        jobPost := j.jobPost.setData jobPost.postId jobPost.postJob } where
  form := ha.form
  posts := setPhase_toJob ha _
  created := by
    have hbuilt : p.toJob.Built resolve jobPost := by
      have h := hi.phase k p.toJob (ha.getPost hk)
      unfold Job.PhaseOK at h
      rw [show p.toJob.phase = .posting jobPost from hph] at h
      exact h.2
    have hid : jobPost.postId = p.docId := hbuilt.postId
    intro q hq jobPost' hc
    obtain ⟨i, hqi⟩ := List.mem_iff_getElem?.1 hq
    rw [hid, Store.Collection.lookup_setData]
    rcases Slots.set_cases hqi with ⟨rfl, rfl⟩ | ⟨hne, hqi⟩
    · rw [if_pos rfl]
      cases hc; rfl
    · have hdoc : q.docId ≠ p.docId := fun h =>
        hne (Slots.index_eq hi.docIds (ha.getPost hqi) (ha.getPost hk) h)
      rw [if_neg hdoc]
      exact ha.created q (List.mem_of_getElem? hqi) jobPost' hc

theorem postButtonPressed_agrees {u : Option String} {docId : String} (ha : Agrees s j)
    (hs : Served resolve s (.postButtonPressed u docId)) (h : postButtonPressed s u docId = some s') :
    ∃ j', Job.postButtonPressed j 0 u docId = some j' ∧ Agrees s' j' := by
  obtain ⟨alerts, hf⟩ := ha.form
  unfold postButtonPressed at h
  unfold Job.postButtonPressed
  rw [hf]
  cases hc : capture s.form u with
  | error title =>
    rw [hc] at h
    cases h
    refine ⟨j.showFormAlert 0 ⟨title, ""⟩, by simp [hc], (ha.showFormAlert _).present _⟩
  | ok c =>
    rw [hc] at h
    obtain ⟨hd, h⟩ := Run.guard_bind.1 h
    cases h
    have hfresh : j.freshId docId := by
      refine ⟨fun q hq => ?_, hs⟩
      rw [ha.posts, List.mem_map] at hq
      obtain ⟨p, hp, rfl⟩ := hq
      exact hd p hp
    refine ⟨{ j with posts := j.posts ++ [⟨0, docId, c, .uploading⟩] }, by simp [hc, guard, hfresh, hf],
      ha.form, ?_, ?_⟩
    · show j.posts ++ _ = (s.posts ++ _).map Post.toJob
      rw [List.map_append, ha.posts]; rfl
    · intro p hp jobPost hcr
      rcases List.mem_append.1 hp with hp | hp
      · exact ha.created p hp jobPost hcr
      · rw [List.mem_singleton] at hp
        subst hp; cases hcr

theorem uploadReply_agrees {ok : Bool} (ha : Agrees s j) (h : uploadReply s k ok = some s') :
    ∃ j', Job.uploadReply j k ok = some j' ∧ Agrees s' j' := by
  obtain ⟨p, hk, h⟩ := Option.bind_eq_some_iff.1 h
  obtain ⟨hp, h⟩ := Run.guard_bind.1 h
  cases h
  unfold Job.uploadReply
  rw [ha.getPost hk]
  have hp' : p.toJob.phase = .uploading := hp
  cases ok with
  | true =>
    have hset : Agrees (s.setPhase k p .fetchingURL) (j.setPhase k p.toJob .fetchingURL) := ha.setPhase nofun
    exact ⟨{ j.setPhase k p.toJob .fetchingURL with
      puts := ⟨.post k, p.toJob.path, p.toJob.captured.imageData⟩ :: j.puts },
      by simp [hp', guard], hset.form, hset.posts, hset.created⟩
  | false => exact ⟨j.setPhase k p.toJob .failed, by simp [hp', guard], ha.setPhase nofun⟩

theorem downloadURLReply_agrees {reply : Except String String} {createdDate : String} (ha : Agrees s j)
    (hs : Served resolve s (.downloadURLReply k reply createdDate))
    (h : downloadURLReply s k reply createdDate = some s') :
    ∃ j', Job.downloadURLReply resolve j k reply.toOption createdDate = some j' ∧ Agrees s' j' := by
  obtain ⟨p, hk, h⟩ := Option.bind_eq_some_iff.1 h
  obtain ⟨hp, h⟩ := Run.guard_bind.1 h
  unfold Job.downloadURLReply
  rw [ha.getPost hk]
  have hp' : p.toJob.phase = .fetchingURL := hp
  cases reply with
  | error message =>
    cases h
    exact ⟨j.setPhase k p.toJob .failed, by simp [hp', guard, Except.toOption], ha.setPhase nofun⟩
  | ok url =>
    cases h
    have hurl : resolve url = some p.toJob.path := hs p hk
    exact ⟨_, by simp [hp', guard, Except.toOption, hurl]; rfl, ha.setPhase nofun⟩

theorem postJobReply_agrees {error : Option String} (ha : Agrees s j) (hi : Job.Inv resolve j.core)
    (h : postJobReply s k error = some s') : ∃ j', Job.postJobReply j k error = some j' ∧ Agrees s' j' := by
  obtain ⟨p, hk, h⟩ := Option.bind_eq_some_iff.1 h
  unfold Job.postJobReply
  rw [ha.getPost hk]
  split at h
  case h_1 jobPost hph =>
    have hph' : p.toJob.phase = .posting jobPost := hph
    cases error with
    | some message =>
      cases h
      have hset : Agrees (s.setPhase k p .failed) (j.setPhase k p.toJob .failed) := ha.setPhase nofun
      exact ⟨_, by simp [hph']; rfl, (hset.showFormAlert _).present _⟩
    | none =>
      cases h
      exact ⟨_, by simp [hph']; rfl, ((ha.posted hi hk hph).showFormAlert _).present _⟩
  case h_2 => cases h

/-! ## Runs of the form and of the system -/

theorem step_agrees (ha : Agrees s j) (hi : Job.Inv resolve j.core) (hs : Served resolve s e) (h : step s e = some s') :
    ∃ j', Job.step resolve j (e.toJob s') = some j' ∧ Agrees s' j' := by
  have hedit : ∀ {t : State}, t.posts = s.posts → ∃ j', some (Job.edit j 0 t.form) = some j' ∧ Agrees t j' :=
    fun hp => ⟨_, rfl, ha.edit hp⟩
  cases e with
  | endEditing => cases h; exact hedit rfl
  | beginEditing field =>
    obtain ⟨-, h⟩ := Run.guard_bind.1 h
    cases h
    cases field with
    | view view => exact hedit (setView_posts ..)
    | timeFrame | wages => exact hedit rfl
  | shouldChangeText view location length text =>
    obtain ⟨-, h⟩ := Run.guard_bind.1 h
    cases h
    exact hedit (shouldChangeText_posts ..)
  | editTimeFrame | editWages | textFieldShouldReturn | petImageButtonPressed | didCancelPicking | editLocation
  | leaveEditLocation | unwindFromEditLocation | cancelButtonPressed =>
    obtain ⟨-, h⟩ := Run.guard_bind.1 h
    cases h
    exact hedit rfl
  | didFinishPicking imageData =>
    obtain ⟨-, h⟩ := Run.guard_bind.1 h
    cases imageData <;> cases h <;> exact hedit rfl
  | okPressed =>
    replace h : okPressed s = some s' := h
    unfold okPressed at h
    split at h <;> cases h <;> exact hedit rfl
  | postButtonPressed u docId =>
    obtain ⟨-, h⟩ := Run.guard_bind.1 h
    exact postButtonPressed_agrees ha hs h
  | uploadReply k ok => exact uploadReply_agrees ha h
  | downloadURLReply k reply createdDate => exact downloadURLReply_agrees ha hs h
  | postJobReply k error => exact postJobReply_agrees ha hi h

theorem agrees_init : Agrees {} { Job.State.init with forms := [{}] } := by
  refine ⟨⟨[], ?_⟩, rfl, fun p hp => ?_⟩
  · decide
  · cases hp

theorem exec_agrees_of {es : List Event} (ha : Agrees s j) (hi : Job.Inv resolve j.core)
    (hs : Run.Guarded step (Served resolve) s es) (h : Run.exec step s es = some s') :
    ∃ js j', Run.exec (Job.step resolve) j js = some j' ∧ Agrees s' j' := by
  induction es generalizing s j with
  | nil => cases h; exact ⟨[], j, rfl, ha⟩
  | cons e es ih =>
    obtain ⟨t, ht, h⟩ := Run.exec_cons.1 h
    obtain ⟨hserved, hs⟩ := hs t ht
    obtain ⟨j₁, hj₁, ha₁⟩ := step_agrees ha hi hserved ht
    obtain ⟨js, j', hjs, ha'⟩ := ih ha₁ (hi.step hj₁) hs h
    exact ⟨_ :: js, j', Run.exec_cons.2 ⟨j₁, hj₁, hjs⟩, ha'⟩

/-- Every served run of one form is a run of the system with that one form, which ends with its presses and with a
document for each job it has posted. -/
theorem exec_agrees {es : List Event} (hs : Run.Guarded step (Served resolve) {} es)
    (h : Run.exec step {} es = some s) :
    ∃ js j, Run.exec (Job.step resolve) Job.State.init (.openForm :: js) = some j ∧ Agrees s j := by
  have hopen : Job.step resolve Job.State.init .openForm = some { Job.State.init with forms := [{}] } := rfl
  obtain ⟨js, j, hjs, ha⟩ := exec_agrees_of agrees_init (Job.Inv.init.step hopen) hs h
  exact ⟨js, j, Run.exec_cons.2 ⟨_, hopen, hjs⟩, ha⟩

end PetIT.Form
