/-
What an event of the form does to its posts and its text views: `step_effect` reads every event once.
-/
import PetIT.Form.System
import PetIT.Run.Basic

namespace PetIT.Form

open Job (Captured PostPhase capture)

/-- The event is a press that passes the guards. -/
def Passes (s : State) : Event → Prop
  | .postButtonPressed currentUser _ => ∃ c, capture s.form currentUser = .ok c
  | _ => False

instance (form : Job.AddJobPostForm) (u : Option String) : Decidable (∃ c, capture form u = .ok c) :=
  match h : capture form u with
  | .ok c => .isTrue ⟨c, rfl⟩
  | .error _ => .isFalse fun ⟨_, hc⟩ => by cases hc

instance (s : State) : DecidablePred (Passes s) := fun e => by
  cases e <;> unfold Passes <;> infer_instance

/-- The views are as before, and so is what has been erased; no view has been focused. -/
structure SameTexts (s s' : State) : Prop where
  view : ∀ view, s'.view view = s.view view
  focused : ∀ view, s'.focused = some (.view view) → s.focused = some (.view view)
  erased : s'.erased = s.erased

/-- What a reply makes of a press: the phase after it. -/
inductive PhaseStep (p : Post) : PostPhase → Prop
  | fetchingURL : PhaseStep p .fetchingURL
  | posting (url createdDate : String) : PhaseStep p (.posting (p.captured.jobPost p.docId url createdDate))
  | posted {jobPost : JobPost} (h : p.phase = .posting jobPost) : PhaseStep p (.posted jobPost)
  | failed : PhaseStep p .failed

/-- What an event makes of the form. -/
inductive Effect (s : State) : Event → State → Prop
  | same {e : Event} {s' : State} (hn : ¬ Passes s e) (hp : s'.posts = s.posts) (ht : SameTexts s s') : Effect s e s'
  | focused (view : View) : Effect s (.beginEditing (.view view)) (textViewDidBeginEditing s view)
  | edited {view : View} {location length : Nat} {text : String} (hf : s.focused = some (.view view)) :
      Effect s (.shouldChangeText view location length text)
        (s.setView view ((s.view view).replaceCharacters location length text))
  | returned {view : View} (location length : Nat) (hl : s.Live) (hf : s.focused = some (.view view))
      (hv : (s.view view).text = "") :
      Effect s (.shouldChangeText view location length "\n")
        { s.setView view { s.view view with chars := byApp "Blog text..." } with focused := none }
  | pressed {u : Option String} {docId : String} {c : Captured} (hc : capture s.form u = .ok c)
      (hd : ∀ p ∈ s.posts, p.docId ≠ docId) :
      Effect s (.postButtonPressed u docId)
        { s with posts := s.posts ++ [⟨docId, c, .uploading, s.jobDescription, s.petBio⟩] }
  | moved {e : Event} {s' : State} {k : Nat} {p : Post} {phase : PostPhase} (hn : ¬ Passes s e)
      (hk : s.posts[k]? = some p) (hf : p.phase ≠ .failed) (hph : PhaseStep p phase)
      (hp : s'.posts = s.posts.set k { p with phase := phase }) (ht : SameTexts s s') : Effect s e s'

variable {s s' : State} {e : Event} {view w : View} {k : Nat} {p : Post}

/-! ## Frames -/

theorem sameTexts_of_eq (hj : s'.jobDescription = s.jobDescription) (hp : s'.petBio = s.petBio)
    (hf : ∀ view, s'.focused = some (.view view) → s.focused = some (.view view)) (he : s'.erased = s.erased) :
    SameTexts s s' where
  view view := by
    cases view
    · exact hj
    · exact hp
  focused := hf
  erased := he

theorem SameTexts.refl (s : State) : SameTexts s s := ⟨fun _ => rfl, fun _ h => h, rfl⟩

@[simp] theorem present_posts (s : State) (x : Presented) : (s.present x).posts = s.posts := by
  unfold State.present
  split <;> rfl

theorem present_texts (s : State) (x : Presented) : SameTexts s (s.present x) := by
  unfold State.present
  split
  · exact .refl s
  · exact sameTexts_of_eq rfl rfl (fun _ h => h) rfl

@[simp] theorem setView_posts (s : State) (view : View) (v : TextView) : (s.setView view v).posts = s.posts := by
  cases view <;> rfl

@[simp] theorem setView_view (s : State) (view w : View) (v : TextView) :
    (s.setView view v).view w = if w = view then v else s.view w := by
  cases view <;> cases w <;> rfl

@[simp] theorem setView_focused (s : State) (view : View) (v : TextView) : (s.setView view v).focused = s.focused := by
  cases view <;> rfl

@[simp] theorem setView_erased (s : State) (view : View) (v : TextView) : (s.setView view v).erased = s.erased := by
  cases view <;> rfl

theorem shouldChangeText_posts (s : State) (view : View) (location length : Nat) (text : String) :
    (shouldChangeText s view location length text).posts = s.posts := by
  unfold shouldChangeText
  dsimp only
  split
  · split
    · exact setView_posts ..
    · rfl
  · exact setView_posts ..

theorem didBeginEditing_view (s : State) (view w : View) :
    (textViewDidBeginEditing s view).view w = if w = view then (s.view view).didBeginEditing else s.view w := by
  cases view <;> cases w <;> rfl

theorem returned_view (s : State) (view w : View) (v : TextView) :
    ({ s.setView view v with focused := none } : State).view w = if w = view then v else s.view w := by
  cases view <;> cases w <;> rfl

/-! ## Reading the handlers -/

/-- A reply moves its press on, and may present an alert. -/
theorem moved_effect {phase : PostPhase} (hn : ¬ Passes s e) (hk : s.posts[k]? = some p) (hf : p.phase ≠ .failed)
    (hph : PhaseStep p phase) : Effect s e (s.setPhase k p phase) :=
  .moved hn hk hf hph rfl (sameTexts_of_eq rfl rfl (fun _ h => h) rfl)

theorem moved_present_effect {phase : PostPhase} (x : Presented) (hn : ¬ Passes s e) (hk : s.posts[k]? = some p)
    (hf : p.phase ≠ .failed) (hph : PhaseStep p phase) : Effect s e ((s.setPhase k p phase).present x) := by
  have ht := present_texts (s.setPhase k p phase) x
  exact .moved hn hk hf hph (present_posts ..)
    (sameTexts_of_eq (ht.view .jobDescription) (ht.view .petBio) ht.focused ht.erased)

theorem beginEditing_effect (s : State) (field : Field) : Effect s (.beginEditing field) (beginEditing s field) := by
  cases field with
  | view view => exact .focused view
  | timeFrame | wages => exact .same nofun rfl (sameTexts_of_eq rfl rfl nofun rfl)

theorem shouldChangeText_effect (location length : Nat) (text : String) (hl : s.Live)
    (hf : s.focused = some (.view view)) :
    Effect s (.shouldChangeText view location length text) (shouldChangeText s view location length text) := by
  unfold shouldChangeText
  dsimp only
  split
  · rename_i ht
    subst ht
    split
    · rename_i hv
      exact .returned location length hl hf hv
    · exact .same nofun rfl (sameTexts_of_eq rfl rfl nofun rfl)
  · exact .edited hf

theorem postButtonPressed_effect {u : Option String} {docId : String} (h : postButtonPressed s u docId = some s') :
    Effect s (.postButtonPressed u docId) s' := by
  unfold postButtonPressed at h
  cases hc : capture s.form u with
  | error title =>
    rw [hc] at h
    cases h
    refine .same ?_ (present_posts ..) (present_texts ..)
    rintro ⟨c, hc'⟩
    rw [hc] at hc'; cases hc'
  | ok c =>
    rw [hc] at h
    obtain ⟨hg, h⟩ := Run.guard_bind.1 h
    cases h
    exact .pressed hc hg

theorem okPressed_effect (h : okPressed s = some s') : Effect s .okPressed s' := by
  unfold okPressed at h
  split at h <;> cases h <;> exact .same nofun rfl (sameTexts_of_eq rfl rfl (fun _ h => h) rfl)

theorem uploadReply_effect {ok : Bool} (h : uploadReply s k ok = some s') : Effect s (.uploadReply k ok) s' := by
  obtain ⟨p, hk, h⟩ := Option.bind_eq_some_iff.1 h
  obtain ⟨hg, h⟩ := Run.guard_bind.1 h
  cases h
  refine moved_effect nofun hk (by rw [hg]; nofun) ?_
  cases ok
  · exact .failed
  · exact .fetchingURL

theorem downloadURLReply_effect {reply : Except String String} {createdDate : String}
    (h : downloadURLReply s k reply createdDate = some s') : Effect s (.downloadURLReply k reply createdDate) s' := by
  obtain ⟨p, hk, h⟩ := Option.bind_eq_some_iff.1 h
  obtain ⟨hg, h⟩ := Run.guard_bind.1 h
  have hf : p.phase ≠ .failed := by rw [hg]; nofun
  cases reply with
  | error message => cases h; exact moved_effect nofun hk hf .failed
  | ok url => cases h; exact moved_effect nofun hk hf (.posting url createdDate)

theorem postJobReply_effect {error : Option String} (h : postJobReply s k error = some s') :
    Effect s (.postJobReply k error) s' := by
  obtain ⟨p, hk, h⟩ := Option.bind_eq_some_iff.1 h
  split at h
  case h_1 jobPost hph =>
    have hf : p.phase ≠ .failed := by rw [hph]; nofun
    cases error with
    | some message => cases h; exact moved_present_effect _ nofun hk hf .failed
    | none => cases h; exact moved_present_effect _ nofun hk hf (.posted hph)
  case h_2 => cases h

theorem step_effect (h : step s e = some s') : Effect s e s' := by
  cases e with
  | endEditing => cases h; exact .same nofun rfl (sameTexts_of_eq rfl rfl nofun rfl)
  | beginEditing field =>
    obtain ⟨-, h⟩ := Run.guard_bind.1 h
    cases h; exact beginEditing_effect s field
  | shouldChangeText view location length text =>
    obtain ⟨⟨hl, hf⟩, h⟩ := Run.guard_bind.1 h
    cases h
    exact shouldChangeText_effect location length text hl hf
  | textFieldShouldReturn =>
    obtain ⟨-, h⟩ := Run.guard_bind.1 h
    cases h; exact .same nofun rfl (sameTexts_of_eq rfl rfl nofun rfl)
  | editTimeFrame | editWages | petImageButtonPressed | didCancelPicking | editLocation | leaveEditLocation
  | unwindFromEditLocation | cancelButtonPressed =>
    obtain ⟨-, h⟩ := Run.guard_bind.1 h
    cases h; exact .same nofun rfl (sameTexts_of_eq rfl rfl (fun _ h => h) rfl)
  | didFinishPicking imageData =>
    obtain ⟨-, h⟩ := Run.guard_bind.1 h
    cases imageData <;> cases h <;> exact .same nofun rfl (sameTexts_of_eq rfl rfl (fun _ h => h) rfl)
  | postButtonPressed u docId =>
    obtain ⟨-, h⟩ := Run.guard_bind.1 h
    exact postButtonPressed_effect h
  | okPressed => exact okPressed_effect h
  | uploadReply k ok => exact uploadReply_effect h
  | downloadURLReply k reply createdDate => exact downloadURLReply_effect h
  | postJobReply k error => exact postJobReply_effect h

/-! ## The posts -/

/-- What an event makes of the posts. -/
inductive PostStep (s : State) : Event → List Post → Prop
  | same {e : Event} (hn : ¬ Passes s e) : PostStep s e s.posts
  | pressed {u : Option String} {docId : String} {c : Captured} (hc : capture s.form u = .ok c)
      (hd : ∀ p ∈ s.posts, p.docId ≠ docId) :
      PostStep s (.postButtonPressed u docId) (s.posts ++ [⟨docId, c, .uploading, s.jobDescription, s.petBio⟩])
  | moved {e : Event} {k : Nat} {p : Post} {phase : PostPhase} (hn : ¬ Passes s e) (hk : s.posts[k]? = some p)
      (hf : p.phase ≠ .failed) (hph : PhaseStep p phase) : PostStep s e (s.posts.set k { p with phase := phase })

theorem Effect.posts (h : Effect s e s') : PostStep s e s'.posts := by
  cases h with
  | same hn hp ht => rw [hp]; exact .same hn
  | focused view =>
    rw [show (textViewDidBeginEditing s view).posts = s.posts from setView_posts ..]
    exact .same nofun
  | edited hf => rw [setView_posts]; exact .same nofun
  | @returned view location length hl hf hv =>
    have hp : ({ s.setView view { s.view view with chars := byApp "Blog text..." } with focused := none } : State).posts
        = s.posts := setView_posts ..
    rw [hp]; exact .same nofun
  | pressed hc hd => exact .pressed hc hd
  | moved hn hk hf hph hp ht => rw [hp]; exact .moved hn hk hf hph

theorem step_posts (h : step s e = some s') : PostStep s e s'.posts := (step_effect h).posts

end PetIT.Form
