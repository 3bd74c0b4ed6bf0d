/-
Whose text one form posts. A text view shows a prompt until it is focused, and its text is the user's from then on, as
long as Return is not pressed while it is empty, which puts a third prompt there that focusing does not clear. Focusing
clears by the text alone, so it also erases text of the user that reads like one of the two prompts it knows.
-/
import PetIT.Form.Once

namespace PetIT.Form

open Job (Captured PostPhase capture)

/-! ## Definitions -/

instance View.decidableForall {P : View → Prop} [DecidablePred P] : Decidable (∀ view, P view) :=
  decidable_of_iff (P .jobDescription ∧ P .petBio)
    ⟨fun h view => by cases view; exacts [h.1, h.2], fun h => ⟨h .jobDescription, h .petBio⟩⟩

/-- The text view as it stood when the press was made. -/
def Post.view (p : Post) : View → TextView
  | .jobDescription => p.jobDescription
  | .petBio => p.petBio

/-- What a press captures from a view. -/
def capturedText (c : Captured) : View → String
  | .jobDescription => c.postDescription
  | .petBio => c.petDescription

/-- What a job stores from a view. -/
def storedText (jobPost : JobPost) : View → String
  | .jobDescription => jobPost.jobDescription
  | .petBio => jobPost.petBio

/-- The text is not empty, the user entered every character of it, and it is what they left in the view. -/
structure TextView.Entered (v : TextView) (text : String) : Prop where
  shown : v.text = text
  last : v.entered = some text
  nonempty : text ≠ ""
  byUser : ∀ c ∈ v.chars, c.byUser

instance (v : TextView) (text : String) : Decidable (v.Entered text) :=
  decidable_of_iff (v.text = text ∧ v.entered = some text ∧ text ≠ "" ∧ ∀ c ∈ v.chars, c.byUser)
    ⟨fun ⟨h₁, h₂, h₃, h₄⟩ => ⟨h₁, h₂, h₃, h₄⟩, fun h => ⟨h.shown, h.last, h.nonempty, h.byUser⟩⟩

/-- What is posted is what the user last entered, and focusing has erased nothing of theirs. -/
structure OwnText (s : State) : Prop where
  captured : ∀ p ∈ s.posts, ∀ view, (p.view view).Entered (capturedText p.captured view)
  stored : ∀ p ∈ s.posts, ∀ jobPost ∈ p.created, ∀ view, storedText jobPost view = capturedText p.captured view
  kept : s.erased = false

instance : DecidablePred OwnText := fun s =>
  decidable_of_iff ((∀ p ∈ s.posts, ∀ view, (p.view view).Entered (capturedText p.captured view)) ∧
      (∀ p ∈ s.posts, ∀ jobPost ∈ p.created, ∀ view, storedText jobPost view = capturedText p.captured view) ∧
      s.erased = false)
    ⟨fun ⟨h₁, h₂, h₃⟩ => ⟨h₁, h₂, h₃⟩, fun h => ⟨h.captured, h.stored, h.kept⟩⟩

/-- A press goes through only when both views have been focused, Return is not pressed in an empty view, and no view
is focused while text of the user in it reads like a prompt. -/
def Careful (s : State) : Event → Prop
  | .postButtonPressed currentUser _ => (∃ c, capture s.form currentUser = .ok c) → ∀ view, (s.view view).begun
  | .shouldChangeText view _ _ text => text = "\n" → (s.view view).text ≠ ""
  | .beginEditing (.view view) => isPlaceholder (s.view view).text → ∀ c ∈ (s.view view).chars, c.byUser = false
  | _ => True

instance (s : State) : (e : Event) → Decidable (Careful s e)
  | .postButtonPressed u _ =>
    decidable_of_iff ((∃ c, capture s.form u = .ok c) → s.jobDescription.begun ∧ s.petBio.begun)
      ⟨fun h hc view => by cases view <;> [exact (h hc).1; exact (h hc).2],
        fun h hc => ⟨h hc .jobDescription, h hc .petBio⟩⟩
  | .shouldChangeText view _ _ text => inferInstanceAs (Decidable (text = "\n" → (s.view view).text ≠ ""))
  | .beginEditing (.view view) => inferInstanceAs
    (Decidable (isPlaceholder (s.view view).text → ∀ c ∈ (s.view view).chars, c.byUser = false))
  | .beginEditing .timeFrame | .beginEditing .wages | .endEditing | .editTimeFrame _ | .editWages _
  | .textFieldShouldReturn | .petImageButtonPressed | .didFinishPicking _ | .didCancelPicking | .editLocation
  | .leaveEditLocation | .unwindFromEditLocation .. | .cancelButtonPressed | .okPressed | .uploadReply ..
  | .downloadURLReply .. | .postJobReply .. => .isTrue trivial

/-! ## Texts -/

theorem text_eq_empty {v : TextView} : v.text = "" ↔ v.chars = [] := by
  rw [TextView.text, textOf, String.ofList_eq_empty_iff, List.map_eq_nil_iff]

theorem byUser_byUser (text : String) : ∀ c ∈ byUser text, c.byUser := by
  simp [byUser]

/-- An edit leaves of the old characters only some, and adds characters of the user. -/
theorem replaceCharacters_byUser {v : TextView} (h : ∀ c ∈ v.chars, c.byUser) (location length : Nat) (text : String) :
    ∀ c ∈ (v.replaceCharacters location length text).chars, c.byUser := by
  intro c hc
  unfold TextView.replaceCharacters at hc
  rw [List.mem_append, List.mem_append] at hc
  rcases hc with (hc | hc) | hc
  · exact h c (List.mem_of_mem_take hc)
  · exact byUser_byUser text c hc
  · exact h c (List.mem_of_mem_drop hc)

theorem isPlaceholder_ne_empty {text : String} (h : isPlaceholder text) : text ≠ "" := by
  rintro rfl
  exact absurd h (by decide)

/-- The form is read with the texts of the views, and only with texts in both. -/
theorem capture_ok {s : State} {u : Option String} {c : Captured} (h : capture s.form u = .ok c) (view : View) :
    capturedText c view = (s.view view).text ∧ (s.view view).text ≠ "" := by
  unfold capture at h
  split at h
  · cases h
  · split at h
    · cases h
    · rename_i hempty
      simp only [Bool.or_eq_true, not_or, String.isEmpty_iff] at hempty
      obtain ⟨⟨⟨hj, hp⟩, -⟩, -⟩ := hempty
      split at h
      · cases h
      · split at h
        · cases h
        · cases h
          cases view
          · exact ⟨rfl, hj⟩
          · exact ⟨rfl, hp⟩

/-! ## Every run -/

variable {s s' : State} {e : Event}

/-- A view that has never been focused shows its prompt, and the one that is focused has been. -/
structure Prompted (s : State) : Prop where
  prompt : ∀ view, (s.view view).begun = false →
    isPlaceholder (s.view view).text ∧ ∀ c ∈ (s.view view).chars, c.byUser = false
  begun : ∀ view, s.focused = some (.view view) → (s.view view).begun

theorem prompted_init : Prompted {} where
  prompt view _ := by cases view <;> decide
  begun _ h := by cases h

theorem Prompted.congr (hi : Prompted s) (h : SameTexts s s') : Prompted s' where
  prompt view := by rw [h.view]; exact hi.prompt view
  begun view hf := by rw [h.view]; exact hi.begun view (h.focused view hf)

theorem Prompted.change {view : View} {v : TextView} (hi : Prompted s)
    (hv : ∀ w, s'.view w = if w = view then v else s.view w) (hb : v.begun)
    (hf : ∀ w, s'.focused = some (.view w) → w = view ∨ s.focused = some (.view w)) : Prompted s' where
  prompt w hw := by
    rw [hv] at hw ⊢
    split at hw
    · rw [hb] at hw; cases hw
    · rename_i hne
      rw [if_neg hne]
      exact hi.prompt w hw
  begun w hw := by
    rw [hv]
    split
    · exact hb
    · rename_i hne
      rcases hf w hw with h | h
      · exact absurd h hne
      · exact hi.begun w h

theorem Effect.prompted (h : Effect s e s') (hi : Prompted s) : Prompted s' := by
  cases h with
  | same hn hp ht => exact hi.congr ht
  | moved hn hk hf hph hp ht => exact hi.congr ht
  | pressed hc hd => exact hi.congr (sameTexts_of_eq rfl rfl (fun _ h => h) rfl)
  | focused view =>
    refine hi.change (didBeginEditing_view s view) rfl fun w hw => .inl ?_
    cases hw; rfl
  | @edited view location length text hf =>
    refine hi.change (fun w => setView_view ..) (hi.begun view hf) fun w hw => .inr ?_
    rwa [setView_focused] at hw
  | @returned view location length hl hf hv =>
    exact hi.change (fun w => returned_view ..) (hi.begun view hf) nofun

theorem exec_prompted {es : List Event} (h : Run.exec step {} es = some s) : Prompted s :=
  Run.exec_inv (fun _ _ _ hi h => (step_effect h).prompted hi) prompted_init h

/-! ## Careful runs -/

/-- Once focused, a view holds text of the user only: none, or what they left in it. -/
def TextView.Own (v : TextView) : Prop := (∀ c ∈ v.chars, c.byUser) ∧ (v.chars = [] ∨ v.entered = some v.text)

theorem replaceCharacters_own {v : TextView} (h : v.Own) (location length : Nat) (text : String) :
    (v.replaceCharacters location length text).Own :=
  ⟨replaceCharacters_byUser h.1 location length text, .inr rfl⟩

/-- The first focus clears the prompt; a later one clears the view too, or leaves it as it is. -/
theorem didBeginEditing_own {v : TextView} (hp : v.begun = false → isPlaceholder v.text) (h : v.begun → v.Own) :
    v.didBeginEditing.Own := by
  unfold TextView.didBeginEditing
  cases hph : isPlaceholder v.text with
  | true => exact ⟨nofun, .inl rfl⟩
  | false =>
    have hb : v.begun := by
      cases hb : v.begun with
      | true => rfl
      | false => rw [hp hb] at hph; cases hph
    simpa [TextView.Own, TextView.text] using h hb

/-- What the guards of a press and a view of the user's own text make of each other. -/
theorem TextView.Own.entered {v : TextView} (h : v.Own) (hne : v.text ≠ "") : v.Entered v.text where
  shown := rfl
  last := h.2.resolve_left fun hnil => hne (text_eq_empty.2 hnil)
  nonempty := hne
  byUser := h.1

/-- Whatever has been focused has text of the user's, and none of it was erased. -/
structure Clean (s : State) : Prop extends Prompted s where
  own : ∀ view, (s.view view).begun → (s.view view).Own
  kept : s.erased = false

theorem Clean.congr (hi : Clean s) (h : SameTexts s s') : Clean s' where
  toPrompted := hi.toPrompted.congr h
  own view := by rw [h.view]; exact hi.own view
  kept := by rw [h.erased, hi.kept]

/-- A focus clears a view only of the app's characters. -/
theorem Clean.didBeginEditing {view : View} (hi : Clean s) (hc : Careful s (.beginEditing (.view view))) :
    Clean (textViewDidBeginEditing s view) where
  toPrompted := (Effect.focused view).prompted hi.toPrompted
  own w := by
    rw [didBeginEditing_view]
    split
    · exact fun _ => didBeginEditing_own (fun hb => (hi.prompt view hb).1) (hi.own view)
    · exact hi.own w
  kept := by
    show (s.erased || _) = false
    rw [hi.kept, Bool.false_or, Bool.and_eq_false_iff]
    by_cases hp : isPlaceholder (s.view view).text
    · right
      simpa using hc hp
    · left
      simpa using hp

theorem Clean.replaceCharacters {view : View} {location length : Nat} {text : String} (hi : Clean s)
    (hf : s.focused = some (.view view)) :
    Clean (s.setView view ((s.view view).replaceCharacters location length text)) where
  toPrompted := by
    have h : Effect s (.shouldChangeText view location length text) _ := .edited hf
    exact h.prompted hi.toPrompted
  own w := by
    rw [setView_view]
    split
    · exact fun _ => replaceCharacters_own (hi.own view (hi.begun view hf)) location length text
    · exact hi.own w
  kept := by rw [setView_erased, hi.kept]

theorem Effect.clean (h : Effect s e s') (hc : Careful s e) (hi : Clean s) : Clean s' := by
  cases h with
  | same hn hp ht => exact hi.congr ht
  | moved hn hk hf hph hp ht => exact hi.congr ht
  | pressed hcap hd => exact hi.congr (sameTexts_of_eq rfl rfl (fun _ h => h) rfl)
  | focused view => exact hi.didBeginEditing hc
  | edited hf => exact hi.replaceCharacters hf
  | returned location length hl hf hv => exact absurd hv (hc rfl)

/-! ## What a run posts -/

/-- A document is made of what its press captured. -/
def Post.Recorded (p : Post) : Prop :=
  ∀ jobPost, p.phase = .posting jobPost ∨ p.phase = .posted jobPost →
    ∃ url createdDate, jobPost = p.captured.jobPost p.docId url createdDate

theorem PhaseStep.recorded {p : Post} {phase : PostPhase} (h : PhaseStep p phase) (hp : p.Recorded) :
    Post.Recorded { p with phase := phase } := by
  intro jobPost hj
  cases h with
  | fetchingURL | failed => rcases hj with hj | hj <;> cases hj
  | posting url createdDate =>
    rcases hj with hj | hj <;> cases hj
    exact ⟨url, createdDate, rfl⟩
  | posted h =>
    rcases hj with hj | hj <;> cases hj
    exact hp _ (.inl h)

theorem Post.Recorded.stored {p : Post} (h : p.Recorded) {jobPost : JobPost} (hj : p.created = some jobPost)
    (view : View) : storedText jobPost view = capturedText p.captured view := by
  have hph : p.phase = .posted jobPost := by
    unfold Post.created at hj
    split at hj
    · rename_i hph
      cases hj; exact hph
    · cases hj
  obtain ⟨url, createdDate, rfl⟩ := h jobPost (.inr hph)
  cases view <;> rfl

/-- What every press of a careful run keeps: its views as the user left them. -/
def Post.Own (p : Post) : Prop := p.Recorded ∧ ∀ view, (p.view view).Entered (capturedText p.captured view)

theorem PostStep.own {ps : List Post} (h : PostStep s e ps) (hc : Careful s e) (hi : Clean s)
    (hp : ∀ p ∈ s.posts, p.Own) : ∀ p ∈ ps, p.Own := by
  cases h with
  | same => exact hp
  | @pressed u docId c hcap hd =>
    intro p hmem
    rw [List.mem_append, List.mem_singleton] at hmem
    rcases hmem with hmem | rfl
    · exact hp p hmem
    · refine ⟨fun jobPost hj => ?_, fun view => ?_⟩
      · rcases hj with hj | hj <;> cases hj
      obtain ⟨htext, hne⟩ := capture_ok hcap view
      have hown := hi.own view (hc ⟨c, hcap⟩ view)
      rw [htext]
      cases view <;> exact hown.entered hne
  | @moved e k p phase hn hk hf hph =>
    intro q hmem
    rcases List.mem_or_eq_of_mem_set hmem with hmem | rfl
    · exact hp q hmem
    · obtain ⟨hrec, hown⟩ := hp p (List.mem_of_getElem? hk)
      refine ⟨hph.recorded hrec, fun view => ?_⟩
      cases view
      · exact hown .jobDescription
      · exact hown .petBio

/-- Every press was made over text of the user's. -/
structure Inv (s : State) : Prop extends Clean s where
  posts : ∀ p ∈ s.posts, p.Own

theorem inv_init : Inv {} where
  toPrompted := prompted_init
  own view h := by cases view <;> cases h
  kept := rfl
  posts _ h := by cases h

theorem step_inv (s : State) (e : Event) (s' : State) (hi : Inv s) (hc : Careful s e) (h : step s e = some s') :
    Inv s' where
  toClean := (step_effect h).clean hc hi.toClean
  posts := (step_posts h).own hc hi.toClean hi.posts

theorem Inv.ownText (hi : Inv s) : OwnText s where
  captured p hp := (hi.posts p hp).2
  stored p hp _ hj := (hi.posts p hp).1.stored hj
  kept := hi.kept

/-! ## Any other step -/

/-- The form has two text views. -/
def View.other : View → View
  | .jobDescription => .petBio
  | .petBio => .jobDescription

theorem replaceCharacters_ne_empty {v : TextView} {location length : Nat} {text : String} (h : text ≠ "") :
    (v.replaceCharacters location length text).text ≠ "" := by
  have hl : text.toList ≠ [] := by simpa using h
  rw [Ne, text_eq_empty]
  simp [TextView.replaceCharacters, byUser, hl]

/-- The rest of the form, filled in. -/
def filling (view : View) : List Event := [
  .beginEditing (.view view.other), .shouldChangeText view.other 0 0 "1", .beginEditing .wages, .editWages "1",
  .beginEditing .timeFrame, .editTimeFrame "1", .petImageButtonPressed, .didFinishPicking (some [1]),
  .editLocation, .unwindFromEditLocation 0 0]

/-- The user can fill in whatever is missing and leave one of the views as it is. -/
theorem can_fill (hl : s.Live) (hf : s.focused = none) (view : View) : ∃ t, Run.exec step s (filling view) = some t ∧
    t.Live ∧ t.view view = s.view view ∧ (t.view view.other).text ≠ "" ∧
    t.wages = "1" ∧ t.timeFrame = "1" ∧ t.imageData = some [1] ∧ t.locationTitle = "Location Added" := by
  obtain ⟨hd, hp⟩ := hl
  cases s
  dsimp only at hd hp hf
  subst hd hp hf
  cases view <;>
    exact ⟨_, rfl, ⟨rfl, rfl⟩, rfl, replaceCharacters_ne_empty (by decide), rfl, rfl, rfl, rfl⟩

/-- A form filled in is posted. -/
theorem can_press (hl : s.Live) (ht : ∀ view, (s.view view).text ≠ "") (hw : s.wages = "1") (htf : s.timeFrame = "1")
    (himg : s.imageData = some [1]) (hloc : s.locationTitle = "Location Added") :
    ∃ docId t p, step s (.postButtonPressed (some "") docId) = some t ∧ p ∈ t.posts ∧
      ∀ view, p.view view = s.view view := by
  obtain ⟨docId, hid⟩ := Infinite.exists_notMem_finset (s.posts.map (·.docId)).toFinset
  have hfresh : ∀ p ∈ s.posts, p.docId ≠ docId := by
    rintro p hp rfl
    exact hid (List.mem_toFinset.2 (List.mem_map_of_mem hp))
  have hj : s.jobDescription.text ≠ "" := ht .jobDescription
  have hp : s.petBio.text ≠ "" := ht .petBio
  have hcap : ∃ c, capture s.form (some "") = .ok c := by
    unfold capture
    simp [State.form, hloc, hj, hp, hw, htf, himg]
  obtain ⟨c, hc⟩ := hcap
  refine ⟨docId, { s with posts := s.posts ++ [⟨docId, c, .uploading, s.jobDescription, s.petBio⟩] }, _, ?_,
    List.mem_append_right _ (List.mem_singleton_self _), fun view => by cases view <;> rfl⟩
  simp only [step, hl, postButtonPressed, hc, guard, if_true]
  rw [if_pos hfresh]; rfl

/-- A text that is not all the user's can be posted. -/
theorem can_post_unowned (hl : s.Live) (hf : s.focused = none) (view : View) (hne : (s.view view).text ≠ "")
    (hun : ¬ ∀ c ∈ (s.view view).chars, c.byUser) : ∃ es t, Run.exec step s es = some t ∧ ¬ OwnText t := by
  obtain ⟨t, ht, htl, hview, hother, hw, htf, himg, hloc⟩ := can_fill hl hf view
  have htext : ∀ w, (t.view w).text ≠ "" := by
    intro w
    by_cases hw : w = view
    · rw [hw, hview]; exact hne
    · have : w = view.other := by cases w <;> cases view <;> first | rfl | exact absurd rfl hw
      rw [this]; exact hother
  obtain ⟨docId, u, p, hu, hmem, hp⟩ := can_press htl htext hw htf himg hloc
  refine ⟨filling view ++ [.postButtonPressed (some "") docId], u, Run.exec_concat.2 ⟨t, ht, hu⟩, fun hown => hun ?_⟩
  have h := (hown.captured p hmem view).byUser
  rwa [hp, hview] at h

/-- A view that has never been focused is posted with its prompt. -/
theorem not_ownText_of_press {u : Option String} {docId : String} {c : Captured} {view : View} (hi : Prompted s)
    (h : step s (.postButtonPressed u docId) = some s') (hc : capture s.form u = .ok c)
    (hb : (s.view view).begun = false) : ¬ OwnText s' := by
  obtain ⟨-, h⟩ := Run.guard_bind.1 h
  unfold postButtonPressed at h
  rw [hc] at h
  obtain ⟨-, h⟩ := Run.guard_bind.1 h
  cases h
  intro hown
  obtain ⟨hph, happ⟩ := hi.prompt view hb
  have hne : (s.view view).chars ≠ [] := fun hnil => isPlaceholder_ne_empty hph (text_eq_empty.2 hnil)
  obtain ⟨x, hx⟩ := List.exists_mem_of_ne_nil _ hne
  have h := hown.captured _ (List.mem_append_right _ (List.mem_singleton_self _)) view
  have huser : x.byUser := h.byUser x (by cases view <;> exact hx)
  rw [happ x hx] at huser
  cases huser

theorem not_ownText_of_focus {view : View} (h : step s (.beginEditing (.view view)) = some s')
    (hc : ¬ Careful s (.beginEditing (.view view))) : ¬ OwnText s' := by
  obtain ⟨-, h⟩ := Run.guard_bind.1 h
  cases h
  intro hown
  refine hc fun hph c hmem => ?_
  have h : (s.erased || (isPlaceholder (s.view view).text && (s.view view).chars.any (·.byUser))) = false := hown.kept
  rw [hph, Bool.true_and, Bool.or_eq_false_iff, List.any_eq_false] at h
  simpa using h.2 c hmem

theorem unowned_of_not_careful (hi : Prompted s) (h : step s e = some s') (hc : ¬ Careful s e) :
    ∃ es t, Run.exec step s' es = some t ∧ ¬ OwnText t := by
  cases e with
  | postButtonPressed u docId =>
    have hb : ∃ c, capture s.form u = .ok c ∧ ∃ view, (s.view view).begun = false := by
      simpa [Careful] using hc
    obtain ⟨c, hcap, view, hb⟩ := hb
    exact ⟨[], s', rfl, not_ownText_of_press hi h hcap hb⟩
  | beginEditing field =>
    cases field with
    | view view => exact ⟨[], s', rfl, not_ownText_of_focus h hc⟩
    | timeFrame | wages => exact absurd trivial hc
  | shouldChangeText view location length text =>
    have hr : text = "\n" ∧ (s.view view).text = "" := by simpa [Careful] using hc
    obtain ⟨rfl, hempty⟩ := hr
    obtain ⟨⟨hl, -⟩, h⟩ := Run.guard_bind.1 h
    cases h
    -- the view reads "Blog text..." now, and the user can fill in the rest
    have hs : shouldChangeText s view location length "\n" =
        { s.setView view { s.view view with chars := byApp "Blog text..." } with focused := none } := by
      unfold shouldChangeText
      dsimp only
      rw [if_pos rfl, if_pos hempty]
    rw [hs]
    refine can_post_unowned ?_ rfl view ?_ ?_
    · cases view <;> exact hl
    · rw [returned_view, if_pos rfl, Ne, text_eq_empty]
      show byApp "Blog text..." ≠ []
      decide
    · rw [returned_view, if_pos rfl]
      show ¬ ∀ c ∈ byApp "Blog text...", (c.byUser : Prop)
      decide
  | _ => exact absurd trivial hc

/-! ## The text of a form is its user's -/

/-- In a careful run the form posts what the user last entered and erases nothing of theirs; after a step that is not
careful, it does not or the run can go on so that it does not. -/
theorem own_text (es : List Event) :
    (Run.Guarded step Careful {} es → Run.Always step OwnText {} es) ∧
      ∀ s e s', Run.exec step {} es = some s → step s e = some s' → ¬ Careful s e →
        ∃ fs t, Run.exec step s' fs = some t ∧ ¬ OwnText t :=
  ⟨Run.always_of_guarded (fun _ => Inv.ownText) step_inv inv_init,
    fun _ _ _ hs h hc => unowned_of_not_careful (exec_prompted hs) h hc⟩

/-- The user leaves the description, comes back to change it, and posts. -/
def sampleCareful : List Event := filling .jobDescription ++ [
  .beginEditing (.view .jobDescription), .shouldChangeText .jobDescription 0 0 "Walk", .endEditing,
  .beginEditing (.view .jobDescription), .shouldChangeText .jobDescription 4 0 " Rex",
  .postButtonPressed (some "ann") "p1", .uploadReply 0 true, .downloadURLReply 0 (.ok "url") "d",
  .postJobReply 0 none]

theorem own_text_sample : ∃ s, Run.exec step {} sampleCareful = some s ∧
    s.posts.map (·.captured.postDescription) = ["Walk Rex"] ∧ Run.Always step OwnText {} sampleCareful := by
  have hx : (Run.exec step {} sampleCareful).map (fun s => s.posts.map (·.captured.postDescription)) =
      some ["Walk Rex"] := by decide
  obtain ⟨s, hs, hx⟩ := Option.map_eq_some_iff.1 hx
  exact ⟨s, hs, hx, (own_text sampleCareful).1 (by decide)⟩

/-- The first run posts the prompt of a view never focused, the second the prompt that Return puts into an empty view,
and in the third the user writes the prompt of the other view and focuses the view again. -/
theorem not_own_text :
    ¬ Run.Always step OwnText {} (filling .jobDescription ++ [.postButtonPressed (some "ann") "p1"]) ∧
      ¬ Run.Always step OwnText {} ([.beginEditing (.view .jobDescription),
        .shouldChangeText .jobDescription 0 0 "\n"] ++ filling .jobDescription ++
          [.postButtonPressed (some "ann") "p1"]) ∧
      ¬ Run.Always step OwnText {} [.beginEditing (.view .jobDescription),
        .shouldChangeText .jobDescription 0 0 "Tell me about your pets...", .endEditing,
        .beginEditing (.view .jobDescription)] := by
  refine ⟨?_, ?_, ?_⟩ <;> decide

end PetIT.Form
