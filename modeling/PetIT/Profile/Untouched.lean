/-
Saving what one has not touched. A text field that shows a value of the document saves it as it was; one that
shows the decoder's placeholder for a missing name saves the placeholder, and from then on it is a name of the
document like any other. As long as no such field is saved, what is stored was entered by its user or is unset.
-/
import PetIT.Profile.Edit

namespace PetIT.Profile.Edit

open UsersCollectionKeys Store

/-! ## Definitions -/

/-- The document has a text under the field. -/
def Holds (d : Document) (x : Field) : Prop := ((d x.key).bind Value.asString).isSome = true

instance (d : Document) (x : Field) : Decidable (Holds d x) := inferInstanceAs (Decidable (_ = _))

/-- The user has given the text for the field: at the sign-up, or in a screen they saved. -/
def State.Entered (s : State) (uid : String) (x : Field) (text : String) : Prop :=
  (∃ u ∈ s.profile.created, u.userId = uid ∧ x.given u = some text) ∨ ⟨uid, x, text⟩ ∈ s.entered

/-- The value is unset as at creation, or one the user entered. -/
def State.Own (s : State) (uid : String) (x : Field) (v : Option Value) : Prop :=
  v = some x.unset ∨ ∃ text, v = some (.string text) ∧ s.Entered uid x text

/-- Whatever is stored of a user is theirs. -/
def State.Genuine (s : State) : Prop := ∀ uid d, s.document uid = some d → ∀ x : Field, s.Own uid x (d x.key)

/-- What the screen saves in the field is either typed or what the document of the user who saves has there. -/
def Form.Shows (form : Form) (uid : String) (x : Field) : Prop :=
  x ∈ form.typed ∨ (form.uid = uid ∧ Holds form.document x)

/-- No save sends a text that is neither typed nor stored. -/
def Faithful (s : State) : Event → Prop
  | .saveButtonPressed i (some uid) => ∀ form ∈ s.forms[i]?, ∀ scr ∈ s.profile.screens[i]?,
      (scr.capture (some uid)).isSome = true → ∀ x ∈ Field.all, form.Shows uid x
  | _ => True

instance (form : Form) (uid : String) (x : Field) : Decidable (form.Shows uid x) :=
  inferInstanceAs (Decidable (_ ∨ _ ∧ _))

instance (s : State) : (e : Event) → Decidable (Faithful s e)
  | .saveButtonPressed i (some uid) => inferInstanceAs (Decidable (∀ form ∈ s.forms[i]?,
      ∀ scr ∈ s.profile.screens[i]?, (scr.capture (some uid)).isSome = true → ∀ x ∈ Field.all, form.Shows uid x))
  | .saveButtonPressed _ none | .below _ | .fetchUserReply _ | .openEdit _ | .typeText .. => .isTrue trivial

/-! ## Texts -/

/-- What `updateUI` shows in a field. -/
theorem text_ofOwner (d : Document) (x : Field) :
    (EditScreen.ofOwner (UserModel.ofDict d)).text x = d.string x.key x.placeholder := by
  cases x <;> rfl

/-- A field that was not typed into shows what it was filled with. -/
def Filled (text : Field → String) (form : Form) : Prop :=
  ∀ x, x ∉ form.typed → text x = form.document.string x.key x.placeholder

theorem text_of_holds {d : Document} {x : Field} (h : Holds d x) :
    d x.key = some (.string (d.string x.key x.placeholder)) := by
  unfold Holds at h
  obtain ⟨text, h⟩ := Option.isSome_iff_exists.1 h
  obtain ⟨v, hv, htext⟩ := Option.bind_eq_some_iff.1 h
  rw [Document.string_eq hv, htext, hv]
  cases v <;> cases htext
  rfl

theorem holds_of_text {d : Document} {x : Field} {text : String} (h : d x.key = some (.string text)) : Holds d x := by
  unfold Holds
  rw [h]; rfl

theorem text_capture {scr : EditScreen} {u : Option String} {c : Captured} (h : scr.capture u = some c) (x : Field) :
    c.text x = scr.text x := by
  unfold EditScreen.capture at h
  split at h
  · split at h <;> cases h
    cases x <;> rfl
  · cases h

theorem text_enter_of_ne (scr : EditScreen) (text : String) {x y : Field} (h : y ≠ x) :
    (scr.enter text x).text y = scr.text y := by
  cases x <;> cases y <;> first | rfl | exact absurd rfl h

/-! ## What a save writes -/

theorem updateData_text (c : Captured) (url : String) (x : Field) :
    c.updateData url x.key = some (.string (c.text x)) := by
  cases x <;> simp [Captured.updateData, Captured.text, Field.key]

theorem updateData_other (c : Captured) (url : String) {key : String} (hurl : key ≠ photoURLKey)
    (h : ∀ x : Field, key ≠ x.key) : c.updateData url key = none := by
  rw [← Option.not_isSome_iff_eq_none, updateData_isSome]
  simp only [List.mem_cons, List.not_mem_nil, or_false, not_or]
  exact ⟨hurl, h .username, h .firstName, h .lastName, h .userBio⟩

/-- Writing back what was shown keeps every field but the photo exactly when each field had a text. -/
theorem merge_untouched {d : Document} {c : Captured} (hc : ∀ x, c.text x = d.string x.key x.placeholder)
    (url : String) :
    (∀ key, key ≠ photoURLKey → d.merge (c.updateData url) key = d key) ↔ ∀ x, Holds d x := by
  constructor
  · intro h x
    have hx := h x.key (by cases x <;> decide)
    rw [Fields.merge_some (updateData_text c url x)] at hx
    exact holds_of_text hx.symm
  · intro h key hkey
    by_cases hx : ∃ x : Field, key = x.key
    · obtain ⟨x, rfl⟩ := hx
      rw [Fields.merge_some (updateData_text c url x), hc x, ← text_of_holds (h x)]
    · rw [Fields.merge_none (updateData_other c url hkey (not_exists.1 hx))]

/-! ## Documents -/

variable {resolve : String → Option String} {p p' : Profile.State}

/-- Where a document of the next state is from. -/
theorem document_step {e : Profile.Event} (h : Profile.step resolve p e = some p') {uid : String} {d : Document}
    (hd : p'.users.lookup uid = some d) : p.users.lookup uid = some d ∨
      (∃ u ∈ p'.created, u.userId = uid ∧ d = u.createUser) ∨
      ∃ c ∈ captures p, c.uid = uid ∧ ∃ d₀ url, p.users.lookup uid = some d₀ ∧ d = d₀.merge (c.updateData url) := by
  have hcore := step_core h
  rw [show p'.users = p'.core.users from rfl] at hd
  rw [show p'.created = p'.core.created from rfl]
  generalize p'.core = c' at hcore hd
  cases hcore with
  | @created k x _ hk _ =>
    rw [Collection.lookup_setData] at hd
    split at hd
    · cases hd
      rename_i hu
      exact Or.inr (Or.inl ⟨x.user, List.mem_cons_self .., hu.symm, rfl⟩)
    · exact Or.inl hd
  | @updated k q url commit d₀ _ hk _ hd₀ =>
    rw [Collection.lookup_setData] at hd
    split at hd
    · cases hd
      rename_i hu
      subst hu
      exact Or.inr (Or.inr ⟨q.captured, List.mem_map_of_mem (List.mem_of_getElem? hk), rfl, d₀, url, hd₀, rfl⟩)
    · exact Or.inl hd
  | _ => exact Or.inl hd

theorem created_step {e : Profile.Event} (h : Profile.step resolve p e = some p') : p.created ⊆ p'.created := by
  have hcore := step_core h
  rw [show p'.created = p'.core.created from rfl, show p.created = p.core.created from rfl]
  generalize p'.core = c' at hcore
  cases hcore with
  | created => exact List.subset_cons_self ..
  | _ => exact List.Subset.refl _

/-! ## Screens and saves show what was read -/

/-- Each screen shows an owner that was read, in every field that was not typed into; so does what its saves have
captured. -/
structure Shown (s : State) : Prop where
  owners : s.forms.map Form.toOwner ⊆ s.owners
  filled : List.Forall₂ Filled (texts s.profile) s.forms
  sent : List.Forall₂ Filled ((captures s.profile).map Captured.text) s.sent

variable {s s' : State}

theorem Shown.init : Shown State.init := ⟨List.Subset.refl _, .nil, .nil⟩

theorem Shown.typeText {i : Nat} {x : Field} {text : String} (hi : Shown s)
    (h : typeText resolve s i x text = some s') : Shown s' := by
  obtain ⟨scr, p', hscr, hp', rfl⟩ := typeText_some h
  obtain ⟨htexts, hcaptures⟩ := toEvent_step hp'
  refine ⟨?_, ?_, ?_⟩
  · have hforms : (s.forms.modify i fun form => { form with typed := x :: form.typed }).map Form.toOwner =
        s.forms.map Form.toOwner := Slots.map_modify_self (g := fun form => { form with typed := x :: form.typed }) _
          (fun _ => rfl) s.forms i
    rw [hforms]
    exact hi.owners
  · rw [htexts]
    refine Slots.forall₂_modify hi.filled fun old form ho hfill y hy => ?_
    rw [texts_get hscr] at ho
    cases ho
    obtain ⟨hyx, hy⟩ := not_or.1 fun h => hy (List.mem_cons.2 h)
    rw [text_enter_of_ne scr text hyx]
    exact hfill y hy
  · rw [hcaptures]
    exact hi.sent

theorem Shown.saveButtonPressed {i : Nat} {u : Option String} (hi : Shown s)
    (h : saveButtonPressed resolve s i u = some s') : Shown s' := by
  obtain ⟨form, scr, p', hform, hscr, -, htexts, -, -, h⟩ := saveButtonPressed_some h
  have hfilled : List.Forall₂ Filled (texts p') s.forms := by
    rw [htexts]
    exact hi.filled
  rcases h with ⟨-, hcaptures, rfl⟩ | ⟨c, hc, hcaptures, rfl⟩
  · refine ⟨hi.owners, hfilled, ?_⟩
    rw [hcaptures]
    exact hi.sent
  · refine ⟨hi.owners, hfilled, ?_⟩
    rw [hcaptures, List.map_append]
    refine Slots.forall₂_concat hi.sent fun x hx => ?_
    rw [text_capture hc x]
    exact Slots.forall₂_get hi.filled (texts_get hscr) hform x hx

theorem Shown.step {e : Event} (hi : Shown s) (h : step resolve s e = some s') : Shown s' := by
  cases e with
  | below e =>
    obtain ⟨p', -, htexts, hcaptures, rfl⟩ := below_some h
    refine ⟨hi.owners, ?_, ?_⟩
    · rw [htexts]; exact hi.filled
    · rw [hcaptures]; exact hi.sent
  | fetchUserReply uid =>
    obtain ⟨o, -, -, rfl⟩ := fetchUserReply_some h
    exact ⟨fun _ ho => List.mem_append_left _ (hi.owners ho), hi.filled, hi.sent⟩
  | openEdit j =>
    obtain ⟨o, ho, rfl⟩ := openEdit_some h
    refine ⟨?_, ?_, hi.sent⟩
    · rw [List.map_append]
      exact List.append_subset.2 ⟨hi.owners, List.cons_subset.2 ⟨List.mem_of_getElem? ho, List.nil_subset _⟩⟩
    · have htexts : texts { s.profile with screens := s.profile.screens ++ [.ofOwner o.model] } =
          texts s.profile ++ [(EditScreen.ofOwner o.model).text] := List.map_append ..
      rw [htexts]
      exact Slots.forall₂_concat hi.filled fun x _ => text_ofOwner o.document x
  | typeText i x text => exact hi.typeText h
  | saveButtonPressed i u => exact hi.saveButtonPressed h

/-- The profile system's own invariant, and what the screens show. -/
structure Inv (resolve : String → Option String) (s : State) : Prop extends Shown s where
  base : Profile.Inv resolve ∅ (fun _ => {}) s.profile.core

theorem Inv.init (resolve : String → Option String) : Inv resolve State.init := ⟨Shown.init, Profile.Inv.start ..⟩

theorem Inv.step {e : Event} (hi : Inv resolve s) (h : step resolve s e = some s') : Inv resolve s' where
  toShown := hi.toShown.step h
  base := step_inv (I := fun p => Profile.Inv resolve ∅ (fun _ => {}) p.core)
    (fun _ _ _ hi hs => hi.coreStep (step_core hs)) hi.base h

theorem Inv.exec {es : List Event} (h : Run.exec (Edit.step resolve) State.init es = some s) : Inv resolve s :=
  Run.exec_inv (fun _ _ _ hi hs => hi.step hs) (Inv.init resolve) h

/-- A stored document has a username and a bio: only a name can be missing. -/
theorem Inv.holds_iff (hi : Inv resolve s) {uid : String} {d : Document} (hd : s.document uid = some d) :
    (∀ x, Holds d x) ↔ Holds d .firstName ∧ Holds d .lastName := by
  refine ⟨fun h => ⟨h .firstName, h .lastName⟩, fun ⟨hfirst, hlast⟩ => ?_⟩
  have hother : Holds d .username ∧ Holds d .userBio := by
    obtain ⟨u, -, -, rfl⟩ := hi.base.document hd
    rcases hw : last Applied.uid s.profile.updates uid with _ | w
    · rw [overlay]
      exact ⟨holds_of_text (UserModel.createUser_displayName u), holds_of_text (UserModel.createUser_bio u)⟩
    · obtain ⟨c, url, hv⟩ := hi.base.updates_value w hw
      rw [overlay, hv]
      exact ⟨holds_of_text (Fields.merge_some (updateData_text c url .username)),
        holds_of_text (Fields.merge_some (updateData_text c url .userBio))⟩
  rintro (_ | _ | _ | _)
  · exact hfirst
  · exact hlast
  · exact hother.1
  · exact hother.2

/-! ## Whose values these are -/

/-- Every value that is stored, read or on its way to the store is its user's. -/
structure Provenance (s : State) : Prop where
  documents : s.Genuine
  owners : ∀ o ∈ s.owners, ∀ x : Field, s.Own o.uid x (o.document x.key)
  saves : ∀ c ∈ captures s.profile, ∀ x, s.Own c.uid x (some (.string (c.text x)))

theorem Own.mono {uid : String} {x : Field} {v : Option Value} (hc : s.profile.created ⊆ s'.profile.created)
    (he : s.entered ⊆ s'.entered) (h : s.Own uid x v) : s'.Own uid x v := by
  rcases h with h | ⟨text, hv, ⟨u, hu, hid, hgiven⟩ | htyped⟩
  · exact Or.inl h
  · exact Or.inr ⟨text, hv, Or.inl ⟨u, hc hu, hid, hgiven⟩⟩
  · exact Or.inr ⟨text, hv, Or.inr (he htyped)⟩

/-- A name is stored as it was given, or as a null. -/
theorem Own.ofOptional {uid : String} {x : Field} {o : Option String} (hx : x.unset = .null)
    (h : ∀ text, o = some text → s.Entered uid x text) : s.Own uid x (some (.ofOptional o)) := by
  cases o with
  | none =>
    rw [Value.ofOptional_none, ← hx]
    exact Or.inl rfl
  | some text => exact Or.inr ⟨text, rfl, h text rfl⟩

/-- What `createUser` stores is given, or unset. -/
theorem Own.createUser {u : UserModel} (hu : u ∈ s.profile.created) (x : Field) :
    s.Own u.userId x (u.createUser x.key) := by
  have hgiven : ∀ text, x.given u = some text → s.Entered u.userId x text :=
    fun text h => Or.inl ⟨u, hu, rfl, h⟩
  cases x with
  | firstName =>
    rw [Field.key, UserModel.createUser_firstName]
    exact Own.ofOptional rfl hgiven
  | lastName =>
    rw [Field.key, UserModel.createUser_lastName]
    exact Own.ofOptional rfl hgiven
  | username => exact Or.inr ⟨u.displayName, UserModel.createUser_displayName u, hgiven u.displayName rfl⟩
  | userBio =>
    rw [Field.key, UserModel.createUser_bio]
    rcases h : u.bio with _ | bio
    · exact Or.inl rfl
    · exact Or.inr ⟨bio, rfl, hgiven bio h⟩

theorem Provenance.init : Provenance State.init := by
  refine ⟨fun _ _ hd => ?_, fun _ ho => ?_, fun _ hc => ?_⟩
  · cases hd
  · cases ho
  · cases hc

theorem Provenance.below {e : Profile.Event} (hp : Provenance s) (h : below resolve s e = some s') :
    Provenance s' := by
  obtain ⟨p', hp', -, hcaptures, rfl⟩ := below_some h
  have hmono : ∀ {uid x v}, s.Own uid x v → State.Own { s with profile := p' } uid x v :=
    Own.mono (created_step hp') (List.Subset.refl _)
  refine ⟨fun uid d hd x => ?_, fun o ho x => hmono (hp.owners o ho x), ?_⟩
  · rcases document_step hp' hd with hd | ⟨u, hu, rfl, rfl⟩ | ⟨c, hc, rfl, d₀, url, -, rfl⟩
    · exact hmono (hp.documents uid d hd x)
    · exact Own.createUser hu x
    · rw [Fields.merge_some (updateData_text c url x)]
      exact hmono (hp.saves c hc x)
  · rw [hcaptures]
    exact fun c hc x => hmono (hp.saves c hc x)

theorem Provenance.fetchUserReply {uid : String} (hi : Inv resolve s) (hp : Provenance s)
    (h : fetchUserReply s uid = some s') : Provenance s' := by
  obtain ⟨o, rfl, ho, rfl⟩ := fetchUserReply_some h
  refine ⟨hp.documents, fun o' ho' x => ?_, hp.saves⟩
  rcases List.mem_append.1 ho' with ho' | ho'
  · exact hp.owners o' ho' x
  · rw [List.mem_singleton] at ho'
    subst ho'
    -- the document with this `userId` field is the user's own
    rw [hi.base.whereField o'.uid, Option.head?_toList] at ho
    exact hp.documents o'.uid o'.document ho x

/-- Screens that change their texts change nothing else. -/
theorem Provenance.shown {scr : EditScreen} {i : Nat} {forms : List Form} (hp : Provenance s)
    (h : Profile.step resolve s.profile (scr.toEvent i) = some p') :
    Provenance { s with profile := p', forms := forms } := by
  obtain ⟨old, scr', -, -, rfl⟩ := touch_some h
  exact ⟨hp.documents, hp.owners, hp.saves⟩

/-- A faithful save sends what its user typed and what is theirs already. -/
theorem Provenance.saveButtonPressed {i : Nat} {u : Option String} (hi : Inv resolve s) (hp : Provenance s)
    (hg : Faithful s (.saveButtonPressed i u)) (h : saveButtonPressed resolve s i u = some s') : Provenance s' := by
  obtain ⟨form, scr, p', hform, hscr, -, -, husers, hcreated, h⟩ := saveButtonPressed_some h
  have hc' : s.profile.created ⊆ p'.created := by
    rw [hcreated]
    exact List.Subset.refl _
  rcases h with ⟨-, hcaptures, rfl⟩ | ⟨c, hc, hcaptures, rfl⟩
  · refine ⟨fun uid d hd x => ?_, fun o ho x => Own.mono hc' (List.Subset.refl _) (hp.owners o ho x), ?_⟩
    · rw [State.document, husers] at hd
      exact Own.mono hc' (List.Subset.refl _) (hp.documents uid d hd x)
    · rw [hcaptures]
      exact fun c hc x => Own.mono hc' (List.Subset.refl _) (hp.saves c hc x)
  · have hmono : ∀ {uid x v}, s.Own uid x v → State.Own { s with
        profile := p'
        sent := s.sent ++ [form]
        entered := form.typed.map (fun x => ⟨c.uid, x, c.text x⟩) ++ s.entered } uid x v :=
      Own.mono hc' (List.subset_append_right ..)
    refine ⟨fun uid d hd x => ?_, fun o ho x => hmono (hp.owners o ho x), fun c' hc' x => ?_⟩
    · rw [State.document, husers] at hd
      exact hmono (hp.documents uid d hd x)
    · rw [hcaptures] at hc'
      rcases List.mem_append.1 hc' with hc' | hc'
      · exact hmono (hp.saves c' hc' x)
      · rw [List.mem_singleton] at hc'
        subst hc'
        cases capture_uid hc
        have hfilled := Slots.forall₂_get hi.filled (texts_get hscr) hform
        by_cases hx : x ∈ form.typed
        · exact Or.inr ⟨_, rfl, Or.inr (List.mem_append_left _ (List.mem_map_of_mem hx))⟩
        · obtain ⟨huid, hholds⟩ := (hg form hform scr hscr (by rw [hc]; rfl) x (Field.mem_all x)).resolve_left hx
          have hown := hp.owners form.toOwner (hi.owners (List.mem_map_of_mem (List.mem_of_getElem? hform))) x
          rw [huid] at hown
          rw [text_capture hc, hfilled x hx, ← text_of_holds hholds]
          exact hmono hown

theorem Provenance.step {e : Event} (hi : Inv resolve s) (hp : Provenance s) (hg : Faithful s e)
    (h : step resolve s e = some s') : Provenance s' := by
  cases e with
  | below e => exact hp.below h
  | fetchUserReply uid => exact hp.fetchUserReply hi h
  | openEdit j =>
    obtain ⟨o, -, rfl⟩ := openEdit_some h
    exact ⟨hp.documents, hp.owners, hp.saves⟩
  | typeText i x text =>
    obtain ⟨scr, p', -, hp', rfl⟩ := typeText_some h
    exact hp.shown hp'
  | saveButtonPressed i u => exact hp.saveButtonPressed hi hg h

theorem Provenance.always {es : List Event} (hg : Run.Guarded (Edit.step resolve) Faithful State.init es) :
    Run.Always (Edit.step resolve) State.Genuine State.init es :=
  Run.always_of_guarded (I := fun s => Inv resolve s ∧ Provenance s) (fun _ hi => hi.2.documents)
    (fun _ _ _ hi hg hs => ⟨hi.1.step hs, hi.2.step hi.1 hg hs⟩) ⟨Inv.init resolve, Provenance.init⟩ hg

/-! ## An untouched form -/

/-- What the update of an untouched form makes of the document the form was read from. -/
theorem Inv.untouched (hi : Inv resolve s) {k : Nat} {q : Save} {form : Form} (hq : s.profile.saves[k]? = some q)
    (hform : s.sent[k]? = some form) (htyped : form.typed = [])
    (hd : s.document q.captured.uid = some form.document)
    (h : Edit.step resolve s (.below (.updateReply k none)) = some s') :
    ∃ d', s'.document q.captured.uid = some d' ∧
      ((∀ key, key ≠ photoURLKey → d' key = form.document key) ↔
        Holds form.document .firstName ∧ Holds form.document .lastName) := by
  obtain ⟨p', hp', -, -, rfl⟩ :=
    below_some (show below resolve s (.updateReply k none) = some s' from h)
  obtain ⟨q', url, commit, hq', -, ⟨-, d, hd', rfl⟩ | ⟨m, hm, -⟩⟩ :=
    updateReply_some (show updateReply s.profile k none = some p' from hp')
  · rw [hq] at hq'; cases hq'
    rw [State.document, hd'] at hd; cases hd
    have hfilled : ∀ x, q.captured.text x = form.document.string x.key x.placeholder := by
      intro x
      have hc : ((captures s.profile).map Captured.text)[k]? = some q.captured.text := by
        unfold captures
        rw [List.getElem?_map, List.getElem?_map, hq]; rfl
      exact Slots.forall₂_get hi.sent hc hform x (by rw [htyped]; exact List.not_mem_nil)
    refine ⟨form.document.merge (q.captured.updateData url), ?_, ?_⟩
    · show (s.profile.users.setData _ _).lookup _ = _
      rw [Collection.lookup_setData, if_pos rfl]
    · rw [merge_untouched hfilled url]
      exact hi.holds_iff hd'
  · cases hm

/-- The update of an untouched form that finds the document as the form read it leaves every field but the photo
alone exactly when the document has both names; and as long as no save sends a placeholder, or a text of another
user's, whatever is stored of a user is unset as at creation or was entered by them. -/
theorem untouched_save (resolve : String → Option String) (es : List Event) (s : State)
    (h : Run.exec (step resolve) State.init es = some s) :
    (∀ (k : Nat) q form s', s.profile.saves[k]? = some q → s.sent[k]? = some form → form.typed = [] →
      s.document q.captured.uid = some form.document →
      step resolve s (.below (.updateReply k none)) = some s' →
      ∃ d', s'.document q.captured.uid = some d' ∧
        ((∀ key, key ≠ photoURLKey → d' key = form.document key) ↔
          Holds form.document .firstName ∧ Holds form.document .lastName)) ∧
    (Run.Guarded (step resolve) Faithful State.init es → Run.Always (step resolve) State.Genuine State.init es) := by
  have hi : Inv resolve s := Inv.exec h
  exact ⟨fun k q form s' hq hform htyped hd hs => hi.untouched hq hform htyped hd hs, Provenance.always⟩

/-! ## Runs -/

/-- Ann signs up, without a name, and opens her profile. -/
def opening : List Event := [
  .below (.createUser newUser),
  .below (.createUserReply 0 none),
  .fetchUserReply "ann",
  .openEdit 0]

/-- She picks a photo and saves, up to the two writes. -/
def saving (i : Nat) : List Event := [
  .below (.touch i .profileImageButtonPressed),
  .below (.touch i .sourceChosen),
  .below (.touch i (.didFinishPicking (some [1]))),
  .saveButtonPressed i (some "ann"),
  .below (.uploadReply i true),
  .below (.downloadURLReply i (.ok "https://storage/ann.jpg"))]

/-- Ann, who has typed nothing, is stored as FirstName LastName. -/
theorem untouched_save_placeholder : ∃ s s', Run.exec (step sampleResolve) State.init (opening ++ saving 0) = some s ∧
    step sampleResolve s (.below (.updateReply 0 none)) = some s' ∧
    (∃ form, s.sent[0]? = some form ∧ form.typed = [] ∧ s.document "ann" = some form.document ∧
      form.document firstNameKey = some .null) ∧
    (∃ d, s'.document "ann" = some d ∧ d firstNameKey = some (.string "FirstName") ∧
      d lastNameKey = some (.string "LastName")) ∧ ¬ s'.Genuine := by
  refine ⟨_, _, rfl, rfl, ⟨_, rfl, rfl, rfl, rfl⟩, ⟨_, rfl, rfl, rfl⟩, fun h => ?_⟩
  rcases h "ann" _ rfl .firstName with h | ⟨text, htext, ⟨u, hu, -, hgiven⟩ | htyped⟩
  · exact absurd h (by decide)
  · cases List.mem_singleton.1 hu
    cases hgiven
  · cases htyped

/-- Ann types her names and saves them, and saves once more without touching anything. -/
def typedRun : List Event :=
  opening ++ [.typeText 0 .firstName "Ann", .typeText 0 .lastName "Lee"] ++ saving 0 ++
    [.below (.updateReply 0 none), .fetchUserReply "ann", .openEdit 1] ++ saving 1

theorem untouched_save_typed : ∃ s s' d', Run.exec (step sampleResolve) State.init typedRun = some s ∧ s.Genuine ∧
    step sampleResolve s (.below (.updateReply 1 none)) = some s' ∧ s'.document "ann" = some d' ∧
    d' firstNameKey = some (.string "Ann") ∧ d' lastNameKey = some (.string "Lee") := by
  have hrun := untouched_save sampleResolve typedRun _ rfl
  obtain ⟨d', hd', hkeep⟩ := hrun.1 1 _ _ _ rfl rfl rfl rfl rfl
  have hsame := hkeep.2 ⟨by decide, by decide⟩
  refine ⟨_, _, d', rfl, (hrun.2 (by decide)).final rfl, rfl, hd', ?_, ?_⟩
  · rw [hsame firstNameKey (by decide)]; rfl
  · rw [hsame lastNameKey (by decide)]; rfl

end PetIT.Profile.Edit
