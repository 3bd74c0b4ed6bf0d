/-
The way of a profile through the app: `ProfileViewController` reads the user's document, hands the model to
`EditOwnerProfileTableViewController`, whose text fields show it, and Save writes the texts back. The profile
system runs below; beside it stand the document each screen was filled from and what the users have entered.
-/
import PetIT.Model.RoundTrip
import PetIT.Profile.Read

namespace PetIT.Profile

open UsersCollectionKeys

/-! ## The text fields -/

/-- The text fields of the Edit Profile screen. -/
inductive Field where
  | firstName
  | lastName
  | username
  | userBio
  deriving DecidableEq, Repr

namespace Field

/-- The four fields. -/
def all : List Field := [firstName, lastName, username, userBio]

theorem mem_all (x : Field) : x ∈ all := by cases x <;> decide

/-- The field of the document the text is saved to. -/
def key : Field → String
  | firstName => firstNameKey
  | lastName => lastNameKey
  | username => displayNameKey
  | userBio => bioKey

/-- What the decoder shows for a value that is missing. -/
def placeholder : Field → String
  | firstName => "FirstName"
  | lastName => "LastName"
  | username => ""
  | userBio => "fellow users are looking forward to reading your bio"

/-- What the sign-up was given. -/
def given : Field → UserModel → Option String
  | firstName, u => u.firstName
  | lastName, u => u.lastName
  | username, u => some u.displayName
  | userBio, u => u.bio

/-- What `createUser` stores for a value it was not given. -/
def unset : Field → Value
  | userBio => .string ""
  | _ => .null

end Field

/-- The text in a field of the form. -/
def EditScreen.text (scr : EditScreen) : Field → String
  | .firstName => scr.firstName
  | .lastName => scr.lastName
  | .username => scr.username
  | .userBio => scr.userBio

/-- The screen with another text in one of its fields. -/
def EditScreen.enter (scr : EditScreen) (text : String) : Field → EditScreen
  | .firstName => { scr with firstName := text }
  | .lastName => { scr with lastName := text }
  | .username => { scr with username := text }
  | .userBio => { scr with userBio := text }

/-- The text that a save has captured of a field. -/
def Captured.text (c : Captured) : Field → String
  | .firstName => c.firstName
  | .lastName => c.lastName
  | .username => c.displayName
  | .userBio => c.userBio

/-- The event that puts the texts of `scr` on screen `i`. -/
def EditScreen.toEvent (scr : EditScreen) (i : Nat) : Event :=
  .touch i (.edit scr.firstName scr.lastName scr.username scr.userBio)

namespace Edit

/-! ## State -/

/-- The `owner` of a `ProfileViewController`: for whom it was read, and the document it was decoded from. -/
structure Owner where
  uid : String
  document : Document

/-- What `fetchUser`'s completion is called with. -/
def Owner.model (o : Owner) : UserModel := UserModel.ofDict o.document

/-- An Edit Profile screen: the owner it shows, and the fields the user has typed into. -/
structure Form extends Owner where
  typed : List Field := []

/-- A text somebody typed into a field and saved as theirs. -/
structure Entry where
  uid : String
  field : Field
  text : String
  deriving DecidableEq, Repr

/-- The profile system, and what has been read of it, shown by the forms and entered into them. -/
structure State where
  profile : Profile.State
  /-- What the profile screens have been brought; any of it may be on a screen that is left. -/
  owners : List Owner
  /-- The Edit Profile screens, in the order they were opened. -/
  forms : List Form
  /-- For each save the screen it was made on, as it then was. -/
  sent : List Form
  entered : List Entry

/-- Nobody has signed up. -/
def State.init : State := ⟨Profile.State.init, [], [], [], []⟩

/-- The document of the user. -/
def State.document (s : State) (uid : String) : Option Document := s.profile.users.lookup uid

/-- What happens on the profile screens, and below them. -/
inductive Event where
  /-- An event that fills no text field and reads none: the sign-up, a photo, Cancel, and the replies to requests. -/
  | below (e : Profile.Event)
  | fetchUserReply (uid : String)
  | openEdit (j : Nat)
  | typeText (i : Nat) (x : Field) (text : String)
  | saveButtonPressed (i : Nat) (currentUser : Option String)

/-! ## Steps -/

section

variable (resolve : String → Option String) (s : State)

/-- Whatever does not depend on who typed what is an event of the profile system. -/
def below : Profile.Event → Option State
  | .openEdit _ | .touch _ (.edit ..) | .saveButtonPressed .. => none
  | e => (Profile.step resolve s.profile e).map fun profile => { s with profile := profile }

/-- `fetchCurrentUser` gets its reply; no document, no reply. -/
def fetchUserReply (uid : String) : Option State :=
  match s.profile.users.whereField userIdKey (.string uid) with
  | document :: _ => some { s with owners := s.owners ++ [⟨uid, document⟩] }
  | [] => none

/-- `prepare(for:)` with an owner that has arrived, and then the screen's `updateUI`. -/
def openEdit (j : Nat) : Option State := do
  let owner ← s.owners[j]?
  let profile ← Profile.step resolve s.profile (.openEdit owner.model)
  some { s with profile := profile, forms := s.forms ++ [{ owner with typed := [] }] }

/-- The user changes the text of a field. -/
def typeText (i : Nat) (x : Field) (text : String) : Option State := do
  let scr ← s.profile.screens[i]?
  let profile ← Profile.step resolve s.profile ((scr.enter text x).toEvent i)
  some { s with
    profile := profile
    forms := s.forms.modify i fun form => { form with typed := x :: form.typed } }

/-- The Save button, with the texts that the user has typed on this form. -/
def saveButtonPressed (i : Nat) (currentUser : Option String) : Option State := do
  let form ← s.forms[i]?
  let scr ← s.profile.screens[i]?
  let profile ← Profile.step resolve s.profile (.saveButtonPressed i currentUser)
  match scr.capture currentUser with
  | none => some { s with profile := profile }
  | some c => some { s with
      profile := profile
      sent := s.sent ++ [form]
      -- what stands in the other fields, nobody has entered here
      entered := form.typed.map (fun x => ⟨c.uid, x, c.text x⟩) ++ s.entered }

/-- The screens over the profile system, one event at a time. -/
def step : Event → Option State
  | .below e => below resolve s e
  | .fetchUserReply uid => fetchUserReply s uid
  | .openEdit j => openEdit resolve s j
  | .typeText i x text => typeText resolve s i x text
  | .saveButtonPressed i currentUser => saveButtonPressed resolve s i currentUser

end

/-! ## What the profile system keeps -/

/-- The texts on the screens. -/
def texts (p : Profile.State) : List (Field → String) := p.screens.map EditScreen.text

/-- What the saves have captured. -/
def captures (p : Profile.State) : List Captured := p.saves.map (·.captured)

variable {resolve : String → Option String} {p p' : Profile.State}

theorem texts_get {i : Nat} {scr : EditScreen} (h : p.screens[i]? = some scr) : (texts p)[i]? = some scr.text := by
  unfold texts
  rw [List.getElem?_map, h]; rfl

theorem texts_modify {screens : List EditScreen} {i : Nat} {f : EditScreen → EditScreen}
    (h : ∀ scr, (f scr).text = scr.text) :
    (screens.modify i f).map EditScreen.text = screens.map EditScreen.text :=
  Slots.map_modify_self _ h screens i

theorem text_present (scr : EditScreen) (x : Presented) : (scr.present x).text = scr.text := by
  unfold EditScreen.present
  split <;> rfl

theorem text_dismiss (scr : EditScreen) : scr.dismiss.text = scr.text := by
  unfold EditScreen.dismiss
  split <;> rfl

theorem texts_showAlert (p : Profile.State) (i : Nat) (a : Alert) : texts (p.showAlert i a) = texts p :=
  texts_modify fun scr => text_present scr _

/-- A touch that is no edit changes no text. -/
theorem text_touch {scr scr' : EditScreen} {t : Touch}
    (hedit : ∀ firstName lastName username userBio, t ≠ .edit firstName lastName username userBio)
    (h : scr.touch t = some scr') : scr'.text = scr.text := by
  cases t with
  | edit => exact (hedit _ _ _ _ rfl).elim
  | profileImageButtonPressed => obtain ⟨-, h⟩ := Run.guard_bind.1 h; cases h; exact text_present scr _
  | sourceChosen => obtain ⟨-, h⟩ := Run.guard_bind.1 h; cases h; exact text_present _ _
  | actionSheetCancelled | okPressed => obtain ⟨-, h⟩ := Run.guard_bind.1 h; cases h; rfl
  | didFinishPicking imageData =>
    obtain ⟨-, h⟩ := Run.guard_bind.1 h
    cases imageData
    · cases h; rfl
    · cases h; exact text_dismiss _
  | didCancelPicking | cancelButtonPressed => obtain ⟨-, h⟩ := Run.guard_bind.1 h; cases h; exact text_dismiss scr

theorem toEvent_step {scr : EditScreen} {i : Nat} (h : Profile.step resolve p (scr.toEvent i) = some p') :
    texts p' = ((texts p).modify i fun _ => scr.text) ∧ captures p' = captures p := by
  obtain ⟨old, scr', hold, ht, rfl⟩ := touch_some h
  obtain ⟨-, ht⟩ := Run.guard_bind.1 ht
  cases ht
  refine ⟨?_, rfl⟩
  rw [Slots.modify_eq_set _ (texts_get hold), texts, List.map_set]
  rfl

/-- Save captures what it does, and changes no text and no document. -/
theorem saveButtonPressed_keeps {i : Nat} {u : Option String} (h : Profile.saveButtonPressed p i u = some p') :
    ∃ scr, p.screens[i]? = some scr ∧ texts p' = texts p ∧ captures p' = captures p ++ (scr.capture u).toList ∧
      p'.users = p.users ∧ p'.created = p.created := by
  unfold Profile.saveButtonPressed at h
  obtain ⟨scr, hscr, h⟩ := Option.bind_eq_some_iff.1 h
  obtain ⟨-, h⟩ := Run.guard_bind.1 h
  have hset : texts { p with screens := p.screens.set i { scr with saveEnabled := false } } = texts p :=
    Slots.map_set _ hscr rfl
  refine ⟨scr, hscr, ?_⟩
  dsimp only at h
  split at h
  · rename_i hc
    cases h
    rw [texts_showAlert, hset, hc, Option.toList_none, List.append_nil]
    exact ⟨rfl, rfl, rfl, rfl⟩
  · rename_i c hc
    cases h
    rw [hc]
    exact ⟨hset, List.map_append .., rfl, rfl⟩

/-- Nothing but opening a screen and typing changes the texts. -/
theorem texts_step {e : Profile.Event} (hopen : ∀ owner, e ≠ .openEdit owner)
    (hedit : ∀ i firstName lastName username userBio, e ≠ .touch i (.edit firstName lastName username userBio))
    (h : Profile.step resolve p e = some p') : texts p' = texts p := by
  cases e with
  | createUser user =>
    obtain ⟨-, -, rfl⟩ := createUser_some h
    rfl
  | createUserReply k error => obtain ⟨c, -, -, ⟨-, rfl⟩ | ⟨m, -, rfl⟩⟩ := createUserReply_some h <;> rfl
  | openEdit owner => exact absurd rfl (hopen owner)
  | touch i t =>
    obtain ⟨scr, scr', hscr, ht, rfl⟩ := touch_some h
    refine Slots.map_set _ hscr (text_touch (fun _ _ _ _ he => ?_) ht)
    exact hedit _ _ _ _ _ (by rw [he])
  | saveButtonPressed i u =>
    obtain ⟨scr, -, htexts, -⟩ := saveButtonPressed_keeps h
    exact htexts
  | uploadReply k ok =>
    obtain ⟨q, -, -, rfl⟩ := uploadReply_some h
    cases ok <;> rfl
  | downloadURLReply k reply =>
    unfold Profile.step downloadURLReply at h
    obtain ⟨q, -, h⟩ := Option.bind_eq_some_iff.1 h
    obtain ⟨-, h⟩ := Run.guard_bind.1 h
    rcases reply with message | url
    · cases h; exact texts_showAlert ..
    · obtain ⟨-, h⟩ := Run.guard_bind.1 h
      cases h
      exact texts_modify text_dismiss
  | commitReply k error =>
    obtain ⟨q, url, u, -, -, ⟨-, rfl⟩ | ⟨m, -, rfl⟩⟩ := commitReply_some h
    · rfl
    · exact texts_showAlert ..
  | updateReply k error =>
    obtain ⟨q, url, c, -, -, ⟨-, d, -, rfl⟩ | ⟨m, -, rfl⟩⟩ := updateReply_some h
    · rfl
    · exact texts_showAlert ..

/-- Nothing but Save captures anything, and what is captured stays. -/
theorem captures_step {e : Profile.Event} (hpress : ∀ i u, e ≠ .saveButtonPressed i u)
    (h : Profile.step resolve p e = some p') : captures p' = captures p := by
  have hcore := step_core h
  unfold captures
  rw [show p'.saves = p'.core.saves from rfl, show p.saves = p.core.saves from rfl]
  generalize p'.core = c' at hcore
  cases hcore with
  | pressed he => exact absurd he (hpress _ _)
  | uploaded hk _ | uploadFailed hk _ | linked hk _ _ | linkFailed _ hk _ | committed _ hk _ | commitFailed _ hk _
  | updated _ hk _ _ | updateFailed _ hk _ => exact Slots.map_set _ hk rfl
  | _ => rfl

/-! ## Readings -/

variable {s s' : State}

theorem below_some {e : Profile.Event} (h : below resolve s e = some s') :
    ∃ p', Profile.step resolve s.profile e = some p' ∧ texts p' = texts s.profile ∧
      captures p' = captures s.profile ∧ s' = { s with profile := p' } := by
  unfold below at h
  split at h
  case h_4 hopen hedit hpress =>
    obtain ⟨p', hp', rfl⟩ := Option.map_eq_some_iff.1 h
    exact ⟨p', hp', texts_step hopen hedit hp', captures_step hpress hp', rfl⟩
  all_goals cases h

theorem fetchUserReply_some {uid : String} (h : fetchUserReply s uid = some s') :
    ∃ o : Owner, o.uid = uid ∧ (s.profile.users.whereField userIdKey (.string uid)).head? = some o.document ∧
      s' = { s with owners := s.owners ++ [o] } := by
  unfold fetchUserReply at h
  split at h
  · rename_i d ds hd
    cases h
    exact ⟨⟨uid, d⟩, rfl, by rw [hd]; rfl, rfl⟩
  · cases h

theorem openEdit_some {j : Nat} (h : openEdit resolve s j = some s') :
    ∃ o, s.owners[j]? = some o ∧ s' = { s with
      profile := { s.profile with screens := s.profile.screens ++ [.ofOwner o.model] }
      forms := s.forms ++ [{ o with typed := [] }] } := by
  unfold openEdit at h
  obtain ⟨o, ho, h⟩ := Option.bind_eq_some_iff.1 h
  cases h
  exact ⟨o, ho, rfl⟩

theorem typeText_some {i : Nat} {x : Field} {text : String} (h : typeText resolve s i x text = some s') :
    ∃ scr profile, s.profile.screens[i]? = some scr ∧
      Profile.step resolve s.profile ((scr.enter text x).toEvent i) = some profile ∧ s' = { s with
        profile := profile
        forms := s.forms.modify i fun form => { form with typed := x :: form.typed } } := by
  unfold typeText at h
  obtain ⟨scr, hscr, h⟩ := Option.bind_eq_some_iff.1 h
  obtain ⟨profile, hprofile, h⟩ := Option.bind_eq_some_iff.1 h
  cases h
  exact ⟨scr, profile, hscr, hprofile, rfl⟩

theorem saveButtonPressed_some {i : Nat} {u : Option String} (h : saveButtonPressed resolve s i u = some s') :
    ∃ form scr p', s.forms[i]? = some form ∧ s.profile.screens[i]? = some scr ∧
      Profile.step resolve s.profile (.saveButtonPressed i u) = some p' ∧ texts p' = texts s.profile ∧
      p'.users = s.profile.users ∧ p'.created = s.profile.created ∧
      ((scr.capture u = none ∧ captures p' = captures s.profile ∧ s' = { s with profile := p' }) ∨
       (∃ c, scr.capture u = some c ∧ captures p' = captures s.profile ++ [c] ∧ s' = { s with
          profile := p'
          sent := s.sent ++ [form]
          entered := form.typed.map (fun x => ⟨c.uid, x, c.text x⟩) ++ s.entered })) := by
  unfold saveButtonPressed at h
  obtain ⟨form, hform, h⟩ := Option.bind_eq_some_iff.1 h
  obtain ⟨scr, hscr, h⟩ := Option.bind_eq_some_iff.1 h
  obtain ⟨p', hp', h⟩ := Option.bind_eq_some_iff.1 h
  obtain ⟨scr', hscr', htexts, hcaptures, husers, hcreated⟩ := saveButtonPressed_keeps hp'
  rw [hscr] at hscr'
  cases hscr'
  refine ⟨form, scr, p', hform, hscr, hp', htexts, husers, hcreated, ?_⟩
  split at h
  · rename_i hc
    cases h
    rw [hc, Option.toList_none, List.append_nil] at hcaptures
    exact Or.inl ⟨hc, hcaptures, rfl⟩
  · rename_i c hc
    cases h
    rw [hc, Option.toList_some] at hcaptures
    exact Or.inr ⟨c, hc, hcaptures, rfl⟩

/-! ## The runs are runs of the profile system -/

theorem step_profile {e : Event} (h : step resolve s e = some s') :
    s'.profile = s.profile ∨ ∃ e', Profile.step resolve s.profile e' = some s'.profile := by
  cases e with
  | below e =>
    obtain ⟨p', hp', -, -, rfl⟩ := below_some h
    exact Or.inr ⟨e, hp'⟩
  | fetchUserReply uid =>
    obtain ⟨o, -, -, rfl⟩ := fetchUserReply_some h
    exact Or.inl rfl
  | openEdit j =>
    obtain ⟨o, -, rfl⟩ := openEdit_some h
    exact Or.inr ⟨.openEdit o.model, rfl⟩
  | typeText i x text =>
    obtain ⟨scr, p', -, hp', rfl⟩ := typeText_some h
    exact Or.inr ⟨_, hp'⟩
  | saveButtonPressed i u =>
    obtain ⟨form, scr, p', -, -, hp', -, -, -, ⟨-, -, rfl⟩ | ⟨c, -, -, rfl⟩⟩ := saveButtonPressed_some h
    · exact Or.inr ⟨_, hp'⟩
    · exact Or.inr ⟨_, hp'⟩

/-- What every step of the profile system keeps, the screens' own steps keep. -/
theorem step_inv {I : Profile.State → Prop} (hstep : ∀ p e p', I p → Profile.step resolve p e = some p' → I p')
    {e : Event} (hi : I s.profile) (h : step resolve s e = some s') : I s'.profile := by
  rcases step_profile h with heq | ⟨e', he'⟩
  · rw [heq]
    exact hi
  · exact hstep _ e' _ hi he'

/-- Whatever the screens do, the store and the account have been through a run of the profile system. -/
theorem exec_profile {es : List Event} (h : Run.exec (step resolve) State.init es = some s) :
    ∃ es', Run.exec (Profile.step resolve) Profile.State.init es' = some s.profile := by
  refine Run.exec_inv (I := fun s => ∃ es', Run.exec (Profile.step resolve) Profile.State.init es' = some s.profile)
    (fun s e s' hi hs => ?_) ⟨[], rfl⟩ h
  refine step_inv (I := fun p => ∃ es', Run.exec (Profile.step resolve) Profile.State.init es' = some p) ?_ hi hs
  rintro p e p' ⟨es', hes'⟩ he
  exact ⟨es' ++ [e], Run.exec_concat.2 ⟨p, hes', he⟩⟩

end Edit

end PetIT.Profile
