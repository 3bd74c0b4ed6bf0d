/-
The keyboard over the Add Job Post form. While a text field is edited the two fields stand above the keyboard;
one flag, of the input that began editing last, says whether to lift them and whether to put them back. UIKit
posts its notifications to the form only while the form observes them, in whatever order they come.
-/
import PetIT.Form.System
import PetIT.Run.Basic

namespace PetIT.Form.Keyboard

/-! ## State -/

/-- A `CGAffineTransform` that only moves. -/
structure CGAffineTransform where
  tx : ℚ
  ty : ℚ
  deriving DecidableEq, Repr

/-- `CGAffineTransform.identity` -/
def CGAffineTransform.identity : CGAffineTransform := ⟨0, 0⟩

/-- `CGAffineTransform(translationX:y:)` -/
def CGAffineTransform.translation (x y : ℚ) : CGAffineTransform := ⟨x, y⟩

/-- The controller, as it is loaded, and what UIKit knows of it. -/
structure State where
  isTextView : Bool := true
  timeFrame : CGAffineTransform := .identity
  wages : CGAffineTransform := .identity
  /-- The form observes the keyboard's notifications. -/
  registered : Bool := false
  visible : Bool := false
  keyboardShown : Bool := false
  firstResponder : Option Field := none
  /-- The inputs whose did-begin-editing callback is still to come. -/
  beginning : List Field := []
  deriving DecidableEq, Repr

/-- A callback of the view's life, a step of the user's editing, or a notification of UIKit's. -/
inductive Event where
  | viewWillAppear
  | viewWillDisappear
  | becomeFirstResponder (field : Field)
  | didBeginEditing
  | returnPressed
  | endEditing
  | willShow (keyboardFrame : Option ℚ)
  | willHide

/-! ## The controller -/

/-- `registerKeyboardNotifications` -/
def registerKeyboardNotifications (s : State) : State := { s with registered := true }

/-- `unregisterKeyboardNofications`, under the source's name -/
def unregisterKeyboardNofications (s : State) : State := { s with registered := false }

/-- The height of the frame in `userInfo`, if there is one. -/
def willShowKeyboard (s : State) (keyboardFrame : Option ℚ) : State :=
  match keyboardFrame with
  | none => s
  | some height =>
    if s.isTextView then s
    else { s with timeFrame := .translation 0 (-height), wages := .translation 0 (-height) }

/-- The observer of `keyboardWillHideNotification`. -/
def willHideKeyboard (s : State) : State :=
  if s.isTextView then s else { s with timeFrame := .identity, wages := .identity }

/-- `textViewDidBeginEditing`, as far as the keyboard goes -/
def textViewDidBeginEditing (s : State) : State := { s with isTextView := true }

/-- `textFieldDidBeginEditing` -/
def textFieldDidBeginEditing (s : State) : State := { s with isTextView := false }

/-! ## UIKit -/

/-- The keyboard is shown, or shown again at another height. -/
def State.show (s : State) (keyboardFrame : Option ℚ) : State :=
  { if s.registered then willShowKeyboard s keyboardFrame else s with keyboardShown := true }

/-- The keyboard is hidden, once whatever has begun editing has been told so. -/
def State.hide (s : State) : Option State := do
  guard (s.beginning = [])
  some { if s.registered then willHideKeyboard s else s with keyboardShown := false }

/-- The notification is posted before the call returns. -/
def State.resignFirstResponder (s : State) : Option State :=
  (if s.keyboardShown then s.hide else some s).map fun s => { s with firstResponder := none }

/-- `textFieldShouldReturn`, or the line break a text view is asked about in `shouldChangeTextIn`. -/
def returnPressed (s : State) : Option State := do
  guard (s.firstResponder.isSome = true)
  let s ← s.resignFirstResponder
  some { s with isTextView := true }

/-- The next callback, of a text view or of a text field. -/
def didBeginEditing (s : State) : Option State :=
  match s.beginning with
  | [] => none
  | .view _ :: beginning => some (textViewDidBeginEditing { s with beginning := beginning })
  | _ :: beginning => some (textFieldDidBeginEditing { s with beginning := beginning })

/-- The form and its keyboard, one event at a time. -/
def step (s : State) : Event → Option State
  | .viewWillAppear => some { registerKeyboardNotifications s with visible := true }
  | .viewWillDisappear => some { unregisterKeyboardNofications s with visible := false }
  | .becomeFirstResponder field => some { s with firstResponder := some field, beginning := s.beginning ++ [field] }
  | .didBeginEditing => didBeginEditing s
  | .returnPressed => returnPressed s
  | .endEditing => s.resignFirstResponder
  | .willShow keyboardFrame => some (s.show keyboardFrame)
  | .willHide => s.hide

/-! ## Fields in place -/

/-- Both fields are where they belong. -/
def State.InPlace (s : State) : Prop := s.timeFrame = .identity ∧ s.wages = .identity

instance (s : State) : Decidable s.InPlace := inferInstanceAs (Decidable (_ ∧ _))

/-- With the keyboard gone, the visible form has its fields in place. -/
def Returned (s : State) : Prop := s.visible = true → s.keyboardShown = false → s.InPlace

instance (s : State) : Decidable (Returned s) := inferInstanceAs (Decidable (_ → _ → _))

/-- The next hide that the form observes puts the fields back, if they need it: the input that began editing
last is a text field. -/
def State.Lowers (s : State) : Prop := s.isTextView = false ∨ s.InPlace

instance (s : State) : Decidable s.Lowers := inferInstanceAs (Decidable (_ ∨ _))

/-- The keyboard is not hidden over lifted fields while the flag is that of a text view, and the form does not
come back without a keyboard after it was left with lifted fields. -/
def Careful (s : State) : Event → Prop
  | .willHide => s.visible = true → s.Lowers
  | .returnPressed | .endEditing => s.visible = true → s.keyboardShown = true → s.Lowers
  | .viewWillAppear => s.keyboardShown = false → s.InPlace
  | _ => True

instance (s : State) : (e : Event) → Decidable (Careful s e)
  | .willHide => inferInstanceAs (Decidable (s.visible = true → s.Lowers))
  | .returnPressed | .endEditing => inferInstanceAs (Decidable (s.visible = true → s.keyboardShown = true → s.Lowers))
  | .viewWillAppear => inferInstanceAs (Decidable (s.keyboardShown = false → s.InPlace))
  | .viewWillDisappear | .becomeFirstResponder _ | .didBeginEditing | .willShow _ => .isTrue trivial

/-! ## Each notification -/

variable {s s' : State}

/-- The handlers move the two fields and change nothing else. -/
theorem willHideKeyboard_eq (s : State) : ∃ timeFrame wages,
    willHideKeyboard s = { s with timeFrame := timeFrame, wages := wages } := by
  unfold willHideKeyboard
  split
  · exact ⟨s.timeFrame, s.wages, rfl⟩
  · exact ⟨_, _, rfl⟩

theorem willShowKeyboard_eq (s : State) (keyboardFrame : Option ℚ) : ∃ timeFrame wages,
    willShowKeyboard s keyboardFrame = { s with timeFrame := timeFrame, wages := wages } := by
  unfold willShowKeyboard
  split
  · exact ⟨s.timeFrame, s.wages, rfl⟩
  · split
    · exact ⟨s.timeFrame, s.wages, rfl⟩
    · exact ⟨_, _, rfl⟩

/-- The notification puts the fields back, or finds them in place. -/
theorem willHideKeyboard_inPlace (s : State) : (willHideKeyboard s).InPlace ↔ s.Lowers := by
  unfold willHideKeyboard State.Lowers
  cases h : s.isTextView
  · exact ⟨fun _ => Or.inl rfl, fun _ => ⟨rfl, rfl⟩⟩
  · simp

/-- A text view lifts nothing. -/
theorem willShowKeyboard_textView (keyboardFrame : Option ℚ) (h : s.isTextView = true) :
    willShowKeyboard s keyboardFrame = s := by
  unfold willShowKeyboard
  split
  · rfl
  · rw [if_pos h]

theorem hide_some (h : s.hide = some s') : s.beginning = [] ∧ s'.visible = s.visible ∧
    s'.registered = s.registered ∧ s'.keyboardShown = false ∧
    (s'.InPlace ↔ if s.registered then s.Lowers else s.InPlace) := by
  unfold State.hide at h
  obtain ⟨hb, h⟩ := Run.guard_bind.1 h
  cases h
  refine ⟨hb, ?_⟩
  cases hr : s.registered
  · exact ⟨rfl, hr, rfl, Iff.rfl⟩
  · obtain ⟨timeFrame, wages, heq⟩ := willHideKeyboard_eq s
    have hv : (willHideKeyboard s).visible = s.visible := by rw [heq]
    have hr' : (willHideKeyboard s).registered = true := by rw [heq]; exact hr
    exact ⟨hv, hr', rfl, willHideKeyboard_inPlace s⟩

theorem resignFirstResponder_some (h : s.resignFirstResponder = some s') : ∃ t,
    (if s.keyboardShown then s.hide else some s) = some t ∧ s' = { t with firstResponder := none } := by
  unfold State.resignFirstResponder at h
  obtain ⟨t, ht, rfl⟩ := Option.map_eq_some_iff.1 h
  exact ⟨t, ht, rfl⟩

theorem returnPressed_some (h : returnPressed s = some s') : ∃ t, s.resignFirstResponder = some t ∧
    s' = { t with isTextView := true } := by
  unfold returnPressed at h
  obtain ⟨-, h⟩ := Run.guard_bind.1 h
  obtain ⟨t, ht, h⟩ := Option.bind_eq_some_iff.1 h
  cases h
  exact ⟨t, ht, rfl⟩

/-- A callback changes the flag and nothing else of the form. -/
theorem didBeginEditing_some (h : didBeginEditing s = some s') : ∃ field beginning, s.beginning = field :: beginning ∧
    s' = { s with
      isTextView := match field with
        | .view _ => true
        | _ => false
      beginning := beginning } := by
  unfold didBeginEditing at h
  split at h
  · cases h
  · rename_i view beginning hb
    cases h
    exact ⟨.view view, beginning, hb, rfl⟩
  · rename_i field beginning hf hb
    cases h
    refine ⟨field, beginning, hb, ?_⟩
    cases field with
    | view v => exact (hf v rfl).elim
    | timeFrame => rfl
    | wages => rfl

/-! ## The form comes back to order exactly after careful steps -/

/-- The form observes the keyboard exactly while it is visible. -/
def Observed (s : State) : Prop := s.registered = s.visible

theorem Observed.step {e : Event} (hi : Observed s) (h : step s e = some s') : Observed s' := by
  have hresign : ∀ {t}, s.resignFirstResponder = some t → Observed t := by
    intro t ht
    obtain ⟨u, hu, rfl⟩ := resignFirstResponder_some ht
    split at hu
    · obtain ⟨-, hv, hr, -, -⟩ := hide_some hu
      exact hr.trans (hi.trans hv.symm)
    · cases hu; exact hi
  cases e with
  | viewWillAppear => cases h; rfl
  | viewWillDisappear => cases h; rfl
  | becomeFirstResponder field => cases h; exact hi
  | didBeginEditing =>
    obtain ⟨field, beginning, -, rfl⟩ := didBeginEditing_some h
    exact hi
  | returnPressed =>
    obtain ⟨t, ht, rfl⟩ := returnPressed_some h
    have hobs : Observed t := hresign ht
    exact hobs
  | endEditing => exact hresign h
  | willShow keyboardFrame =>
    cases h
    unfold State.show
    split
    · obtain ⟨timeFrame, wages, heq⟩ := willShowKeyboard_eq s keyboardFrame
      rw [heq]
      exact hi
    · exact hi
  | willHide =>
    obtain ⟨-, hv, hr, -, -⟩ := hide_some h
    exact hr.trans (hi.trans hv.symm)

/-- A hide leaves the visible form in order exactly when it puts the fields back. -/
theorem hide_returned (hi : Observed s) (h : s.hide = some s') : Returned s' ↔ (s.visible = true → s.Lowers) := by
  obtain ⟨-, hv, -, hs, hp⟩ := hide_some h
  unfold Returned
  rw [hv, hp, hi]
  constructor
  · intro hret hvis
    have hret := hret hvis hs
    rw [if_pos hvis] at hret
    exact hret
  · intro hlow hvis _
    rw [if_pos hvis]
    exact hlow hvis

theorem resign_returned (hi : Observed s) (hp : Returned s) (h : s.resignFirstResponder = some s') :
    Returned s' ↔ (s.visible = true → s.keyboardShown = true → s.Lowers) := by
  obtain ⟨t, ht, rfl⟩ := resignFirstResponder_some h
  split at ht
  · rename_i hs
    have hret : Returned t ↔ (s.visible = true → s.Lowers) := hide_returned hi ht
    refine Iff.trans hret ?_
    constructor
    · exact fun hlow hvis _ => hlow hvis
    · exact fun hlow hvis => hlow hvis hs
  · rename_i hs
    cases ht
    exact iff_of_true hp fun _ hs' => absurd hs' hs

theorem step_returned {e : Event} (hi : Observed s) (hp : Returned s) (h : step s e = some s') :
    Returned s' ↔ Careful s e := by
  cases e with
  | viewWillAppear =>
    cases h
    exact ⟨fun h => h rfl, fun h _ => h⟩
  | viewWillDisappear =>
    cases h
    exact iff_of_true (fun hvis => by cases hvis) trivial
  | becomeFirstResponder field =>
    cases h
    exact iff_of_true hp trivial
  | didBeginEditing =>
    obtain ⟨field, beginning, -, rfl⟩ := didBeginEditing_some h
    exact iff_of_true hp trivial
  | returnPressed =>
    obtain ⟨t, ht, rfl⟩ := returnPressed_some h
    have hret : Returned t ↔ (s.visible = true → s.keyboardShown = true → s.Lowers) := resign_returned hi hp ht
    exact hret
  | endEditing => exact resign_returned hi hp h
  | willShow keyboardFrame =>
    cases h
    exact iff_of_true (fun _ hs => by cases hs) trivial
  | willHide => exact hide_returned hi h

/-- The fields are back in place in every state of a run in which the keyboard is hidden and the form visible,
exactly when every step of the run is careful. -/
theorem fields_return (es : List Event) :
    Run.Always step Returned ({} : State) es ↔ Run.Guarded step Careful ({} : State) es :=
  Run.always_iff_guarded (I := Observed) (fun _ _ _ hi _ _ hs => hi.step hs)
    (fun _ _ _ hi hp hs => step_returned hi hp hs) rfl fun hvis => by cases hvis

/-! ## A condition on focus alone -/

/-- No text view begins editing, and the form is not left, while the fields are lifted. -/
def Calm (s : State) : Event → Prop
  | .didBeginEditing => (∃ view beginning, s.beginning = .view view :: beginning) → s.InPlace
  | .viewWillDisappear => s.InPlace
  | _ => True

/-- Lifted fields stand over a keyboard that a text field of the visible form has brought up. -/
structure Settled (s : State) : Prop where
  observed : Observed s
  lifted : s.InPlace ∨ (s.isTextView = false ∧ s.visible = true ∧ s.keyboardShown = true)

theorem Settled.returned (hi : Settled s) : Returned s := by
  rintro - hs
  rcases hi.lifted with hp | ⟨-, -, hs'⟩
  · exact hp
  · rw [hs] at hs'; cases hs'

theorem Settled.hide (hi : Settled s) (h : s.hide = some s') : s'.InPlace := by
  obtain ⟨-, -, -, -, hp⟩ := hide_some h
  rw [hp, hi.observed]
  split
  · rcases hi.lifted with hp | ⟨hf, -, -⟩
    · exact Or.inr hp
    · exact Or.inl hf
  · rename_i hvis
    exact hi.lifted.resolve_right fun h => hvis h.2.1

theorem Settled.resign (hi : Settled s) (h : s.resignFirstResponder = some s') : s'.InPlace := by
  obtain ⟨t, ht, rfl⟩ := resignFirstResponder_some h
  split at ht
  · have hp : t.InPlace := hi.hide ht
    exact hp
  · rename_i hs
    cases ht
    exact hi.lifted.resolve_right fun h => hs h.2.2

theorem Settled.step {e : Event} (hi : Settled s) (hc : Calm s e) (h : step s e = some s') : Settled s' := by
  refine ⟨hi.observed.step h, ?_⟩
  cases e with
  | viewWillAppear =>
    cases h
    exact hi.lifted.imp_right fun h => ⟨h.1, rfl, h.2.2⟩
  | viewWillDisappear => cases h; exact Or.inl hc
  | becomeFirstResponder field => cases h; exact hi.lifted
  | didBeginEditing =>
    obtain ⟨field, beginning, hb, rfl⟩ := didBeginEditing_some h
    cases field with
    | view view => exact Or.inl (hc ⟨view, beginning, hb⟩)
    | timeFrame | wages => exact hi.lifted.imp_right fun h => ⟨rfl, h.2⟩
  | returnPressed =>
    obtain ⟨t, ht, rfl⟩ := returnPressed_some h
    have hp : t.InPlace := hi.resign ht
    exact Or.inl hp
  | endEditing => exact Or.inl (hi.resign h)
  | willShow keyboardFrame =>
    cases h
    unfold State.show
    split
    · rename_i hr
      cases hf : s.isTextView
      · obtain ⟨timeFrame, wages, heq⟩ := willShowKeyboard_eq s keyboardFrame
        rw [heq]
        exact Or.inr ⟨hf, hi.observed.symm.trans hr, rfl⟩
      · rw [willShowKeyboard_textView _ hf]
        exact Or.inl (hi.lifted.resolve_right fun h => by rw [hf] at h; cases h.1)
    · rename_i hr
      exact Or.inl (hi.lifted.resolve_right fun h => hr (hi.observed.trans h.2.1))
  | willHide => exact Or.inl (hi.hide h)

/-- Where no text view is focused and the form is not left under lifted fields, they are always put back. -/
theorem always_returned_of_calm {es : List Event} (h : Run.Guarded step Calm ({} : State) es) :
    Run.Always step Returned ({} : State) es :=
  Run.always_of_guarded (I := Settled) (fun _ hi => hi.returned) (fun _ _ _ hi hc hs => hi.step hc hs)
    ⟨rfl, Or.inl ⟨rfl, rfl⟩⟩ h

/-! ## Runs that go wrong -/

/-- The form appears, and the keyboard comes up for the wages. -/
def editWages : List Event := [.viewWillAppear, .becomeFirstResponder .wages, .didBeginEditing, .willShow (some 260)]

/-- From the wages into a text view, and Return there; and from the wages to the location screen and back. -/
theorem fields_stay_lifted :
    ¬ Run.Always step Returned ({} : State)
      (editWages ++ [.becomeFirstResponder (.view .petBio), .didBeginEditing, .returnPressed]) ∧
    ¬ Run.Always step Returned ({} : State)
      (editWages ++ [.viewWillDisappear, .endEditing, .viewWillAppear]) := by
  decide

end PetIT.Form.Keyboard
