/-
The Save button. A press disables it before the fields are looked at, and only the reply that brings the URL of the
photo enables it again, while both writes are sent and the form dismisses what it has presented, or else itself. So
the button of a form on display tells whether a save is running in exactly the runs in which no press misses a field,
no photo of such a form fails to arrive, and none arrives while an alert, an action sheet or the image picker covers
the form. After a missing field or a photo that fails the button stays disabled, and nothing is running; a form that
was covered stays, with its button enabled and both writes on their way.
-/
import PetIT.Profile.Step

namespace PetIT.Profile

/-! ## Definitions -/

/-- A save started from the screen has a request in flight. -/
def Pending (saves : List Save) (i : Nat) : Prop :=
  ∃ k : Nat, ∃ p : Save, saves[k]? = some p ∧ p.screen = i ∧ ¬ p.Settled

/-- The Save button, and whether its form is gone. -/
structure Button where
  enabled : Bool
  dismissed : Bool
  deriving DecidableEq

/-- The Save button of a form. -/
def EditScreen.button (scr : EditScreen) : Button := ⟨scr.saveEnabled, scr.dismissed⟩

/-- The Save buttons of all forms. -/
def State.buttons (s : State) : List Button := s.screens.map EditScreen.button

/-- The button is that of a screen on display, or the screens that are gone are looked at too. -/
def Button.Counts (gone : Bool) (b : Button) : Prop := gone = true ∨ b.dismissed = false

/-- The Save button is disabled exactly while a save is running. -/
def ButtonAgrees (gone : Bool) (s : State) : Prop :=
  ∀ i b, s.buttons[i]? = some b → b.Counts gone → (b.enabled = false ↔ Pending s.saves i)

/-- The form is on display, under something that it has presented. -/
def EditScreen.Covered (scr : EditScreen) : Prop := scr.dismissed = false ∧ scr.presented.isSome = true

/-- Nothing covers the form of the save. -/
def State.Uncovered (s : State) (k : Nat) : Prop := ∀ p ∈ s.saves[k]?, ∀ scr ∈ s.screens[p.screen]?, ¬ scr.Covered

/-- The screen of the save does not count. -/
def State.Unseen (gone : Bool) (s : State) (k : Nat) : Prop :=
  ∀ p ∈ s.saves[k]?, ∀ b ∈ s.buttons[p.screen]?, ¬ b.Counts gone

/-- A press misses no field, no photo of a screen that counts fails to arrive, and none arrives while its form is
covered; if the screens that are gone count, none arrives at all, for then the button is enabled and the writes have
just been sent. -/
def KeepsButton (gone : Bool) (s : State) : Event → Prop
  | .saveButtonPressed i currentUser => ∀ scr ∈ s.screens[i]?, (scr.capture currentUser).isSome
  | .uploadReply k ok => ok = true ∨ s.Unseen gone k
  | .downloadURLReply k (.error _) => s.Unseen gone k
  | .downloadURLReply k (.ok _) => gone = false ∧ s.Uncovered k
  | _ => True

/-! ## Pending saves -/

variable {saves : List Save} {k : Nat} {p q : Save}

theorem pending_concat {i j : Nat} {cap : Captured} :
    Pending (saves ++ [⟨i, cap, .uploading⟩]) j ↔ Pending saves j ∨ j = i := by
  constructor
  · rintro ⟨k, q, hk, hj, hq⟩
    rcases Slots.concat_cases hk with hk | ⟨-, rfl⟩
    · exact Or.inl ⟨k, q, hk, hj, hq⟩
    · exact Or.inr hj.symm
  · rintro (⟨k, q, hk, hj, hq⟩ | rfl)
    · exact ⟨k, q, Slots.getElem?_concat_of_some hk, hj, hq⟩
    · exact ⟨_, _, Slots.getElem?_concat_self _ _, rfl, id⟩

/-- What becomes of one save is nothing to the other screens. -/
theorem pending_set_of_ne (hk : saves[k]? = some p) (hq : q.screen = p.screen) {j : Nat} (hj : j ≠ p.screen) :
    Pending (saves.set k q) j ↔ Pending saves j := by
  constructor
  · rintro ⟨i, r, hi, hr, hs⟩
    rcases Slots.set_cases hi with ⟨-, rfl⟩ | ⟨-, hi⟩
    · exact absurd (hr.symm.trans hq) hj
    · exact ⟨i, r, hi, hr, hs⟩
  · rintro ⟨i, r, hi, hr, hs⟩
    have hne : k ≠ i := by
      rintro rfl
      rw [hk] at hi; cases hi; exact hj hr.symm
    exact ⟨i, r, by rw [List.getElem?_set_ne hne, hi], hr, hs⟩

theorem pending_set_self (hk : saves[k]? = some p) (hq : q.screen = p.screen) (hs : ¬ q.Settled) :
    Pending (saves.set k q) p.screen := ⟨k, q, Slots.getElem?_set_self hk, hq, hs⟩

/-- As long as a save goes on, nothing changes. -/
theorem pending_set (hk : saves[k]? = some p) (hp : ¬ p.Settled) (hq : q.screen = p.screen) (hs : ¬ q.Settled)
    (j : Nat) :
    Pending (saves.set k q) j ↔ Pending saves j := by
  by_cases hj : j = p.screen
  · subst hj
    exact iff_of_true (pending_set_self hk hq hs) ⟨k, p, hk, rfl, hp⟩
  · exact pending_set_of_ne hk hq hj

/-! ## What an event does to the buttons -/

/-- What an event makes of the buttons and the saves behind them. -/
inductive ButtonStep (s s' : State) : Event → Prop
  | idle {e : Event} (hk : ∀ gone, KeepsButton gone s e) (hb : s'.buttons = s.buttons) (hs : s'.saves = s.saves) :
      ButtonStep s s' e
  | opened {owner : UserModel} (hb : s'.buttons = s.buttons ++ [⟨true, false⟩]) (hs : s'.saves = s.saves) :
      ButtonStep s s' (.openEdit owner)
  | touched {i : Nat} {t : Touch} {b c : Button} (hi : s.buttons[i]? = some b) (he : c.enabled = b.enabled)
      (hd : b.dismissed = true → c.dismissed = true) (hb : s'.buttons = s.buttons.set i c)
      (hs : s'.saves = s.saves) : ButtonStep s s' (.touch i t)
  | missing {i : Nat} {u : Option String} {scr : EditScreen} (hscr : s.screens[i]? = some scr)
      (hbtn : scr.button = ⟨true, false⟩) (hc : scr.capture u = none)
      (hb : s'.buttons = s.buttons.set i ⟨false, false⟩) (hs : s'.saves = s.saves) :
      ButtonStep s s' (.saveButtonPressed i u)
  | pressed {i : Nat} {u : Option String} {scr : EditScreen} {cap : Captured} (hscr : s.screens[i]? = some scr)
      (hbtn : scr.button = ⟨true, false⟩) (hc : scr.capture u = some cap)
      (hb : s'.buttons = s.buttons.set i ⟨false, false⟩) (hs : s'.saves = s.saves ++ [⟨i, cap, .uploading⟩]) :
      ButtonStep s s' (.saveButtonPressed i u)
  | uploaded {k : Nat} {p : Save} (hk : s.saves[k]? = some p) (hp : p.phase = .uploading)
      (hb : s'.buttons = s.buttons) (hs : s'.saves = s.saves.set k { p with phase := .fetchingURL }) :
      ButtonStep s s' (.uploadReply k true)
  | failed {e : Event} {k : Nat} {p : Save} (he : e = .uploadReply k false ∨ ∃ m, e = .downloadURLReply k (.error m))
      (hk : s.saves[k]? = some p) (hp : p.phase = .uploading ∨ p.phase = .fetchingURL)
      (hb : s'.buttons = s.buttons) (hs : s'.saves = s.saves.set k { p with phase := .failed }) : ButtonStep s s' e
  | linked {k : Nat} {p : Save} {url : String} {g : Bool} (hk : s.saves[k]? = some p)
      (hp : p.phase = .fetchingURL) (hu : s.Uncovered k ↔ g = true)
      (hb : s'.buttons = s.buttons.modify p.screen fun _ => ⟨true, g⟩)
      (hs : s'.saves = s.saves.set k { p with phase := .writing url .inFlight .inFlight }) :
      ButtonStep s s' (.downloadURLReply k (.ok url))
  | wrote {e : Event} {k : Nat} {p : Save} {url : String} {commit update commit' update' : Half}
      (hkeep : ∀ gone, KeepsButton gone s e) (hk : s.saves[k]? = some p) (hp : p.phase = .writing url commit update)
      (hn : ¬ p.Settled) (hb : s'.buttons = s.buttons)
      (hs : s'.saves = s.saves.set k { p with phase := .writing url commit' update' }) : ButtonStep s s' e

theorem buttons_modify_self {screens : List EditScreen} {i : Nat} {f : EditScreen → EditScreen}
    (h : ∀ scr, (f scr).button = scr.button) :
    (screens.modify i f).map EditScreen.button = screens.map EditScreen.button :=
  Slots.map_modify_self _ h screens i

@[simp] theorem buttons_showAlert (s : State) (i : Nat) (a : Alert) : (s.showAlert i a).buttons = s.buttons := by
  refine buttons_modify_self fun scr => ?_
  unfold EditScreen.showAlert EditScreen.present
  split <;> rfl

/-- A touch leaves the Save button alone, and brings no form back. -/
theorem touch_button {scr scr' : EditScreen} {t : Touch} (h : scr.touch t = some scr') :
    scr'.saveEnabled = scr.saveEnabled ∧ (scr.dismissed = true → scr'.dismissed = true) := by
  have hpresent : ∀ (scr : EditScreen) (p : Presented), (scr.present p).saveEnabled = scr.saveEnabled ∧
      (scr.dismissed = true → (scr.present p).dismissed = true) := by
    intro scr p
    unfold EditScreen.present
    split <;> exact ⟨rfl, id⟩
  have hdismiss : ∀ scr : EditScreen, scr.dismiss.saveEnabled = scr.saveEnabled ∧
      (scr.dismissed = true → scr.dismiss.dismissed = true) := by
    intro scr
    unfold EditScreen.dismiss
    split
    · exact ⟨rfl, id⟩
    · exact ⟨rfl, fun _ => rfl⟩
  cases t with
  | edit => obtain ⟨-, h⟩ := Run.guard_bind.1 h; cases h; exact ⟨rfl, id⟩
  | profileImageButtonPressed => obtain ⟨-, h⟩ := Run.guard_bind.1 h; cases h; exact hpresent scr _
  | sourceChosen => obtain ⟨-, h⟩ := Run.guard_bind.1 h; cases h; exact hpresent _ _
  | actionSheetCancelled | okPressed => obtain ⟨-, h⟩ := Run.guard_bind.1 h; cases h; exact ⟨rfl, id⟩
  | didFinishPicking imageData =>
    obtain ⟨-, h⟩ := Run.guard_bind.1 h
    cases imageData
    · cases h; exact ⟨rfl, id⟩
    · cases h; exact hdismiss _
  | didCancelPicking | cancelButtonPressed => obtain ⟨-, h⟩ := Run.guard_bind.1 h; cases h; exact hdismiss scr

/-- A form that nothing covers is gone once it has dismissed. -/
theorem dismissed_dismiss {scr : EditScreen} : scr.dismiss.dismissed = true ↔ ¬ scr.Covered := by
  unfold EditScreen.dismiss EditScreen.Covered
  by_cases hp : scr.presented.isSome = true
  · rw [if_pos hp]
    simp [hp]
  · rw [if_neg hp]
    simp [hp]

theorem saveButtonPressed_step {s s' : State} {i : Nat} {u : Option String} (h : saveButtonPressed s i u = some s') :
    ButtonStep s s' (.saveButtonPressed i u) := by
  unfold saveButtonPressed at h
  obtain ⟨scr, hscr, h⟩ := Option.bind_eq_some_iff.1 h
  obtain ⟨⟨h1, h2⟩, h⟩ := Run.guard_bind.1 h
  have hbtn : scr.button = ⟨true, false⟩ := by unfold EditScreen.button; rw [h1, h2.1]
  have hset : (s.screens.set i { scr with saveEnabled := false }).map EditScreen.button =
      s.buttons.set i ⟨false, false⟩ := by
    rw [List.map_set]
    unfold EditScreen.button State.buttons
    rw [h2.1]; rfl
  dsimp only at h
  split at h
  case h_1 hc =>
    cases h
    exact .missing hscr hbtn hc (by rw [buttons_showAlert]; exact hset) rfl
  case h_2 cap hc => cases h; exact .pressed hscr hbtn hc hset rfl

/-- The form of the save dismisses what it has presented, or itself. -/
theorem linked_step {s : State} {k : Nat} {p : Save} {url : String} (hk : s.saves[k]? = some p)
    (hp : p.phase = .fetchingURL) : ButtonStep s
      { s.setPhase k p (.writing url .inFlight .inFlight) with
        screens := s.screens.modify p.screen fun scr => { scr.dismiss with saveEnabled := true } }
      (.downloadURLReply k (.ok url)) := by
  have hu : s.Uncovered k ↔ ∀ scr ∈ s.screens[p.screen]?, ¬ scr.Covered := by
    unfold State.Uncovered
    rw [hk]; simp
  rcases hscr : s.screens[p.screen]? with _ | scr
  · refine .linked (g := true) hk hp ?_ ?_ rfl
    · rw [hu, hscr]; simp
    · show (s.screens.modify _ _).map _ = (s.screens.map _).modify _ _
      rw [List.modify_eq_self (List.getElem?_eq_none_iff.1 hscr),
        List.modify_eq_self (by rw [List.length_map]; exact List.getElem?_eq_none_iff.1 hscr)]
  · refine .linked (g := scr.dismiss.dismissed) hk hp ?_ ?_ rfl
    · rw [hu, hscr, dismissed_dismiss]; simp
    · show (s.screens.modify _ _).map _ = (s.screens.map _).modify _ _
      have hbtn : (s.screens.map EditScreen.button)[p.screen]? = some scr.button := by
        rw [List.getElem?_map, hscr]; rfl
      rw [Slots.modify_eq_set _ hscr, List.map_set, Slots.modify_eq_set _ hbtn]
      rfl

theorem step_button {resolve : String → Option String} {s s' : State} {e : Event} (h : step resolve s e = some s') :
    ButtonStep s s' e := by
  cases e with
  | createUser user =>
    obtain ⟨-, -, rfl⟩ := createUser_some h
    exact .idle (fun _ => trivial) rfl rfl
  | createUserReply k error =>
    obtain ⟨c, -, -, ⟨-, rfl⟩ | ⟨m, -, rfl⟩⟩ := createUserReply_some h <;> exact .idle (fun _ => trivial) rfl rfl
  | openEdit owner => cases h; exact .opened (List.map_append ..) rfl
  | touch i t =>
    obtain ⟨scr, scr', hscr, ht, rfl⟩ := touch_some h
    have ⟨he, hd⟩ := touch_button ht
    have hi : s.buttons[i]? = some scr.button := by rw [State.buttons, List.getElem?_map, hscr]; rfl
    exact .touched (c := scr'.button) hi he hd List.map_set rfl
  | saveButtonPressed i u => exact saveButtonPressed_step h
  | uploadReply k ok =>
    obtain ⟨p, hk, hp, rfl⟩ := uploadReply_some h
    cases ok
    · exact .failed (Or.inl rfl) hk (Or.inl hp) rfl rfl
    · exact .uploaded hk hp rfl rfl
  | downloadURLReply k reply =>
    unfold step downloadURLReply at h
    obtain ⟨p, hk, h⟩ := Option.bind_eq_some_iff.1 h
    obtain ⟨hp, h⟩ := Run.guard_bind.1 h
    rcases reply with message | url
    · cases h; exact .failed (Or.inr ⟨message, rfl⟩) hk (Or.inr hp) (buttons_showAlert ..) rfl
    · obtain ⟨-, h⟩ := Run.guard_bind.1 h
      cases h
      exact linked_step hk hp
  | commitReply k error =>
    obtain ⟨p, url, u, hk, hp, ⟨-, rfl⟩ | ⟨m, -, rfl⟩⟩ := commitReply_some h
    · exact .wrote (fun _ => trivial) hk hp (by simp [Save.Settled, hp]) rfl rfl
    · exact .wrote (fun _ => trivial) hk hp (by simp [Save.Settled, hp]) (buttons_showAlert ..) rfl
  | updateReply k error =>
    obtain ⟨p, url, c, hk, hp, ⟨-, d, -, rfl⟩ | ⟨m, -, rfl⟩⟩ := updateReply_some h
    · exact .wrote (fun _ => trivial) hk hp (by simp [Save.Settled, hp]) rfl rfl
    · exact .wrote (fun _ => trivial) hk hp (by simp [Save.Settled, hp]) (buttons_showAlert ..) rfl

/-! ## Saves and their screens -/

/-- A save has a screen; one that is writing has sent it away and enabled its button; and no screen has two that
are running. -/
structure ButtonInv (s : State) : Prop where
  screen : ∀ (k : Nat) (p : Save), s.saves[k]? = some p → p.screen < s.buttons.length
  writing : ∀ (k : Nat) (p : Save), s.saves[k]? = some p → ∀ url commit update, p.phase = .writing url commit update →
    s.buttons[p.screen]? = some ⟨true, true⟩
  one : ∀ (j k : Nat) (p q : Save), s.saves[j]? = some p → s.saves[k]? = some q → ¬ p.Settled → ¬ q.Settled →
    p.screen = q.screen → j = k

variable {resolve : String → Option String} {s s' : State} {e : Event} {gone : Bool}

theorem ButtonInv.start (users : Store.Collection String String Value) (auth : String → AuthProfile) :
    ButtonInv (State.start users auth) := by
  constructor <;> intro k <;> intros <;> simp_all [State.start]

/-- A save that moves on, on its own screen, keeps the invariant if it keeps its button or enables it. -/
theorem ButtonInv.set (hi : ButtonInv s) {q : Save} (hs : s'.saves = s.saves.set k q) (hk : s.saves[k]? = some p)
    (hp : ¬ p.Settled)
    (hq : q.screen = p.screen) (hlen : s'.buttons.length = s.buttons.length)
    (hb : ∀ i : Nat, s.buttons[i]? = some ⟨true, true⟩ → s'.buttons[i]? = some ⟨true, true⟩)
    (hw : ∀ url commit update, q.phase = .writing url commit update → s'.buttons[p.screen]? = some ⟨true, true⟩) :
    ButtonInv s' where
  screen := by
    rw [hs, hlen]
    exact Slots.forall_set hi.screen (hq ▸ hi.screen k p hk)
  writing := by
    rw [hs]
    intro j r hj url commit update hr
    rcases Slots.set_cases hj with ⟨-, rfl⟩ | ⟨-, hj⟩
    · rw [hq]; exact hw url commit update hr
    · exact hb _ (hi.writing j r hj url commit update hr)
  one := by
    rw [hs]
    -- the save that moved on was running before
    have hold : ∀ (j : Nat) (r : Save), (s.saves.set k q)[j]? = some r → ¬ r.Settled →
        ∃ r', s.saves[j]? = some r' ∧ ¬ r'.Settled ∧ r'.screen = r.screen := by
      intro j r hj hr
      rcases Slots.set_cases hj with ⟨rfl, rfl⟩ | ⟨-, hj⟩
      · exact ⟨p, hk, hp, hq.symm⟩
      · exact ⟨r, hj, hr, rfl⟩
    intro i j a b ha hb has hbs hab
    obtain ⟨a', ha', has', haa⟩ := hold i a ha has
    obtain ⟨b', hb', hbs', hbb⟩ := hold j b hb hbs
    exact hi.one i j a' b' ha' hb' has' hbs' (haa.trans (hab.trans hbb.symm))

theorem ButtonInv.idle (hi : ButtonInv s) (hb : s'.buttons = s.buttons) (hs : s'.saves = s.saves) : ButtonInv s' :=
  ⟨by rw [hs, hb]; exact hi.screen, by rw [hs, hb]; exact hi.writing, by rw [hs]; exact hi.one⟩

/-- The button of a screen that has been pressed was enabled, so nothing was running. -/
theorem ButtonAgrees.not_pending (hs : ButtonAgrees gone s) {i : Nat} {scr : EditScreen}
    (hscr : s.screens[i]? = some scr)
    (hbtn : scr.button = ⟨true, false⟩) : s.buttons[i]? = some ⟨true, false⟩ ∧ ¬ Pending s.saves i := by
  have hb : s.buttons[i]? = some ⟨true, false⟩ := by
    unfold State.buttons
    rw [List.getElem?_map, hscr, ← hbtn]; rfl
  exact ⟨hb, fun h => nomatch (hs i _ hb (Or.inr rfl)).2 h⟩

theorem ButtonInv.step (hi : ButtonInv s) (hs : ButtonAgrees gone s) (hg : KeepsButton gone s e)
    (h : ButtonStep s s' e) : ButtonInv s' := by
  cases h with
  | idle _ hb hsv => exact hi.idle hb hsv
  | opened hb hsv =>
    refine ⟨fun k p hk => ?_, fun k p hk url c u hp => ?_, by rw [hsv]; exact hi.one⟩
    · rw [hsv] at hk
      rw [hb, List.length_append]
      exact (hi.screen k p hk).trans_le (Nat.le_add_right _ _)
    · rw [hsv] at hk
      rw [hb]
      exact Slots.getElem?_concat_of_some (hi.writing k p hk url c u hp)
  | @touched i t b b' hbi he hd hb hsv =>
    refine ⟨by rw [hsv, hb, List.length_set]; exact hi.screen, fun k p hk url c u hp => ?_, by rw [hsv]; exact hi.one⟩
    rw [hsv] at hk
    have hw := hi.writing k p hk url c u hp
    rw [hb]
    by_cases hj : i = p.screen
    · subst hj
      rw [hbi] at hw
      cases hw
      rw [Slots.getElem?_set_self hbi, show b' = ⟨b'.enabled, b'.dismissed⟩ from rfl, he, hd rfl]
    · rw [List.getElem?_set_ne hj, hw]
  | @missing i u scr hscr hbtn hc hb hsv =>
    have hbi := (hs.not_pending hscr hbtn).1
    refine ⟨by rw [hsv, hb, List.length_set]; exact hi.screen, fun k p hk url c u hp => ?_, by rw [hsv]; exact hi.one⟩
    rw [hsv] at hk
    have hw := hi.writing k p hk url c u hp
    rw [hb, List.getElem?_set_ne, hw]
    rintro rfl
    rw [hbi] at hw; cases hw
  | @pressed i u scr cap hscr hbtn hc hb hsv =>
    have ⟨hbi, hn⟩ := hs.not_pending hscr hbtn
    have hlt := (List.getElem?_eq_some_iff.1 hbi).1
    refine ⟨?_, ?_, ?_⟩
    · rw [hsv, hb, List.length_set]
      exact Slots.forall_concat hi.screen hlt
    · rw [hsv]
      refine Slots.forall_concat (fun k p hk url c u hp => ?_) fun _ _ _ h => by cases h
      have hw := hi.writing k p hk url c u hp
      rw [hb, List.getElem?_set_ne, hw]
      rintro rfl
      rw [hbi] at hw; cases hw
    · rw [hsv]
      intro j k p q hj hk hp hq hpq
      rcases Slots.concat_cases hj with hj | ⟨rfl, rfl⟩ <;> rcases Slots.concat_cases hk with hk | ⟨rfl, rfl⟩
      · exact hi.one j k p q hj hk hp hq hpq
      · exact absurd ⟨j, p, hj, hpq, hp⟩ hn
      · exact absurd ⟨k, q, hk, hpq.symm, hq⟩ hn
      · rfl
  | uploaded hk hp hb hsv =>
    exact hi.set hsv hk (by simp [Save.Settled, hp]) rfl (by rw [hb]) (fun i h => by rw [hb, h])
      fun _ _ _ h => by cases h
  | failed _ hk hp hb hsv =>
    refine hi.set hsv hk ?_ rfl (by rw [hb]) (fun i h => by rw [hb, h]) fun _ _ _ h => by cases h
    rcases hp with hp | hp <;> simp [Save.Settled, hp]
  | @linked k p url left hk hp hu hb hsv =>
    obtain rfl : left = true := hu.1 hg.2
    refine hi.set hsv hk (by simp [Save.Settled, hp]) rfl (by rw [hb, List.length_modify]) (fun i h => ?_)
      fun _ _ _ _ => ?_
    · rw [hb, List.getElem?_modify, h]
      by_cases hj : p.screen = i <;> simp [hj]
    · rw [hb, List.getElem?_modify_eq, List.getElem?_eq_getElem (hi.screen k p hk)]; rfl
  | wrote _ hk hp hn hb hsv =>
    refine hi.set hsv hk hn rfl (by rw [hb]) (fun i h => by rw [hb, h]) fun _ _ _ _ => ?_
    rw [hb]
    exact hi.writing _ _ hk _ _ _ hp

/-! ## One event -/

/-- Nothing but the button of one screen has changed. -/
theorem ButtonAgrees.frame (hs : ButtonAgrees gone s) {i : Nat} (hb : ∀ j, j ≠ i → s'.buttons[j]? = s.buttons[j]?)
    (hp : ∀ j, j ≠ i → (Pending s'.saves j ↔ Pending s.saves j))
    (hi : ∀ b, s'.buttons[i]? = some b → b.Counts gone → (b.enabled = false ↔ Pending s'.saves i)) :
    ButtonAgrees gone s' := by
  intro j b hj hc
  by_cases hji : j = i
  · subst hji
    exact hi b hj hc
  · rw [hb j hji] at hj
    rw [hp j hji]
    exact hs j b hj hc

/-- A save that ends without a URL leaves its button disabled, with nothing running. -/
theorem ButtonAgrees.failed_iff (hi : ButtonInv s) (hs : ButtonAgrees gone s) (hk : s.saves[k]? = some p)
    (hp : ¬ p.Settled) (hb : s'.buttons = s.buttons) (hsv : s'.saves = s.saves.set k { p with phase := .failed }) :
    ButtonAgrees gone s' ↔ s.Unseen gone k := by
  have hpend : Pending s.saves p.screen := ⟨k, p, hk, rfl, hp⟩
  have hnot : ¬ Pending s'.saves p.screen := by
    rw [hsv]
    rintro ⟨j, q, hj, hq, hqs⟩
    rcases Slots.set_cases hj with ⟨-, rfl⟩ | ⟨hne, hj⟩
    · exact hqs trivial
    · exact hne (hi.one j k q p hj hk hqs hp hq)
  constructor
  · intro h q hq b hbq hc
    rw [hk] at hq
    cases hq
    exact hnot ((h _ b (by rw [hb]; exact hbq) hc).1 ((hs _ b hbq hc).2 hpend))
  · intro h
    refine hs.frame (fun j _ => by rw [hb]) (fun j hj => by rw [hsv]; exact pending_set_of_ne hk (by rfl) hj)
      fun b hbq hc => ?_
    rw [hb] at hbq
    exact absurd hc (h p hk b hbq)

/-- An event keeps the buttons in agreement with the saves exactly when it misses no field and fails no photo. -/
theorem ButtonStep.agrees_iff (hi : ButtonInv s) (hs : ButtonAgrees gone s) (h : ButtonStep s s' e) :
    ButtonAgrees gone s' ↔ KeepsButton gone s e := by
  cases h with
  | idle hk hb hsv =>
    refine iff_of_true ?_ (hk gone)
    unfold ButtonAgrees
    rw [hb, hsv]
    exact hs
  | opened hb hsv =>
    refine iff_of_true (fun i b hib hc => ?_) trivial
    rw [hb] at hib
    rw [hsv]
    rcases Slots.concat_cases hib with hib | ⟨rfl, rfl⟩
    · exact hs i b hib hc
    · refine iff_of_false nofun ?_
      rintro ⟨k, p, hk, hp, -⟩
      exact absurd (hi.screen k p hk) (by rw [hp]; exact lt_irrefl _)
  | @touched i t b b' hbi he hd hb hsv =>
    refine iff_of_true (hs.frame (i := i) (fun j hj => ?_) (fun j _ => by rw [hsv]) fun c hib hc => ?_) trivial
    · rw [hb, List.getElem?_set_ne (Ne.symm hj)]
    · rw [hb, Slots.getElem?_set_self hbi] at hib
      cases hib
      rw [hsv, he]
      refine hs i b hbi (hc.imp_right fun h => ?_)
      -- a form that was gone would still be
      by_contra hn
      rw [hd (Bool.eq_true_of_not_eq_false hn)] at h
      cases h
  | @missing i u scr hscr hbtn hc hb hsv =>
    have ⟨hbi, hn⟩ := hs.not_pending hscr hbtn
    have hlt := (List.getElem?_eq_some_iff.1 hbi).1
    refine iff_of_false (fun h => hn ?_) fun h => ?_
    · rw [← hsv]
      exact (h i ⟨false, false⟩ (by rw [hb]; simp [hlt]) (Or.inr rfl)).1 rfl
    · have := h scr hscr
      rw [hc] at this; cases this
  | @pressed i u scr cap hscr hbtn hc hb hsv =>
    obtain ⟨hbi, -⟩ := hs.not_pending hscr hbtn
    refine iff_of_true (hs.frame (i := i) (fun j hj => ?_) (fun j hj => ?_) fun b hib _ => ?_) ?_
    · rw [hb, List.getElem?_set_ne (Ne.symm hj)]
    · rw [hsv, pending_concat, or_iff_left hj]
    · rw [hb, Slots.getElem?_set_self hbi] at hib
      cases hib
      rw [hsv, pending_concat]
      exact iff_of_true rfl (Or.inr rfl)
    · intro scr' hscr'
      rw [hscr] at hscr'
      cases hscr'
      rw [hc]; rfl
  | @uploaded k p hk hp hb hsv =>
    refine iff_of_true (fun j b hj hc => ?_) (Or.inl rfl)
    rw [hb] at hj
    rw [hsv, pending_set hk (by simp [Save.Settled, hp]) (by rfl) (by simp [Save.Settled])]
    exact hs j b hj hc
  | @failed _ k p he hk hp hb hsv =>
    have hn : ¬ p.Settled := by rcases hp with hp | hp <;> simp [Save.Settled, hp]
    rw [hs.failed_iff hi hk hn hb hsv]
    rcases he with rfl | ⟨m, rfl⟩
    · exact (or_iff_right Bool.false_ne_true).symm
    · exact Iff.rfl
  | @linked k p url left hk hp hu hb hsv =>
    have hlt := hi.screen k p hk
    have hbi : s'.buttons[p.screen]? = some ⟨true, left⟩ := by
      rw [hb, List.getElem?_modify_eq, List.getElem?_eq_getElem hlt]; rfl
    -- the button is enabled, and the writes have just been sent
    have hpend : Pending s'.saves p.screen := by
      rw [hsv]; exact pending_set_self hk (by rfl) (by simp [Save.Settled])
    by_cases hc : (⟨true, left⟩ : Button).Counts gone
    · refine iff_of_false (fun h => ?_) fun h => ?_
      · cases (h p.screen _ hbi hc).2 hpend
      · obtain rfl : left = true := hu.1 h.2
        obtain rfl : gone = false := h.1
        rcases hc with hc | hc <;> cases hc
    · obtain ⟨hgone, hleft⟩ := not_or.1 hc
      have hleft : left = true := Bool.eq_true_of_not_eq_false hleft
      refine iff_of_true (hs.frame (i := p.screen) (fun j hj => ?_) (fun j hj => ?_) fun b hib hcb => ?_)
        ⟨Bool.eq_false_of_not_eq_true hgone, hu.2 hleft⟩
      · rw [hb, List.getElem?_modify]
        simp [Ne.symm hj]
      · rw [hsv]; exact pending_set_of_ne hk (by rfl) hj
      · rw [hbi] at hib
        cases hib
        exact absurd hcb hc
  | @wrote e k p url c u c' u' hkeep hk hp hn hb hsv =>
    have hbi := hi.writing k p hk url c u hp
    refine iff_of_true (hs.frame (i := p.screen) (fun j _ => by rw [hb]) (fun j hj => ?_) fun b hib hc => ?_)
      (hkeep gone)
    · rw [hsv]; exact pending_set_of_ne hk (by rfl) hj
    · rw [hb, hbi] at hib
      cases hib
      rcases hc with rfl | hc
      · -- a screen that is gone has its button enabled, so no write could be on its way
        have := (hs p.screen _ hbi (Or.inl rfl)).2 ⟨k, p, hk, rfl, hn⟩
        cases this
      · cases hc

/-! ## The button tells whether a save is running -/

/-- In every run, the Save button of every screen on display is disabled exactly while a save of it is running, if
and only if no press misses a field, no photo of a screen on display fails to arrive, and none arrives while
something covers its form. When the screens that are gone are looked at too, no photo may fail, nor may one arrive. -/
theorem saveButton_agrees (resolve : String → Option String) (users : Store.Collection String String Value)
    (auth : String → AuthProfile) (gone : Bool) (es : List Event) :
    Run.Always (step resolve) (ButtonAgrees gone) (State.start users auth) es ↔
      Run.Guarded (step resolve) (KeepsButton gone) (State.start users auth) es :=
  Run.always_iff_guarded (I := ButtonInv) (fun _ _ _ hi hs hg h => hi.step hs hg (step_button h))
    (fun _ _ _ hi hs h => (step_button h).agrees_iff hi hs) (ButtonInv.start users auth)
    fun _ _ h => by cases h

/-- Ann picks a photo and saves. -/
def sampleSaving : List Event :=
  [.openEdit ⟨"u1", "Ann", "ann@x", none, none, "", none, none, none, none, none, none⟩,
    .touch 0 .profileImageButtonPressed, .touch 0 .sourceChosen, .touch 0 (.didFinishPicking (some [1])),
    .saveButtonPressed 0 (some "u1"), .uploadReply 0 true]

/-- The URL arrives while the action sheet is up: the sheet goes, the form stays, and Save is enabled. -/
example : (Run.exec (step fun _ => some (profileImage "u1")) State.init
    (sampleSaving ++ [.touch 0 .profileImageButtonPressed, .downloadURLReply 0 (.ok "url")])).map
      (fun s => (s.buttons, s.saves.map (·.phase))) = some ([⟨true, false⟩], [.writing "url" .inFlight .inFlight]) := by
  decide

/-- A press on a screen without a photo. -/
def sampleMissing : List Event :=
  [.openEdit ⟨"u1", "Ann", "ann@x", none, none, "", none, none, none, none, none, none⟩,
    .saveButtonPressed 0 (some "u1")]

/-- The alert is up, nothing is running, and the button is disabled. -/
theorem saveButton_agrees_missing : ¬ ∀ resolve es,
    Run.Always (step resolve) (ButtonAgrees false) State.init es := by
  intro h
  have hx : (Run.exec (step fun _ => none) State.init sampleMissing).map (fun s => (s.buttons, s.saves)) =
      some ([⟨false, false⟩], []) := by decide
  obtain ⟨s, hs, hx⟩ := Option.map_eq_some_iff.1 hx
  obtain ⟨hb, hsv⟩ := Prod.mk.inj hx
  have hagrees := ((h (fun _ => none) sampleMissing).final hs) 0 ⟨false, false⟩ (by rw [hb]; rfl) (Or.inr rfl)
  obtain ⟨k, p, hk, -⟩ := hagrees.1 rfl
  rw [hsv] at hk
  cases hk

end PetIT.Profile
