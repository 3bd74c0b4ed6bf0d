/-
What a Book press tells its user. The alert and the button's title say that the job is theirs as soon
as the button is pressed: the write behind them has not been sent yet, says nothing about who booked,
and when it fails takes neither message back. So a told booking is a recorded one in exactly the runs
in which nobody presses Book.
-/
import PetIT.Job.Booking

namespace PetIT.Job

open JobPostCollectionKeys

/-! ## Definitions -/

/-- The screen says the job is taken: by the alert it has shown, or by the title of its button. -/
def DetailScreen.Told (d : DetailScreen) : Prop :=
  (∃ a ∈ d.alerts, a.title = "Job Booked") ∨ d.view.bookTitle = "Job Accepted"

instance (d : DetailScreen) : Decidable d.Told := inferInstanceAs (Decidable (_ ∨ _))

/-- The store holds the post as booked by the user. -/
def Recorded (s : State) (user pid : String) : Prop :=
  ∃ d, s.jobPost.lookup pid = some d ∧ d statusKey = some (.string "BOOKED") ∧
    d sitterIdKey = some (.string user)

/-- Whoever has been told that a job is theirs is recorded as its sitter. -/
def ToldRecorded (s : State) : Prop :=
  ∀ d ∈ s.screens, d.Told → Recorded s d.user d.jobPost.postId

/-- A booking write that fails leaves its screen without either message and the post as it was
before the press. -/
def FailureUndone (resolve : String → Option String) (es : List Event) : Prop :=
  ∀ pre i mid message post d s₀ s₁ s₂,
    es = pre ++ .bookJobButtonPressed i :: (mid ++ .bookReply s₀.bookings.length (some message) :: post) →
    Run.exec (step resolve) State.init pre = some s₀ → s₀.screens[i]? = some d →
    Run.exec (step resolve) s₀ (.bookJobButtonPressed i :: mid) = some s₁ →
    step resolve s₁ (.bookReply s₀.bookings.length (some message)) = some s₂ →
    (∀ d' ∈ s₂.screens[i]?, ¬ d'.Told) ∧
      s₂.jobPost.lookup d.jobPost.postId = s₀.jobPost.lookup d.jobPost.postId

/-- The event is not a Book press. -/
def NotBook (_ : State) (e : Event) : Prop := ∀ i, e ≠ .bookJobButtonPressed i

/-! ## Only a Book press tells -/

theorem not_told_showAlert {d : DetailScreen} {a : Alert} (ha : a.title ≠ "Job Booked") (h : ¬ d.Told) :
    ¬ (d.showAlert a).Told := by
  unfold DetailScreen.Told DetailScreen.showAlert at *
  rintro (⟨b, hb, hb'⟩ | hb)
  · rcases List.mem_append.1 hb with hb | hb
    · exact h (Or.inl ⟨b, hb, hb'⟩)
    · rw [List.mem_singleton] at hb
      subst hb; exact ha hb'
  · exact h (Or.inr hb)

theorem not_told_fetched {d : DetailScreen} (reply : Except String (List Document)) (h : ¬ d.Told) :
    ¬ (d.fetched reply).Told := by
  unfold DetailScreen.fetched
  split
  · exact h
  · exact not_told_showAlert (by simp) h
  · exact h

theorem not_told_updateUI {d d' : DetailScreen} (hd : d.updateUI = some d') (h : ¬ d.Told) : ¬ d'.Told := by
  unfold DetailScreen.updateUI at hd
  obtain ⟨u, -, rfl⟩ := Option.map_eq_some_iff.1 hd
  rintro (ht | ht)
  · exact h (Or.inl ht)
  · -- the title is set from the post's status, to one of two others
    dsimp only at ht
    split at ht <;> exact absurd ht (by decide)

theorem told_book (d : DetailScreen) : d.book.Told := Or.inr rfl

variable {resolve : String → Option String} {s s' : State}

/-- As long as no button is pressed, a screen nobody was told anything on stays so. -/
theorem step_not_told {e : Event} (he : NotBook s e) (h : step resolve s e = some s')
    (hs : ∀ d ∈ s.screens, ¬ d.Told) : ∀ d ∈ s'.screens, ¬ d.Told := by
  have hset : ∀ (i : Nat) (x : DetailScreen), ¬ x.Told → ∀ d ∈ s.screens.set i x, ¬ d.Told := by
    intro i x hx d hd
    rcases List.mem_or_eq_of_mem_set hd with hd | rfl
    · exact hs d hd
    · exact hx
  cases e with
  | openForm | edit | profileUpload | snapshot | deleteJobPost => cases h; exact hs
  | postButtonPressed f u docId =>
    obtain ⟨fs, -, ⟨t, -, rfl⟩ | ⟨c, -, -, rfl⟩⟩ := postButtonPressed_some h <;> exact hs
  | uploadReply k ok =>
    obtain ⟨p, -, -, rfl⟩ := uploadReply_some h
    cases ok <;> exact hs
  | downloadURLReply k url date =>
    obtain ⟨p, -, -, ⟨-, rfl⟩ | ⟨v, -, -, rfl⟩⟩ := downloadURLReply_some h <;> exact hs
  | postJobReply k error =>
    obtain ⟨p, j, -, -, ⟨m, -, rfl⟩ | ⟨-, rfl⟩⟩ := postJobReply_some h <;> exact hs
  | openDetail user jobPost =>
    obtain ⟨-, rfl⟩ := openDetail_eq_some.1 h
    intro d hd
    rcases List.mem_append.1 hd with hd | hd
    · exact hs d hd
    · rw [List.mem_singleton] at hd
      subst hd; simp [DetailScreen.Told]
  | viewWillAppear i =>
    obtain ⟨d, hd, h⟩ := Option.bind_eq_some_iff.1 h
    cases h
    exact hset i _ (hs d (List.mem_of_getElem? hd))
  | fetchUserReply i reply =>
    obtain ⟨d, hd, h⟩ := Option.bind_eq_some_iff.1 h
    obtain ⟨-, h⟩ := Run.guard_bind.1 h
    cases h
    exact hset i _ (not_told_fetched reply (hs d (List.mem_of_getElem? hd)))
  | updateUI i =>
    obtain ⟨d, hd, h⟩ := Option.bind_eq_some_iff.1 h
    obtain ⟨-, h⟩ := Run.guard_bind.1 h
    obtain ⟨d', hd', h⟩ := Option.bind_eq_some_iff.1 h
    cases h
    exact hset i d' (not_told_updateUI hd' (hs d (List.mem_of_getElem? hd)))
  | bookJobButtonPressed i => exact absurd rfl (he i)
  | bookReply b error =>
    obtain ⟨r, -, -, ⟨-, d, -, rfl⟩ | ⟨m, -, rfl⟩⟩ := bookReply_some h
    · exact hs
    · intro d hd
      obtain ⟨j, hj⟩ := List.mem_iff_getElem?.1 hd
      simp only [List.getElem?_modify] at hj
      obtain ⟨x, hx, rfl⟩ := Option.map_eq_some_iff.1 hj
      have := hs x (List.mem_of_getElem? hx)
      split
      · exact not_told_showAlert (by simp) this
      · exact this
  | deleteReply d error =>
    obtain ⟨id, -, h⟩ := Option.bind_eq_some_iff.1 h
    cases error <;> cases h <;> exact hs

/-! ## Nothing records who booked -/

/-- The sitter of every stored post is the nil its Post press wrote. -/
theorem Inv.sitterId {c : Core} (hi : Inv resolve c) {pid : String} {d : Document}
    (hd : c.jobPost.lookup pid = some d) : d sitterIdKey = some .null := by
  obtain ⟨k, p, j, hcr, hdoc⟩ := hi.docs pid d hd
  have hok := hi.phase k p hcr.get
  unfold PhaseOK at hok
  rw [hcr.phase] at hok
  obtain ⟨-, url, date, -, rfl⟩ := hok
  rw [hdoc.fields _ (by decide), JobPost.postJob_sitterId]
  rfl

theorem Inv.not_recorded (hi : Inv resolve s.core) (user pid : String) : ¬ Recorded s user pid := by
  rintro ⟨d, hd, -, hu⟩
  rw [hi.sitterId hd] at hu
  cases hu

theorem toldRecorded_iff (hi : Inv resolve s.core) : ToldRecorded s ↔ ∀ d ∈ s.screens, ¬ d.Told :=
  ⟨fun h d hd ht => hi.not_recorded _ _ (h d hd ht), fun h d hd ht => absurd ht (h d hd)⟩

/-- A step keeps every told booking recorded exactly when it is not a Book press. -/
theorem step_toldRecorded {e : Event} (hi : Inv resolve s.core) (hr : ToldRecorded s)
    (h : step resolve s e = some s') : ToldRecorded s' ↔ NotBook s e := by
  rw [toldRecorded_iff (hi.step h)]
  constructor
  · rintro hs' i rfl
    obtain ⟨d, hd, -, rfl⟩ := bookJobButtonPressed_some h
    exact hs' d.book (List.mem_of_getElem? (Slots.getElem?_set_self hd)) (told_book d)
  · intro he
    exact step_not_told he h ((toldRecorded_iff hi).1 hr)

/-! ## The runs whose told bookings are recorded -/

theorem failureUndone_of_guarded {es : List Event}
    (h : Run.Guarded (step resolve) NotBook State.init es) : FailureUndone resolve es := by
  rintro pre i mid message post d s₀ s₁ s₂ rfl hpre - hmid -
  obtain ⟨t, ht, -⟩ := Run.exec_cons.1 hmid
  exact absurd rfl (h.at hpre ht i)

/-- Whoever has been told that a job is theirs is its recorded sitter, and a failed booking is
undone, in exactly the runs without a Book press. -/
theorem told_booking_recorded (resolve : String → Option String) (es : List Event) :
    Run.Always (step resolve) ToldRecorded State.init es ∧ FailureUndone resolve es ↔
      Run.Guarded (step resolve) NotBook State.init es := by
  have hiff : Run.Always (step resolve) ToldRecorded State.init es ↔
      Run.Guarded (step resolve) NotBook State.init es :=
    Run.always_iff_guarded (I := fun s => Inv resolve s.core) (fun _ _ _ hi _ _ hs => hi.step hs)
      (fun _ _ _ hi hr hs => step_toldRecorded hi hr hs) Inv.init (by simp [ToldRecorded, State.init])
  constructor
  · rintro ⟨h, -⟩
    exact hiff.1 h
  · intro h
    exact ⟨hiff.2 h, failureUndone_of_guarded h⟩

/-- Bob presses Book on Ann's post and the write applies: he is told the job is his, and the store
does not say whose it is. -/
theorem told_booking_not_recorded : ¬ ∀ resolve es,
    Run.Always (step resolve) ToldRecorded State.init es ∧ FailureUndone resolve es := by
  intro h
  have hx : (Run.exec (step sampleResolve) State.init (sampleOpen ++ [.bookJobButtonPressed 0, .bookReply 0 none])).map
      (fun s => decide (∃ d ∈ s.screens, d.Told)) = some true := by decide
  obtain ⟨s, hs, hx⟩ := Option.map_eq_some_iff.1 hx
  obtain ⟨d, hd, ht⟩ := of_decide_eq_true hx
  exact (Inv.exec hs).not_recorded _ _ ((h _ _).1.final hs d hd ht)

end PetIT.Job
