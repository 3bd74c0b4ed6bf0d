/-
Booking. A Book press decides on the copy of the post its screen was opened with and then writes
unconditionally, so two presses can both be confirmed; a post is booked once as long as every press
is made while the stored post is not booked and no other booking of it is in flight. And a press
tells its user the job is theirs before anything is written, and never writes who they are.
-/
import PetIT.Job.Document

namespace PetIT.Job

open JobPostCollectionKeys Store

/-! ## Counting the booking writes of a post -/

/-- How many booking writes for the id are in the phase. -/
def count (bookings : List Booking) (pid : String) (phase : BookPhase) : Nat :=
  bookings.countP fun r => r.postId = pid ∧ r.phase = phase

theorem isBooked_iff {bs : List Booking} {pid : String} : IsBooked bs pid ↔ 0 < count bs pid .applied := by
  unfold count IsBooked
  rw [List.countP_pos_iff]
  simp

theorem count_concat (bs : List Booking) (i : Nat) (user id pid : String) (phase : BookPhase) :
    count (bs ++ [⟨i, user, id, .inFlight⟩]) pid phase =
      count bs pid phase + if id = pid ∧ phase = .inFlight then 1 else 0 := by
  unfold count
  rw [List.countP_append, List.countP_singleton]
  simp only [decide_eq_true_eq, eq_comm (a := BookPhase.inFlight)]

theorem count_set {bs : List Booking} {b : Nat} {r : Booking} {phase : BookPhase} (hb : bs[b]? = some r)
    (hr : r.phase = .inFlight) (hne : phase ≠ .inFlight) (pid : String) :
    count (bs.set b { r with phase := phase }) pid .inFlight + (if r.postId = pid then 1 else 0) =
        count bs pid .inFlight ∧
      count (bs.set b { r with phase := phase }) pid .applied =
        count bs pid .applied + if r.postId = pid ∧ phase = .applied then 1 else 0 := by
  obtain ⟨hlt, rfl⟩ := List.getElem?_eq_some_iff.1 hb
  unfold count
  rw [List.countP_set hlt, List.countP_set hlt]
  have hle := List.boole_getElem_le_countP (p := fun r : Booking => decide (r.postId = pid ∧ r.phase = .inFlight)) hlt
  by_cases hid : bs[b].postId = pid
  · simp only [hr, hid, hne, and_self, and_false, decide_true, decide_false, if_true, reduceCtorEq,
      true_and, Bool.false_eq_true, if_false] at hle ⊢
    refine ⟨by omega, ?_⟩
    by_cases hph : phase = .applied <;> simp [hph]
  · simp [hid]

/-! ## Presses on a free post -/

/-- What the store holds as the status of a post. -/
def Core.storedStatus (c : Core) (pid : String) : Option Value := (c.jobPost.lookup pid).bind (· statusKey)

/-- The screen a Book press is made on. -/
def Event.bookScreen (s : State) : Event → Option DetailScreen
  | .bookJobButtonPressed i => s.screens[i]?
  | _ => none

/-- A Book press on `pid` finds the stored post not booked and no booking of it in flight. -/
def BookFree (pid : String) (s : State) (e : Event) : Prop :=
  ∀ d ∈ e.bookScreen s, d.jobPost.postId = pid →
    s.core.storedStatus pid ≠ some (.string "BOOKED") ∧ count s.bookings pid .inFlight = 0

instance (pid : String) (s : State) (e : Event) : Decidable (BookFree pid s e) :=
  inferInstanceAs (Decidable (∀ d ∈ e.bookScreen s, _))

theorem Event.bookScreen_some {s : State} {e : Event} {d : DetailScreen} (h : d ∈ e.bookScreen s) :
    ∃ i, e = .bookJobButtonPressed i ∧ s.screens[i]? = some d := by
  unfold Event.bookScreen at h
  split at h
  · exact ⟨_, rfl, h⟩
  · cases h

theorem Event.Books.bookScreen {s : State} {e : Event} {i : Nat} {user id : String} (h : e.Books s i user id) :
    ∃ d ∈ e.bookScreen s, d.jobPost.postId = id := by
  obtain ⟨d, rfl, hd, -, hid⟩ := h
  exact ⟨d, hd, hid⟩

/-- At most one booking write for the id has been applied, and at most one is in flight. -/
structure BookInv (pid : String) (c : Core) : Prop where
  inFlight : count c.bookings pid .inFlight ≤ 1
  applied : count c.bookings pid .applied ≤ 1
  /-- Booked and pressed again: only after its owner deleted it. -/
  gone : 0 < count c.bookings pid .applied → 0 < count c.bookings pid .inFlight → c.jobPost.lookup pid = none

variable {resolve : String → Option String} {posts : Nat → String → Captured → Prop}
  {books : Nat → String → String → Prop} {c c' : Core} {pid : String}

/-- A booked post is stored as booked as long as it is stored. -/
theorem Inv.storedStatus (hi : Inv resolve c) {d : Document} (hd : c.jobPost.lookup pid = some d) :
    c.storedStatus pid = some (.string (if IsBooked c.bookings pid then "BOOKED" else "PENDING")) := by
  obtain ⟨k, p, j, -, hdoc⟩ := hi.docs pid d hd
  unfold Core.storedStatus
  rw [hd]
  exact hdoc.status

/-- A post that is booked but no longer stored is not stored again. -/
theorem CoreStep.lookup_none (hi : Inv resolve c) (h : CoreStep resolve posts books c c')
    (hb : IsBooked c.bookings pid) (hl : c.jobPost.lookup pid = none) : c'.jobPost.lookup pid = none := by
  have hcr : Created c.posts pid := by
    obtain ⟨r, hr, rfl, hph⟩ := hb
    exact created_iff.2 (hi.created r hr hph)
  rcases h.lookup hi pid with h' | h' | ⟨d, hd, -⟩ | h'
  · exact h'.trans hl
  · exact absurd hcr h'
  · rw [hl] at hd; cases hd
  · exact h'

theorem BookInv.coreStep (hi : Inv resolve c) (hb : BookInv pid c)
    (hfree : ∀ i user, books i user pid →
      c.storedStatus pid ≠ some (.string "BOOKED") ∧ count c.bookings pid .inFlight = 0)
    (h : CoreStep resolve posts books c c') : BookInv pid c' := by
  have hkeep : c'.bookings = c.bookings → BookInv pid c' := by
    intro he
    refine ⟨by rw [he]; exact hb.inFlight, by rw [he]; exact hb.applied, fun ha hf => ?_⟩
    rw [he] at ha hf
    exact h.lookup_none hi (isBooked_iff.2 ha) (hb.gone ha hf)
  cases h with
  | @booking i user id press =>
    by_cases hid : id = pid
    · subst hid
      obtain ⟨hst, hf⟩ := hfree i user press
      refine ⟨?_, ?_, fun ha _ => ?_⟩
      · rw [count_concat]; simp [hf]
      · rw [count_concat]; simpa using hb.applied
      · rw [count_concat] at ha
        show c.jobPost.lookup id = none
        rcases hl : c.jobPost.lookup id with _ | d
        · rfl
        -- a post that has been booked would be stored as booked
        · rw [hi.storedStatus hl, if_pos (isBooked_iff.2 (by simpa using ha))] at hst
          exact absurd rfl hst
    · refine ⟨?_, ?_, fun ha hf => ?_⟩
      · rw [count_concat]; simpa [hid] using hb.inFlight
      · rw [count_concat]; simpa [hid] using hb.applied
      · rw [count_concat] at ha hf
        exact hb.gone (by simpa [hid] using ha) (by simpa [hid] using hf)
  | @bookApplied b r d hr hph hd =>
    obtain ⟨h1, h2⟩ := count_set hr hph (by simp : BookPhase.applied ≠ .inFlight) pid
    have hf := hb.inFlight
    have ha := hb.applied
    by_cases hid : r.postId = pid
    · -- the one write in flight applies, and nothing has been applied before it
      have ha0 : count c.bookings pid .applied = 0 := by
        by_contra hne
        have := hb.gone (by omega) (by rw [if_pos hid] at h1; omega)
        rw [← hid, hd] at this; cases this
      rw [if_pos hid] at h1
      rw [if_pos ⟨hid, rfl⟩] at h2
      refine ⟨?_, ?_, fun _ hlt => ?_⟩ <;> dsimp only at * <;> omega
    · rw [if_neg hid] at h1
      rw [if_neg fun h => hid h.1] at h2
      refine ⟨?_, ?_, fun ha' hlt => ?_⟩ <;> dsimp only at *
      · omega
      · omega
      · rw [Collection.lookup_setData, if_neg (Ne.symm hid)]
        exact hb.gone (by omega) (by omega)
  | @bookFailed b r hr hph =>
    obtain ⟨h1, h2⟩ := count_set hr hph (by simp : BookPhase.failed ≠ .inFlight) pid
    simp only [reduceCtorEq, and_false, if_false, Nat.add_zero] at h2
    have hf := hb.inFlight
    have ha := hb.applied
    refine ⟨?_, ?_, fun ha' hlt => ?_⟩ <;> dsimp only at *
    · omega
    · omega
    · exact hb.gone (by omega) (by omega)
  | _ => exact hkeep rfl

/-! ## Booking is exclusive on guarded runs -/

/-- A Book press made when `pid` was stored as booked is confirmed by the end of the run. -/
def LateConfirmed (resolve : String → Option String) (es : List Event) (pid : String) : Prop :=
  ∃ pre i post d s₀ s₁ s r, es = pre ++ .bookJobButtonPressed i :: post ∧
    Run.exec (step resolve) State.init pre = some s₀ ∧ step resolve s₀ (.bookJobButtonPressed i) = some s₁ ∧
    s₀.screens[i]? = some d ∧ d.jobPost.postId = pid ∧
    s₀.core.storedStatus pid = some (.string "BOOKED") ∧
    Run.exec (step resolve) State.init es = some s ∧ s.bookings[s₀.bookings.length]? = some r ∧
    r.phase = .applied

/-- At most one Book press on `pid` is confirmed, and none that was made when it was booked. -/
def Exclusive (resolve : String → Option String) (es : List Event) (pid : String) : Prop :=
  (∀ s, Run.exec (step resolve) State.init es = some s → count s.bookings pid .applied ≤ 1) ∧
  ¬ LateConfirmed resolve es pid

theorem bookInv_init (pid : String) : BookInv pid State.init.core := by
  refine ⟨?_, ?_, ?_⟩ <;> simp [State.core, State.init, count]

theorem exclusive_of_guarded {es : List Event} (h : Run.Guarded (step resolve) (BookFree pid) State.init es) :
    Exclusive resolve es pid := by
  refine ⟨fun s hs => ?_, ?_⟩
  · have hinv : Inv resolve s.core ∧ BookInv pid s.core :=
      Run.exec_guarded (I := fun s => Inv resolve s.core ∧ BookInv pid s.core)
        (fun s e s' hi hg hstep => ⟨hi.1.step hstep, hi.2.coreStep hi.1 (fun i user hb => by
          obtain ⟨d, hd, hid⟩ := hb.bookScreen
          exact hg d hd hid) (step_core hstep)⟩)
        ⟨Inv.init, bookInv_init pid⟩ h hs
    exact hinv.2.applied
  · rintro ⟨pre, i, post, d, s₀, s₁, s, r, rfl, hpre, hstep, hd, hid, hst, -, -, -⟩
    exact (h.at hpre hstep d hd hid).1 hst

/-! ## A press on a post that is not free can break it -/

theorem bookReply_of {s : State} {b : Nat} {r : Booking} {d : Document} (hb : s.bookings[b]? = some r)
    (hr : r.phase = .inFlight) (hd : s.jobPost.lookup r.postId = some d) :
    step resolve s (.bookReply b none) = some { s with
      jobPost := s.jobPost.setData r.postId (d.merge booked)
      bookings := s.bookings.set b { r with phase := .applied } } := by
  show bookReply s b none = _
  unfold bookReply
  rw [hb]
  simp only [Option.bind_eq_bind, Option.bind_some, hr, guard, if_true]
  rw [Collection.updateData_eq_some.2 ⟨d, hd, rfl⟩]
  rfl

theorem exclusive_breaks {es : List Event} {s s' : State} {e : Event}
    (hs : Run.exec (step resolve) State.init es = some s) (he : step resolve s e = some s')
    (hfree : ¬ BookFree pid s e) (hdoc : (s.jobPost.lookup pid).isSome = true) :
    ∃ fs s'', Run.exec (step resolve) State.init (es ++ e :: fs) = some s'' ∧
      ¬ Exclusive resolve (es ++ e :: fs) pid := by
  obtain ⟨doc, hdoc⟩ := Option.isSome_iff_exists.1 hdoc
  unfold BookFree at hfree
  push Not at hfree
  obtain ⟨d, hd, rfl, hfree⟩ := hfree
  obtain ⟨i, rfl, hscreen⟩ := Event.bookScreen_some hd
  obtain ⟨d', hd', -, hs'⟩ := bookJobButtonPressed_some he
  rw [hscreen] at hd'; cases hd'
  have hbs : s'.bookings = s.bookings ++ [⟨i, d.user, d.jobPost.postId, .inFlight⟩] := by rw [hs']
  have hnew : s'.bookings[s.bookings.length]? = some ⟨i, d.user, d.jobPost.postId, .inFlight⟩ := by
    rw [hbs]; exact Slots.getElem?_concat_self _ _
  have hdoc' : s'.jobPost.lookup d.jobPost.postId = some doc := by rw [hs']; exact hdoc
  by_cases hst : s.core.storedStatus d.jobPost.postId = some (.string "BOOKED")
  · -- the stored post is booked: the new write alone confirms a late press
    have hr : step resolve s' (.bookReply s.bookings.length none) = some _ := bookReply_of hnew rfl hdoc'
    have hx := Run.exec_append.2 ⟨s, hs, Run.exec_cons.2 ⟨_, he, Run.exec_cons.2 ⟨_, hr, Run.exec_nil _⟩⟩⟩
    exact ⟨[.bookReply s.bookings.length none], _, hx, fun hex => hex.2 ⟨es, i, _, d, s, _, _, _, rfl, hs, he,
      hscreen, rfl, hst, hx, Slots.getElem?_set_self hnew, rfl⟩⟩
  · -- another booking is in flight: both writes apply
    have hpos := Nat.pos_of_ne_zero (hfree hst)
    unfold count at hpos
    rw [List.countP_pos_iff] at hpos
    obtain ⟨r, hr, hrp⟩ := hpos
    simp only [decide_eq_true_eq] at hrp
    obtain ⟨b, hb⟩ := List.mem_iff_getElem?.1 hr
    have hb' : s'.bookings[b]? = some r := by rw [hbs]; exact Slots.getElem?_concat_of_some hb
    have hne : b ≠ s.bookings.length := by
      obtain ⟨hlt, -⟩ := List.getElem?_eq_some_iff.1 hb
      omega
    have h1 : step resolve s' (.bookReply b none) = some _ := bookReply_of hb' hrp.2 (hrp.1 ▸ hdoc')
    have hnew' : (s'.bookings.set b { r with phase := .applied })[s.bookings.length]? =
        some ⟨i, d.user, d.jobPost.postId, .inFlight⟩ := by
      rw [List.getElem?_set_ne hne, hnew]
    have hlook : (s'.jobPost.setData r.postId (doc.merge booked)).lookup d.jobPost.postId =
        some (doc.merge booked) := by
      rw [Collection.lookup_setData, if_pos hrp.1.symm]
    have h2 : step resolve { s' with
        jobPost := s'.jobPost.setData r.postId (doc.merge booked)
        bookings := s'.bookings.set b { r with phase := .applied } }
        (.bookReply s.bookings.length none) = some _ := bookReply_of hnew' rfl hlook
    have hx := Run.exec_append.2 ⟨s, hs, Run.exec_cons.2 ⟨_, he, Run.exec_cons.2 ⟨_, h1,
      Run.exec_cons.2 ⟨_, h2, Run.exec_nil _⟩⟩⟩⟩
    refine ⟨[.bookReply b none, .bookReply s.bookings.length none], _, hx, fun hex => ?_⟩
    have hle := hex.1 _ hx
    obtain ⟨-, c1⟩ := count_set hb' hrp.2 (by simp : BookPhase.applied ≠ .inFlight) d.jobPost.postId
    obtain ⟨-, c2⟩ := count_set hnew' rfl (by simp : BookPhase.applied ≠ .inFlight) d.jobPost.postId
    rw [if_pos ⟨hrp.1, rfl⟩] at c1
    rw [if_pos ⟨rfl, rfl⟩] at c2
    dsimp only at hle c1 c2
    omega

/-- Booking is exclusive on `pid` in every run whose presses on it find it free; and a press on a
stored post that is not free can be continued to a run in which booking is not exclusive. -/
theorem booking_exclusive (resolve : String → Option String) (pid : String) :
    (∀ es, Run.Guarded (step resolve) (BookFree pid) State.init es → Exclusive resolve es pid) ∧
    (∀ es s e s', Run.exec (step resolve) State.init es = some s → step resolve s e = some s' →
      ¬ BookFree pid s e → (s.jobPost.lookup pid).isSome = true →
      ∃ fs s'', Run.exec (step resolve) State.init (es ++ e :: fs) = some s'' ∧
        ¬ Exclusive resolve (es ++ e :: fs) pid) :=
  ⟨fun _ h => exclusive_of_guarded h, fun _ _ _ _ hs he hfree hdoc => exclusive_breaks hs he hfree hdoc⟩

/-- Bob and Eve open Ann's post. -/
def sampleOpen : List Event :=
  samplePost ++ [.snapshot, .openDetail "bob" samplePosted, .openDetail "eve" samplePosted]

/-- Bob's booking fails, and then Eve books. -/
def sampleSecond : List Event := sampleOpen ++
  [.bookJobButtonPressed 0, .bookReply 0 (some "unavailable"), .bookJobButtonPressed 1, .bookReply 1 none]

theorem booking_exclusive_sample : ∃ s, Run.exec (step sampleResolve) State.init sampleSecond = some s ∧
    count s.bookings "job1" .applied = 1 ∧ Exclusive sampleResolve sampleSecond "job1" := by
  have hx : (Run.exec (step sampleResolve) State.init sampleSecond).map
      (fun s => count s.bookings "job1" .applied) = some 1 := by decide
  obtain ⟨s, hs, hx⟩ := Option.map_eq_some_iff.1 hx
  exact ⟨s, hs, hx, (booking_exclusive sampleResolve "job1").1 _ (by decide)⟩

/-- Bob and Eve both press Book before either screen hears of the other, and both are confirmed. -/
theorem booking_not_exclusive : ¬ ∀ resolve es pid, Exclusive resolve es pid := by
  intro h
  have hc : (Run.exec (step sampleResolve) State.init (sampleOpen ++ [.bookJobButtonPressed 0,
      .bookJobButtonPressed 1, .bookReply 0 none, .bookReply 1 none])).map
        (fun s => count s.bookings "job1" .applied) = some 2 := by decide
  obtain ⟨s, hs, hc⟩ := Option.map_eq_some_iff.1 hc
  have := (h _ _ "job1").1 s hs
  omega

end PetIT.Job
