/-
What a detail screen shows. Its views are the storyboard's until an owner has been fetched and a block has drawn the
screen; from then on they are those of its own copy of the post and of an owner it fetched, and once no block is
waiting, of the owner it fetched last. The Book button is one of these views, so a screen whose owner cannot be
fetched offers a booked post for booking.
-/
import PetIT.Job.Document

namespace PetIT.Job

/-! ## Definitions -/

/-- The event is a reply to screen `i` with a user. -/
def Fetches (i : Nat) (u : UserModel) (e : Event) : Prop :=
  ∃ reply, e = .fetchUserReply i reply ∧ UserModel.fetchUser reply = some (.ok u)

/-- The user is the last one that screen `i` was answered with. -/
def LastFetched (es : List Event) (i : Nat) (u : UserModel) : Prop :=
  ∃ pre e post, es = pre ++ e :: post ∧ Fetches i u e ∧ ∀ f ∈ post, ¬ ∃ v, Fetches i v f

/-- The views of the screen as `updateUI` draws them with an owner, up to the button's title. -/
structure DetailScreen.Drawn (d : DetailScreen) (u : UserModel) : Prop where
  ownerPhoto : ∀ photoURL ∈ u.photoURL, photoURL ≠ "" → d.view.ownerPhoto = some photoURL
  petImage : d.view.petImage = some d.jobPost.imageURLString
  fullname : d.view.fullname = u.firstName
  username : d.view.username = "@" ++ u.displayName
  jobDescription : d.view.jobDescription = d.jobPost.jobDescription
  petBio : d.view.petBio = d.jobPost.petBio
  jobTimeFrame : d.view.jobTimeFrame = d.jobPost.timeFrame
  jobWages : d.view.jobWages = d.jobPost.wage
  bookEnabled : d.view.bookEnabled = true ↔ d.jobPost.status = "PENDING"

/-! ## What an event does to a screen -/

variable {resolve : String → Option String} {s s' : State} {es : List Event} {e : Event} {i : Nat}
  {d d' : DetailScreen} {u : UserModel}

/-- What an event makes of the screen `i` it is about. -/
inductive DetailChange (i : Nat) (d : DetailScreen) : Event → DetailScreen → Prop
  | appeared : DetailChange i d (.viewWillAppear i) { d with fetches := d.fetches + 1 }
  | replied (reply : Except String (List Document)) :
      DetailChange i d (.fetchUserReply i reply) ({ d with fetches := d.fetches - 1 }.fetched reply)
  | updated {d' : DetailScreen} (hu : 0 < d.updates) (h : { d with updates := d.updates - 1 }.updateUI = some d') :
      DetailChange i d (.updateUI i) d'
  | booked : DetailChange i d (.bookJobButtonPressed i) d.book
  | alerted {b : Nat} {error : Option String} (a : Alert) : DetailChange i d (.bookReply b error) (d.showAlert a)

/-- The event is about the views of screen `i`. -/
def Event.Shows (i : Nat) (e : Event) : Prop := e = .updateUI i ∨ ∃ u, Fetches i u e

/-- What an event makes of the detail screens: one of them changes, or another is opened, or they stay. -/
inductive ScreensChange (screens : List DetailScreen) : Event → List DetailScreen → Prop
  | same {e : Event} (he : ∀ i, ¬ e.Shows i) : ScreensChange screens e screens
  | set {e : Event} {i : Nat} {d d' : DetailScreen} (hd : screens[i]? = some d) (h : DetailChange i d e d') :
      ScreensChange screens e (screens.set i d')
  | opened (user : String) (p : JobPost) :
      ScreensChange screens (.openDetail user p) (screens ++ [{ user := user, jobPost := p }])

theorem not_shows (hr : ∀ i reply, e ≠ .fetchUserReply i reply) (hu : ∀ i, e ≠ .updateUI i) : ∀ i, ¬ e.Shows i := by
  rintro i (he | ⟨u, reply, he, -⟩)
  · exact hu i he
  · exact hr i reply he

theorem openDetail_shows (user : String) (p : JobPost) : ∀ i, ¬ (Event.openDetail user p).Shows i :=
  not_shows nofun nofun

theorem modify_showAlert (screens : List DetailScreen) (i : Nat) (a : Alert) (b : Nat) (error : Option String) :
    ScreensChange screens (.bookReply b error) (screens.modify i (·.showAlert a)) := by
  rcases hd : screens[i]? with _ | d
  · rw [List.modify_eq_self (List.getElem?_eq_none_iff.1 hd)]
    exact .same (not_shows nofun nofun)
  · rw [Slots.modify_eq_set _ hd]
    exact .set hd (.alerted a)

theorem step_screens (h : step resolve s e = some s') : ScreensChange s.screens e s'.screens := by
  cases e with
  | openForm | edit | profileUpload | snapshot | deleteJobPost => cases h; exact .same (not_shows nofun nofun)
  | postButtonPressed f u docId =>
    obtain ⟨fs, -, ⟨t, -, rfl⟩ | ⟨c, -, -, rfl⟩⟩ := postButtonPressed_some h <;> exact .same (not_shows nofun nofun)
  | uploadReply k ok =>
    obtain ⟨p, -, -, rfl⟩ := uploadReply_some h
    cases ok <;> exact .same (not_shows nofun nofun)
  | downloadURLReply k url date =>
    obtain ⟨p, -, -, ⟨-, rfl⟩ | ⟨v, -, -, rfl⟩⟩ := downloadURLReply_some h <;> exact .same (not_shows nofun nofun)
  | postJobReply k error =>
    obtain ⟨p, j, -, -, ⟨m, -, rfl⟩ | ⟨-, rfl⟩⟩ := postJobReply_some h <;> exact .same (not_shows nofun nofun)
  | deleteReply k error =>
    obtain ⟨id, -, h⟩ := Option.bind_eq_some_iff.1 h
    cases error <;> cases h <;> exact .same (not_shows nofun nofun)
  | openDetail user p =>
    obtain ⟨-, rfl⟩ := openDetail_eq_some.1 h
    exact .opened user p
  | viewWillAppear i =>
    obtain ⟨d, hd, h⟩ := Option.bind_eq_some_iff.1 h
    cases h
    exact .set hd .appeared
  | fetchUserReply i reply =>
    obtain ⟨d, hd, h⟩ := Option.bind_eq_some_iff.1 h
    obtain ⟨-, h⟩ := Run.guard_bind.1 h
    cases h
    exact .set hd (.replied reply)
  | updateUI i =>
    obtain ⟨d, hd, h⟩ := Option.bind_eq_some_iff.1 h
    obtain ⟨hu, h⟩ := Run.guard_bind.1 h
    obtain ⟨d', hd', h⟩ := Option.bind_eq_some_iff.1 h
    cases h
    exact .set hd (.updated hu hd')
  | bookJobButtonPressed i =>
    obtain ⟨d, hd, -, rfl⟩ := bookJobButtonPressed_some h
    exact .set hd .booked
  | bookReply b error =>
    obtain ⟨r, -, -, ⟨-, c, -, rfl⟩ | ⟨message, -, rfl⟩⟩ := bookReply_some h
    · exact .same (not_shows nofun nofun)
    · exact modify_showAlert ..

/-! ## What the events make of a screen -/

/-- The events behind what screen `i` shows. -/
structure DetailScreen.Traced (es : List Event) (i : Nat) (d : DetailScreen) : Prop where
  waiting : 0 < d.updates → d.userModel.isSome
  fetched : ∀ u ∈ d.userModel, LastFetched es i u
  unfetched : d.userModel = none → ∀ e ∈ es, ¬ ∃ u, Fetches i u e
  undrawn : .updateUI i ∉ es → d.view = { bookTitle := d.view.bookTitle }
  drawn : .updateUI i ∈ es → d.userModel.isSome ∧ ∃ u, d.Drawn u
  settled : d.updates = 0 → ∀ u ∈ d.userModel, d.Drawn u

/-- Events are about screens that have been opened. -/
structure Traced (es : List Event) (s : State) : Prop where
  screens : ∀ (i : Nat) (d : DetailScreen), s.screens[i]? = some d → d.Traced es i
  opened : ∀ i, s.screens.length ≤ i → ∀ e ∈ es, ¬ e.Shows i

theorem LastFetched.concat (h : LastFetched es i u) (he : ¬ ∃ v, Fetches i v e) : LastFetched (es ++ [e]) i u := by
  obtain ⟨pre, f, post, hes, hf, hn⟩ := h
  obtain ⟨hes, hn⟩ := Run.last_concat hes hn he
  exact ⟨pre, f, post ++ [e], hes, hf, hn⟩

/-- Two last replies are one. -/
theorem LastFetched.unique {v : UserModel} (h : LastFetched es i u) (h' : LastFetched es i v) : u = v := by
  obtain ⟨pre, e, post, rfl, he, hn⟩ := h
  obtain ⟨pre', e', post', hes, he', hn'⟩ := h'
  obtain rfl := Run.last_unique hes ⟨u, he⟩ ⟨v, he'⟩ hn hn'
  obtain ⟨rfl, -⟩ := List.cons_eq_cons.1 (List.append_cancel_left hes)
  obtain ⟨reply, rfl, hu⟩ := he
  obtain ⟨reply', hr, hv⟩ := he'
  cases hr
  rw [hu] at hv
  cases hv; rfl

/-- An event that shows nothing on the screen, and leaves its model and all its views but the button's title. -/
theorem DetailScreen.Traced.frame (h : d.Traced es i) (he : ¬ e.Shows i) (hp : d'.jobPost = d.jobPost)
    (hm : d'.userModel = d.userModel) (hu : d'.updates = d.updates)
    (hv : d'.view = { d.view with bookTitle := d'.view.bookTitle }) : d'.Traced (es ++ [e]) i := by
  have hmem : .updateUI i ∈ es ++ [e] ↔ .updateUI i ∈ es := by
    rw [List.mem_append, List.mem_singleton, or_iff_left]
    exact fun h => he (Or.inl h.symm)
  have hdrawn : ∀ u, d.Drawn u → d'.Drawn u := by
    intro u hd
    constructor <;> rw [hv] <;> try rw [hp]
    exacts [hd.ownerPhoto, hd.petImage, hd.fullname, hd.username, hd.jobDescription, hd.petBio, hd.jobTimeFrame,
      hd.jobWages, hd.bookEnabled]
  refine ⟨?_, ?_, ?_, fun hn => ?_, fun hn => ?_, ?_⟩
  · rw [hm, hu]; exact h.waiting
  · rw [hm]
    exact fun u hu => (h.fetched u hu).concat fun hf => he (.inr hf)
  · rw [hm]
    exact fun hn => Run.none_concat (h.unfetched hn) fun hf => he (.inr hf)
  · rw [hv, h.undrawn (mt hmem.2 hn)]
  · rw [hm]
    obtain ⟨hsome, u, hd⟩ := h.drawn (hmem.1 hn)
    exact ⟨hsome, u, hdrawn u hd⟩
  · rw [hm, hu]
    exact fun h0 u hu => hdrawn u (h.settled h0 u hu)

/-- A reply that is not a user leaves the screen as it is, up to an alert. -/
theorem DetailScreen.Traced.replied (h : d.Traced es i) (reply : Except String (List Document)) :
    ({ d with fetches := d.fetches - 1 }.fetched reply).Traced (es ++ [Event.fetchUserReply i reply]) i := by
  have hshows : ∀ u, Fetches i u (.fetchUserReply i reply) → UserModel.fetchUser reply = some (.ok u) := by
    rintro u ⟨reply', he, hu⟩
    cases he; exact hu
  have hmem : Event.updateUI i ∈ es ++ [Event.fetchUserReply i reply] ↔ Event.updateUI i ∈ es := by simp
  unfold DetailScreen.fetched
  split
  case h_1 hr | h_2 hr =>
    refine h.frame ?_ rfl rfl rfl rfl
    rintro (he | ⟨u, hu⟩)
    · cases he
    · rw [hshows u hu] at hr; cases hr
  case h_3 u hr =>
    have hlast : LastFetched (es ++ [.fetchUserReply i reply]) i u := ⟨es, _, [], rfl, ⟨reply, rfl, hr⟩, by simp⟩
    refine ⟨fun _ => rfl, fun v hv => ?_, nofun, fun hn => h.undrawn (mt hmem.2 hn), fun hn => ?_, nofun⟩
    · cases hv; exact hlast
    · obtain ⟨-, v, hd⟩ := h.drawn (hmem.1 hn)
      exact ⟨rfl, v, ⟨hd.ownerPhoto, hd.petImage, hd.fullname, hd.username, hd.jobDescription, hd.petBio,
        hd.jobTimeFrame, hd.jobWages, hd.bookEnabled⟩⟩

theorem drawn_updateUI {n : Nat} (h : { d with updates := n }.updateUI = some d') :
    ∃ u, d.userModel = some u ∧ d'.Drawn u ∧ d'.userModel = d.userModel ∧ d'.updates = n := by
  obtain ⟨u, hu, rfl⟩ := Option.map_eq_some_iff.1 h
  refine ⟨u, hu, ⟨fun photoURL hp hne => ?_, rfl, rfl, rfl, rfl, rfl, rfl, rfl, ?_⟩, rfl, rfl⟩
  · rw [Option.mem_def] at hp
    simp [hp, hne]
  · simp

/-- A block draws the owner that was fetched last. -/
theorem DetailScreen.Traced.updated (h : d.Traced es i) (hd : { d with updates := d.updates - 1 }.updateUI = some d') :
    d'.Traced (es ++ [.updateUI i]) i := by
  obtain ⟨u, hu, hdrawn, hm, -⟩ := drawn_updateUI hd
  have hnot : ¬ ∃ v, Fetches i v (.updateUI i) := by rintro ⟨v, reply, he, -⟩; cases he
  rw [hu] at hm
  refine ⟨fun _ => by rw [hm]; rfl, fun v hv => ?_, fun hn => ?_, fun hn => absurd (by simp) hn,
    fun _ => ⟨by rw [hm]; rfl, u, hdrawn⟩, fun _ v hv => ?_⟩
  · rw [hm] at hv
    exact (h.fetched v (hu.trans hv)).concat hnot
  · rw [hm] at hn; cases hn
  · rw [hm] at hv
    cases hv; exact hdrawn

theorem DetailScreen.Traced.change (h : d.Traced es i) (hc : DetailChange i d e d') : d'.Traced (es ++ [e]) i := by
  cases hc with
  | replied reply => exact h.replied reply
  | updated hu hd => exact h.updated hd
  | appeared => exact h.frame (by rintro (h | ⟨_, _, h, _⟩) <;> cases h) rfl rfl rfl rfl
  | booked => exact h.frame (by rintro (h | ⟨_, _, h, _⟩) <;> cases h) rfl rfl rfl rfl
  | alerted a => exact h.frame (by rintro (h | ⟨_, _, h, _⟩) <;> cases h) rfl rfl rfl rfl

/-- An event about another screen, or about none. -/
theorem DetailScreen.Traced.other (h : d.Traced es i) (he : ¬ e.Shows i) : d.Traced (es ++ [e]) i :=
  h.frame he rfl rfl rfl rfl

theorem DetailChange.shows {k : Nat} (h : DetailChange k d e d') (he : e.Shows i) : i = k := by
  rcases he with rfl | ⟨u, reply, rfl, -⟩ <;> cases h <;> rfl

/-- A screen that no event has been about yet. -/
theorem DetailScreen.Traced.opened (user : String) (p : JobPost) (hn : ∀ e ∈ es, ¬ e.Shows i) :
    DetailScreen.Traced es i { user := user, jobPost := p } where
  waiting := fun h => absurd h (Nat.lt_irrefl 0)
  fetched := fun u hu => by cases hu
  unfetched := fun _ e he hf => hn e he (.inr hf)
  undrawn := fun _ => rfl
  drawn := fun hu => absurd (.inl rfl) (hn _ hu)
  settled := fun _ u hu => by cases hu

theorem Traced.init : Traced [] State.init := ⟨by simp [State.init], by simp⟩

theorem Traced.step (h : Traced es s) (hs : step resolve s e = some s') : Traced (es ++ [e]) s' := by
  have hchange := step_screens hs
  generalize hsc : s'.screens = screens at hchange
  refine ⟨?_, ?_⟩ <;> rw [hsc]
  · cases hchange with
    | same he => exact fun i d hd => (h.screens i d hd).other (he i)
    | opened user p =>
      refine Slots.forall_concat (fun i d hd => (h.screens i d hd).other (openDetail_shows user p i)) ?_
      have hnone := Run.none_concat (h.opened _ le_rfl) (openDetail_shows user p _)
      exact .opened user p hnone
    | @set _ k d d' hd hc =>
      intro i x hx
      rcases Slots.set_cases hx with ⟨rfl, rfl⟩ | ⟨hik, hx⟩
      · exact (h.screens i d hd).change hc
      · exact (h.screens i x hx).other fun he => hik (hc.shows he)
  · cases hchange with
    | same he => exact fun i hi => Run.none_concat (h.opened i hi) (he i)
    | opened user p =>
      intro i hi
      rw [List.length_append] at hi
      exact Run.none_concat (h.opened i (le_of_add_le_left hi)) (openDetail_shows user p i)
    | @set _ k d d' hd hc =>
      intro i hi
      rw [List.length_set] at hi
      refine Run.none_concat (h.opened i hi) fun he => ?_
      rw [hc.shows he] at hi
      exact absurd (List.getElem?_eq_some_iff.1 hd).1 hi.not_gt

theorem traced_of_exec (h : Run.exec (step resolve) State.init es = some s) : Traced es s :=
  Run.exec_trace Traced.init (fun _ _ _ _ _ ht hs => ht.step hs) h

/-! ## What a detail screen shows -/

/-- A user of whom only the display name is stored. -/
def sampleOwner : Document := Store.Fields.ofList [(UsersCollectionKeys.displayNameKey, .string "Ann")]

/-- Bob opens Ann's post, and Ann is fetched. -/
def sampleDetail : List Event :=
  samplePost ++ [.snapshot, .openDetail "bob" samplePosted, .fetchUserReply 0 (.ok [sampleOwner]), .updateUI 0]

/-- Eve books a post that her copy says is booked, before its owner has been fetched. -/
example : ((Run.exec (step sampleResolve) State.init (samplePost ++ [.snapshot, .openDetail "bob" samplePosted,
    .bookJobButtonPressed 0, .bookReply 0 none, .snapshot, .openDetail "eve" { samplePosted with status := "BOOKED" },
    .bookJobButtonPressed 1, .bookReply 1 none])).map fun s => s.bookings.map (·.user)) =
      some ["bob", "eve"] := by decide

end PetIT.Job
