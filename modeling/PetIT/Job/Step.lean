/-
What an event of the job system can do to the collection, the storage and the requests in flight,
whatever the screens show: `step_core` reads every event once, and the invariants of the
collection are proved from it alone.
-/
import PetIT.Job.System
import PetIT.Run.Basic
import PetIT.Run.Slots

namespace PetIT.Job

/-- The part of the state that outlives the screens. -/
structure Core where
  posts : List Post
  bookings : List Booking
  jobPost : Store.Collection String String Value
  puts : List (Put Writer)

/-- The part of the state that the documents depend on. -/
def State.core (s : State) : Core := ⟨s.posts, s.bookings, s.jobPost, s.puts⟩

/-- The press moves on. -/
def Core.setPhase (c : Core) (k : Nat) (p : Post) (phase : PostPhase) : Core :=
  { c with posts := c.posts.set k { p with phase := phase } }

/-- A press draws an id no press has drawn before, without a slash. -/
def Core.freshId (c : Core) (docId : String) : Prop :=
  (∀ p ∈ c.posts, p.docId ≠ docId) ∧ '/' ∉ docId.toList

/-- The event is a Post press on form `f` that captures `cap`. -/
def Event.Posts (s : State) (e : Event) (f : Nat) (docId : String) (cap : Captured) : Prop :=
  ∃ u fs, e = .postButtonPressed f u docId ∧ s.forms[f]? = some fs ∧ capture fs.form u = .ok cap

/-- The event is a Book press on screen `i`, which `user` has open on the post `id`. -/
def Event.Books (s : State) (e : Event) (i : Nat) (user id : String) : Prop :=
  ∃ d, e = .bookJobButtonPressed i ∧ s.screens[i]? = some d ∧ d.user = user ∧ d.jobPost.postId = id

/-- One change of the core, by a Post press as in `posts`, a Book press as in `books`, or a reply. -/
inductive CoreStep (resolve : String → Option String) (posts : Nat → String → Captured → Prop)
    (books : Nat → String → String → Prop) (c : Core) : Core → Prop where
  | idle : CoreStep resolve posts books c c
  | pressed {f : Nat} {docId : String} {cap : Captured} (press : posts f docId cap)
      (fresh : c.freshId docId) : CoreStep resolve posts books c
        { c with posts := c.posts ++ [⟨f, docId, cap, .uploading⟩] }
  | uploaded {k : Nat} {p : Post} (hk : c.posts[k]? = some p) (hp : p.phase = .uploading) :
      CoreStep resolve posts books c { c.setPhase k p .fetchingURL with
        puts := ⟨.post k, p.path, p.captured.imageData⟩ :: c.puts }
  | linked {k : Nat} {p : Post} {url createdDate : String} (hk : c.posts[k]? = some p)
      (hp : p.phase = .fetchingURL) (hurl : resolve url = some p.path) :
      CoreStep resolve posts books c (c.setPhase k p (.posting (p.captured.jobPost p.docId url createdDate)))
  | failed {k : Nat} {p : Post} (hk : c.posts[k]? = some p) (hp : ∀ j, p.phase ≠ .posted j) :
      CoreStep resolve posts books c (c.setPhase k p .failed)
  | posted {k : Nat} {p : Post} {j : JobPost} (hk : c.posts[k]? = some p) (hp : p.phase = .posting j) :
      CoreStep resolve posts books c { c.setPhase k p (.posted j) with
        jobPost := c.jobPost.setData j.postId j.postJob }
  | profile {uid : String} {imageData : Data} :
      CoreStep resolve posts books c { c with puts := ⟨.profile uid, profileImage uid, imageData⟩ :: c.puts }
  | booking {i : Nat} {user id : String} (press : books i user id) :
      CoreStep resolve posts books c { c with bookings := c.bookings ++ [⟨i, user, id, .inFlight⟩] }
  | bookApplied {b : Nat} {r : Booking} {d : Document} (hb : c.bookings[b]? = some r)
      (hr : r.phase = .inFlight) (hd : c.jobPost.lookup r.postId = some d) :
      CoreStep resolve posts books c { c with
        jobPost := c.jobPost.setData r.postId (d.merge booked)
        bookings := c.bookings.set b { r with phase := .applied } }
  | bookFailed {b : Nat} {r : Booking} (hb : c.bookings[b]? = some r) (hr : r.phase = .inFlight) :
      CoreStep resolve posts books c { c with bookings := c.bookings.set b { r with phase := .failed } }
  | deleted {id : String} : CoreStep resolve posts books c { c with jobPost := c.jobPost.delete id }

/-! ## Reading the handlers -/

variable {resolve : String → Option String} {s s' : State}

theorem postButtonPressed_some {f : Nat} {u : Option String} {docId : String}
    (h : postButtonPressed s f u docId = some s') :
    ∃ fs, s.forms[f]? = some fs ∧
      ((∃ title, capture fs.form u = .error title ∧ s' = s.showFormAlert f ⟨title, ""⟩) ∨
       (∃ c, capture fs.form u = .ok c ∧ s.freshId docId ∧
          s' = { s with posts := s.posts ++ [⟨f, docId, c, .uploading⟩] })) := by
  unfold postButtonPressed at h
  obtain ⟨fs, hfs, h⟩ := Option.bind_eq_some_iff.1 h
  refine ⟨fs, hfs, ?_⟩
  split at h
  · rename_i title hc; cases h; exact Or.inl ⟨title, hc, rfl⟩
  · rename_i c hc
    obtain ⟨hg, h⟩ := Run.guard_bind.1 h
    cases h; exact Or.inr ⟨c, hc, hg, rfl⟩

theorem uploadReply_some {k : Nat} {ok : Bool} (h : uploadReply s k ok = some s') :
    ∃ p, s.posts[k]? = some p ∧ p.phase = .uploading ∧
      s' = if ok then
          { s.setPhase k p .fetchingURL with puts := ⟨.post k, p.path, p.captured.imageData⟩ :: s.puts }
        else s.setPhase k p .failed := by
  unfold uploadReply at h
  obtain ⟨p, hp, h⟩ := Option.bind_eq_some_iff.1 h
  obtain ⟨hg, h⟩ := Run.guard_bind.1 h
  refine ⟨p, hp, hg, ?_⟩
  cases ok <;> cases h <;> rfl

theorem downloadURLReply_some {k : Nat} {url : Option String} {date : String}
    (h : downloadURLReply resolve s k url date = some s') :
    ∃ p, s.posts[k]? = some p ∧ p.phase = .fetchingURL ∧
      ((url = none ∧ s' = s.setPhase k p .failed) ∨
       (∃ v, url = some v ∧ resolve v = some p.path ∧
          s' = s.setPhase k p (.posting (p.captured.jobPost p.docId v date)))) := by
  unfold downloadURLReply at h
  obtain ⟨p, hp, h⟩ := Option.bind_eq_some_iff.1 h
  obtain ⟨hg, h⟩ := Run.guard_bind.1 h
  refine ⟨p, hp, hg, ?_⟩
  rcases url with _ | v
  · cases h; exact Or.inl ⟨rfl, rfl⟩
  · obtain ⟨hr, h⟩ := Run.guard_bind.1 h
    cases h; exact Or.inr ⟨v, rfl, hr, rfl⟩

theorem postJobReply_some {k : Nat} {error : Option String} (h : postJobReply s k error = some s') :
    ∃ p j, s.posts[k]? = some p ∧ p.phase = .posting j ∧
      ((∃ message, error = some message ∧
          s' = (s.setPhase k p .failed).showFormAlert p.form ⟨"Posting Job Error", message⟩) ∨
       (error = none ∧
          s' = { s.setPhase k p (.posted j) with
            jobPost := s.jobPost.setData j.postId j.postJob }.showFormAlert p.form
              ⟨"Job Posted", "This Job will be added to your Job feed."⟩)) := by
  unfold postJobReply at h
  obtain ⟨p, hp, h⟩ := Option.bind_eq_some_iff.1 h
  split at h
  · rename_i j hj
    refine ⟨p, j, hp, hj, ?_⟩
    rcases error with _ | message
    · cases h; exact Or.inr ⟨rfl, rfl⟩
    · cases h; exact Or.inl ⟨message, rfl, rfl⟩
  · cases h

theorem openDetail_eq_some {user : String} {jobPost : JobPost} : openDetail s user jobPost = some s' ↔
    jobPost ∈ s.delivered ∧ s' = { s with screens := s.screens ++ [{ user := user, jobPost := jobPost }] } := by
  unfold openDetail
  rw [Run.guard_bind, Option.some.injEq]
  exact and_congr_right' eq_comm

theorem bookJobButtonPressed_some {i : Nat} (h : bookJobButtonPressed s i = some s') :
    ∃ d, s.screens[i]? = some d ∧ d.view.bookEnabled = true ∧
      s' = { s with
        screens := s.screens.set i d.book
        bookings := s.bookings ++ [⟨i, d.user, d.jobPost.postId, .inFlight⟩] } := by
  unfold bookJobButtonPressed at h
  obtain ⟨d, hd, h⟩ := Option.bind_eq_some_iff.1 h
  obtain ⟨hg, h⟩ := Run.guard_bind.1 h
  cases h; exact ⟨d, hd, hg, rfl⟩

theorem bookReply_some {b : Nat} {error : Option String} (h : bookReply s b error = some s') :
    ∃ r, s.bookings[b]? = some r ∧ r.phase = .inFlight ∧
      ((error = none ∧ ∃ d, s.jobPost.lookup r.postId = some d ∧
          s' = { s with
            jobPost := s.jobPost.setData r.postId (d.merge booked)
            bookings := s.bookings.set b { r with phase := .applied } }) ∨
       (∃ message, error = some message ∧
          s' = { s with
            bookings := s.bookings.set b { r with phase := .failed }
            screens := s.screens.modify r.screen (·.showAlert ⟨"Editing Error", message⟩) })) := by
  unfold bookReply at h
  obtain ⟨r, hr, h⟩ := Option.bind_eq_some_iff.1 h
  obtain ⟨hg, h⟩ := Run.guard_bind.1 h
  refine ⟨r, hr, hg, ?_⟩
  rcases error with _ | message
  · obtain ⟨c, hc, h⟩ := Option.bind_eq_some_iff.1 h
    obtain ⟨d, hd, rfl⟩ := Store.Collection.updateData_eq_some.1 hc
    cases h; exact Or.inl ⟨rfl, d, hd, rfl⟩
  · cases h; exact Or.inr ⟨message, rfl, rfl⟩

/-- The handlers of the detail screen other than the booking press change a screen and nothing
else. -/
theorem screen_some {e : Event} (he : (∃ i, e = .viewWillAppear i) ∨ (∃ i r, e = .fetchUserReply i r) ∨
    ∃ i, e = .updateUI i) (h : step resolve s e = some s') :
    ∃ i d d', s.screens[i]? = some d ∧ d'.user = d.user ∧ d'.jobPost = d.jobPost ∧
      s' = { s with screens := s.screens.set i d' } := by
  rcases he with ⟨i, rfl⟩ | ⟨i, r, rfl⟩ | ⟨i, rfl⟩
  · obtain ⟨d, hd, h⟩ := Option.bind_eq_some_iff.1 h
    cases h
    refine ⟨i, d, _, hd, ?_, ?_, rfl⟩ <;> rfl
  · obtain ⟨d, hd, h⟩ := Option.bind_eq_some_iff.1 h
    obtain ⟨_, h⟩ := Run.guard_bind.1 h
    cases h
    refine ⟨i, d, _, hd, ?_, ?_, rfl⟩ <;>
    · unfold DetailScreen.fetched
      split <;> rfl
  · obtain ⟨d, hd, h⟩ := Option.bind_eq_some_iff.1 h
    obtain ⟨_, h⟩ := Run.guard_bind.1 h
    obtain ⟨d', hd', h⟩ := Option.bind_eq_some_iff.1 h
    obtain ⟨u, _, rfl⟩ := Option.map_eq_some_iff.1 hd'
    cases h
    refine ⟨i, d, _, hd, ?_, ?_, rfl⟩ <;> rfl

/-! ## Every event, once -/

theorem step_core {e : Event} (h : step resolve s e = some s') :
    CoreStep resolve (e.Posts s) (e.Books s) s.core s'.core := by
  cases e with
  | openForm => cases h; exact .idle
  | edit f form => cases h; exact .idle
  | postButtonPressed f u docId =>
    obtain ⟨fs, hfs, ⟨t, -, rfl⟩ | ⟨c, hc, hf, rfl⟩⟩ := postButtonPressed_some h
    · exact .idle
    · exact .pressed ⟨u, fs, rfl, hfs, hc⟩ hf
  | uploadReply k ok =>
    obtain ⟨p, hk, hp, rfl⟩ := uploadReply_some h
    cases ok
    · exact .failed hk fun j => by rw [hp]; exact fun h => by cases h
    · exact .uploaded hk hp
  | downloadURLReply k url date =>
    obtain ⟨p, hk, hp, ⟨-, rfl⟩ | ⟨v, -, hv, rfl⟩⟩ := downloadURLReply_some h
    · exact .failed hk fun j => by rw [hp]; exact fun h => by cases h
    · exact .linked hk hp hv
  | postJobReply k error =>
    obtain ⟨p, j, hk, hp, ⟨m, -, rfl⟩ | ⟨-, rfl⟩⟩ := postJobReply_some h
    · exact .failed hk fun j => by rw [hp]; exact fun h => by cases h
    · exact .posted hk hp
  | profileUpload uid imageData => cases h; exact .profile
  | snapshot => cases h; exact .idle
  | openDetail user jobPost =>
    obtain ⟨-, rfl⟩ := openDetail_eq_some.1 h
    exact .idle
  | viewWillAppear i =>
    obtain ⟨_, _, _, _, _, _, rfl⟩ := screen_some (.inl ⟨i, rfl⟩) h
    exact .idle
  | fetchUserReply i reply =>
    obtain ⟨_, _, _, _, _, _, rfl⟩ := screen_some (.inr (.inl ⟨i, reply, rfl⟩)) h
    exact .idle
  | updateUI i =>
    obtain ⟨_, _, _, _, _, _, rfl⟩ := screen_some (.inr (.inr ⟨i, rfl⟩)) h
    exact .idle
  | bookJobButtonPressed i =>
    obtain ⟨d, hd, -, rfl⟩ := bookJobButtonPressed_some h
    exact .booking ⟨d, rfl, hd, rfl, rfl⟩
  | bookReply b error =>
    obtain ⟨r, hb, hr, ⟨-, d, hd, rfl⟩ | ⟨m, -, rfl⟩⟩ := bookReply_some h
    · exact .bookApplied hb hr hd
    · exact .bookFailed hb hr
  | deleteJobPost jobPost => cases h; exact .idle
  | deleteReply d error =>
    obtain ⟨id, -, h⟩ := Option.bind_eq_some_iff.1 h
    cases error <;> cases h
    · exact .deleted
    · exact .idle

end PetIT.Job
