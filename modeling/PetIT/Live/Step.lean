/-
What an event of the composed system can do, read off the handlers once: the jobs move on, with a write or without;
a device gets an answer, or a document; or something becomes of one screen.
-/
import PetIT.Live.System

namespace PetIT.Live

open Table (Coordinate)

/-! ## Changes -/

/-- What has just been sent: the post that press `k` has built from its download URL, the booking that a Book press has
made, or a deletion. -/
def Sends (resolve : String → Option String) (s : State) (job : Job.State) (e : Event) : Write → Prop
  | .post k j =>
    (∃ url, e = .job (.downloadURLReply k (some url) j.createdDate)) ∧
    (∃ p, s.job.posts[k]? = some p ∧ p.phase = .fetchingURL ∧ p.docId = j.postId) ∧
    ∃ p, job.posts[k]? = some p ∧ p.Built resolve j ∧ p.Sent j
  | .book b id => ∃ r, job.bookings[b]? = some r ∧ r.postId = id
  | .delete _ => True

/-- The posts that the presses have built were built before, or are new ones. -/
def Builds (s : State) (job : Job.State) (New : Nat → JobPost → Prop) : Prop :=
  ∀ (k : Nat) (p : Job.Post) (j : JobPost), job.posts[k]? = some p → p.phase.built = some j →
    (∃ q, s.job.posts[k]? = some q ∧ q.phase.built = some j) ∨ New k j

variable {D : Type} [LinearOrder D] (resolve : String → Option String) (pf : Table.Platform)
  (distance : Coordinate → Coordinate → D)

/-- What becomes of a screen that gets no snapshot. -/
inductive ScreenChange (sc : Screen) : Screen → Prop
  | added {ownerId : Option String} {e : Content.Event} {content : Content} (he : e.Plain)
      (hall : sc.content.asksAll = true → ownerId = none)
      (hc : content = sc.content ∨ sc.content.step pf distance e = some content) :
      ScreenChange sc ({ sc with content := content }.addSnapshotListener ownerId)
  | content {e : Content.Event} {content : Content} (he : e.Plain)
      (hc : sc.content.step pf distance e = some content) : ScreenChange sc { sc with content := content }

/-- What an event can make of the state. -/
inductive Change (s : State) (e : Event) : State → Prop
  | device (user : String) : Change s e { s with devices := s.devices ++ [{ user := user }] }
  | worked {f : Job.Event} {job : Job.State} (forms : List Nat) (h : Job.step resolve s.job f = some job)
      (hb : Builds s job fun _ _ => False) : Change s e { s.advance job with forms := forms }
  | sent {f : Job.Event} {job : Job.State} {i : Nat} {d : Device} {w : Write} (h : Job.step resolve s.job f = some job)
      (hb : Builds s job fun k j => w = .post k j) (hi : s.devices[i]? = some d) (hw : Sends resolve s job e w) :
      Change s e { s.advance job with devices := s.devices.set i (d.send w), sent := s.sent ++ [(i, w)] }
  | answered {error : Option String} {job : Job.State} {i : Nat} {d d' : Device} {w : Write}
      (hi : s.devices[i]? = some d) (hd : d.answer error.isNone s.history.length = some (w, d'))
      (h : Job.step resolve s.job (w.reply s.job error) = some job) (hb : Builds s job fun _ _ => False) :
      Change s e { s.advance job with devices := s.devices.set i d' }
  | synced {i version : Nat} {id : String} {d : Device} {core : Job.Core} (hi : s.devices[i]? = some d)
      (hc : s.history[version]? = some core) (hv : d.versions id ≤ version)
      (hk : (core.jobPost.lookup id).isSome ∨ (d.replica.base.lookup id).isSome) :
      Change s e { s with devices := s.devices.set i (d.learn id (core.jobPost.lookup id) version) }
  | opened {i : Nat} {d : Device} {content : Content} (hi : s.devices[i]? = some d)
      (hc : content = .map .init ∨ ∃ screen, content = .list screen .init) :
      Change s e { s with screens := s.screens ++ [{ device := i, content := content }] }
  | screen {n : Nat} {sc sc' : Screen} (hn : s.screens[n]? = some sc) (hc : ScreenChange pf distance sc sc') :
      Change s e (s.setScreen n sc')
  | raised {n j : Nat} {sc : Screen} {l : Listener} {d : Device} (hn : s.screens[n]? = some sc)
      (hj : sc.listeners[j]? = some l) (hd : s.devices[sc.device]? = some d) :
      Change s e (s.setScreen n { sc with listeners := sc.listeners.set j { l with feed := l.feed.send d.view } })
  | received {n j : Nat} {now : Int} {sc : Screen} {l : Listener} {v : Cache} {feed : Store.Feed Cache}
      {content : Content} (hn : s.screens[n]? = some sc) (hj : sc.listeners[j]? = some l)
      (hf : l.feed.receive = some (v, feed))
      (hc : sc.content.step pf distance (sc.content.snapshot now (.ok (query l.ownerId v))) = some content) :
      Change s e { s.setScreen n { sc with
          content := content, listeners := sc.listeners.set j { l with feed := feed } } with
        job := { s.job with delivered := s.job.delivered ++ (query l.ownerId v).map JobPost.ofDict } }
  | tapped {n : Nat} {sc : Screen} {f : Content.Event} {content : Content} {user : String} {p : JobPost}
      {job : Job.State} (details : List Nat) (hn : s.screens[n]? = some sc) (he : f.Plain)
      (hc : sc.content.step pf distance f = some content)
      (h : Job.step resolve s.job (.openDetail user p) = some job) :
      Change s e { s.setScreen n { sc with content := content } with job := job, details := details }

/-! ## Every event, once -/

variable {resolve pf distance} {s s' : State} {sc : Screen} {job : Job.State}

theorem send_some {i : Nat} {w : Write} (h : s.send i w = some s') : ∃ d, s.devices[i]? = some d ∧
    s' = { s with devices := s.devices.set i (d.send w), sent := s.sent ++ [(i, w)] } := by
  obtain ⟨d, hd, h⟩ := Option.bind_eq_some_iff.1 h
  cases h
  exact ⟨d, hd, rfl⟩

/-- Only the reply to a download URL builds a post. -/
theorem builds_of_ne {f : Job.Event} (h : Job.step resolve s.job f = some job)
    (hf : ∀ k url date, f ≠ .downloadURLReply k url date) (New : Nat → JobPost → Prop) : Builds s job New := by
  intro k p j hk hj
  rcases Job.step_built h hk hj with h | ⟨url, rfl⟩
  · exact Or.inl h
  · exact absurd rfl (hf _ _ _)

theorem Write.reply_ne (w : Write) (j : Job.State) (error : Option String) (k : Nat) (url : Option String)
    (date : String) : w.reply j error ≠ .downloadURLReply k url date := by
  cases w <;> exact nofun

theorem job_change {f : Job.Event} (h : Live.job resolve s f = some s') : Change resolve pf distance s (.job f) s' := by
  obtain ⟨job, hjob, h⟩ := Option.bind_eq_some_iff.1 h
  have hrest : (∀ k url date, f ≠ .downloadURLReply k url date) →
      Change resolve pf distance s (.job f) (s.advance job) := fun hf =>
    .worked s.forms hjob (builds_of_ne hjob hf _)
  cases f with
  | downloadURLReply k url date =>
    obtain ⟨p, hp, hph, hpost⟩ := Job.downloadURLReply_some hjob
    have hk : (s.job.setPhase k p .failed).posts[k]? = some { p with phase := .failed } := Slots.getElem?_set_self hp
    rcases hpost with ⟨-, rfl⟩ | ⟨v, rfl, hv, rfl⟩
    · -- without a URL nothing is built
      dsimp only at h
      rw [hk] at h
      cases h
      refine .worked s.forms hjob fun i q j hi hj => Or.inl ?_
      rcases Slots.set_cases hi with ⟨rfl, rfl⟩ | ⟨-, hi⟩
      · cases hj
      · exact ⟨q, hi, hj⟩
    · have hk' : (s.job.setPhase k p (.posting (p.captured.jobPost p.docId v date))).posts[k]? =
          some { p with phase := .posting (p.captured.jobPost p.docId v date) } := Slots.getElem?_set_self hp
      obtain ⟨q, hq, h⟩ := Option.bind_eq_some_iff.1 h
      rw [hk'] at hq
      cases hq
      obtain ⟨i, -, h⟩ := Option.bind_eq_some_iff.1 h
      obtain ⟨d, hd, rfl⟩ := send_some h
      refine .sent hjob (fun i q j hi hj => ?_) hd
        ⟨⟨v, rfl⟩, ⟨p, hp, hph, rfl⟩, _, hk', ⟨v, date, hv, rfl⟩, Or.inl rfl⟩
      rcases Slots.set_cases hi with ⟨rfl, rfl⟩ | ⟨-, hi⟩
      · cases hj; exact Or.inr rfl
      · exact Or.inl ⟨q, hi, hj⟩
  | bookJobButtonPressed n =>
    obtain ⟨d, hd, -, rfl⟩ := Job.bookJobButtonPressed_some hjob
    obtain ⟨d', hd', h⟩ := Option.bind_eq_some_iff.1 h
    rw [hd] at hd'; cases hd'
    obtain ⟨i, -, h⟩ := Option.bind_eq_some_iff.1 h
    obtain ⟨dev, hdev, rfl⟩ := send_some h
    exact .sent hjob (builds_of_ne hjob nofun _) hdev ⟨_, Slots.getElem?_concat_self _ _, rfl⟩
  | edit | postButtonPressed | uploadReply | profileUpload | viewWillAppear | fetchUserReply | updateUI =>
    cases h
    exact hrest nofun
  | openForm | postJobReply | snapshot | openDetail | bookReply | deleteJobPost | deleteReply => cases h

theorem screen_change {n : Nat} {e : Content.Event} (h : screen resolve pf distance s n e = some s') :
    Change resolve pf distance s (.screen n e) s' := by
  obtain ⟨he, h⟩ := Run.guard_bind.1 h
  obtain ⟨sc, hn, h⟩ := Option.bind_eq_some_iff.1 h
  obtain ⟨content, hc, h⟩ := Option.bind_eq_some_iff.1 h
  dsimp only at h
  split at h
  · cases h
    exact .screen hn (.content (.of_own he) hc)
  · obtain ⟨d, -, h⟩ := Option.bind_eq_some_iff.1 h
    obtain ⟨job, hjob, h⟩ := Option.bind_eq_some_iff.1 h
    cases h
    exact .tapped _ hn (.of_own he) hc hjob

theorem step_change {e : Event} (h : step resolve pf distance s e = some s') :
    Change resolve pf distance s e s' := by
  cases e with
  | newDevice user => cases h; exact .device user
  | openForm i =>
    obtain ⟨-, -, h⟩ := Option.bind_eq_some_iff.1 h
    cases h
    have hjob : Job.step resolve s.job .openForm = some { s.job with forms := s.job.forms ++ [{}] } := rfl
    exact .worked _ hjob (builds_of_ne hjob nofun _)
  | job f => exact job_change h
  | deleteJobPost i jobPost =>
    obtain ⟨d, hd, rfl⟩ := send_some h
    have hjob : Job.step resolve s.job (.deleteJobPost jobPost) =
        some { s.job with deletions := s.job.deletions ++ [jobPost.postId] } := rfl
    exact .sent (w := .delete jobPost.postId) hjob (builds_of_ne hjob nofun _) hd trivial
  | answer i error =>
    obtain ⟨d, hd, h⟩ := Option.bind_eq_some_iff.1 h
    obtain ⟨⟨w, d'⟩, hans, h⟩ := Option.bind_eq_some_iff.1 h
    obtain ⟨job, hjob, h⟩ := Option.bind_eq_some_iff.1 h
    cases h
    exact .answered hd hans hjob (builds_of_ne hjob (w.reply_ne _ _) _)
  | sync i id version =>
    obtain ⟨d, hd, h⟩ := Option.bind_eq_some_iff.1 h
    obtain ⟨core, hc, h⟩ := Option.bind_eq_some_iff.1 h
    obtain ⟨hv, h⟩ := Run.guard_bind.1 h
    obtain ⟨hk, h⟩ := Run.guard_bind.1 h
    cases h
    exact .synced hd hc hv hk
  | openList i screen =>
    obtain ⟨d, hd, h⟩ := Option.bind_eq_some_iff.1 h
    cases h
    exact .opened hd (Or.inr ⟨screen, rfl⟩)
  | openMap i =>
    obtain ⟨d, hd, h⟩ := Option.bind_eq_some_iff.1 h
    cases h
    exact .opened hd (Or.inl rfl)
  | fetchBlogPosts n =>
    obtain ⟨sc, hn, h⟩ := Option.bind_eq_some_iff.1 h
    obtain ⟨-, h⟩ := Run.guard_bind.1 h
    cases h
    exact .screen hn (.added (e := .table .reload) trivial (fun _ => rfl) (Or.inl rfl))
  | fetchOwnerPosts n owner =>
    obtain ⟨sc, hn, h⟩ := Option.bind_eq_some_iff.1 h
    obtain ⟨content, hc, h⟩ := Option.bind_eq_some_iff.1 h
    cases h
    refine .screen hn (.added (e := .table (.fetchedOwner owner)) trivial (fun hall => ?_) (Or.inr hc))
    -- only the Profile has an owner to set
    rcases Content.step_cases hc with ⟨screen, t, te, t', hsc, hte, -, ht⟩ | ⟨m, me, m', -, hme, -⟩
    · cases hte
      obtain ⟨-, ht⟩ := Run.guard_bind.1 ht
      obtain ⟨hp, -⟩ := Run.guard_bind.1 ht
      rw [hsc, hp] at hall
      cases hall
    · cases hme
  | raise n j =>
    obtain ⟨sc, hn, h⟩ := Option.bind_eq_some_iff.1 h
    obtain ⟨l, hj, h⟩ := Option.bind_eq_some_iff.1 h
    obtain ⟨d, hd, h⟩ := Option.bind_eq_some_iff.1 h
    cases h
    exact .raised hn hj hd
  | receive n j now =>
    obtain ⟨sc, hn, h⟩ := Option.bind_eq_some_iff.1 h
    obtain ⟨l, hj, h⟩ := Option.bind_eq_some_iff.1 h
    obtain ⟨⟨v, feed⟩, hf, h⟩ := Option.bind_eq_some_iff.1 h
    obtain ⟨content, hc, h⟩ := Option.bind_eq_some_iff.1 h
    cases h
    exact .received hn hj hf hc
  | failed n now message =>
    obtain ⟨sc, hn, h⟩ := Option.bind_eq_some_iff.1 h
    obtain ⟨content, hc, h⟩ := Option.bind_eq_some_iff.1 h
    cases h
    refine .screen hn (.content ?_ hc)
    cases sc.content <;> trivial
  | screen n e => exact screen_change h

end PetIT.Live
