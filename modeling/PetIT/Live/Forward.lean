/-
What a screen shows over time. Its listeners stay and only ever get more, each what its device comes to show; so what
one listener brings can only become booked, and once gone does not come back, unless the server refuses a write of the
device to that post. Only another listener, which may be behind, takes a screen back.
-/
import PetIT.Live.Posts

namespace PetIT.Live

open Table (Coordinate)
open JobPostCollectionKeys

/-- The server has refused device `i` a write to the document. -/
def State.Refused (s : State) (i : Nat) (id : String) : Prop := ∃ d, s.devices[i]? = some d ∧ id ∈ d.refused

/-- The screen has the posts that its listener `j` got last. -/
structure Showing (sc : Screen) (j : Nat) (l : Listener) (v : Cache) : Prop where
  get : sc.listeners[j]? = some l
  shown : l.feed.shown = some v
  mem_iff : ∀ p, p ∈ sc.content.jobPosts ↔
    ∃ id d, v.document id = some d ∧ Matches l.ownerId d ∧ JobPost.ofDict d = p

variable {D : Type} [LinearOrder D] {resolve : String → Option String} {pf : Table.Platform}
  {distance : Coordinate → Coordinate → D} {s s' : State} {sc sc' sc'' : Screen} {i i' j k k' : Nat}
  {l l' l'' : Listener}
  {v v' v'' : Cache} {p q : JobPost} {id : String} {d d' : Document} {jobPost jobPost' : JobPost}
  {refused : List String} {core core' : Job.Core} {sent sent' : List (Nat × Write)}

theorem receive_showing {n : Nat} {now : Int} (h : step resolve pf distance s (.receive n j now) = some s')
    (hi : Inv pf distance resolve s) (hn : s'.screens[n]? = some sc) : ∃ l v, Showing sc j l v := by
  obtain ⟨sc₀, hn₀, h⟩ := Option.bind_eq_some_iff.1 h
  obtain ⟨l, hj, h⟩ := Option.bind_eq_some_iff.1 h
  obtain ⟨⟨v, feed⟩, hf, h⟩ := Option.bind_eq_some_iff.1 h
  obtain ⟨content, hc, h⟩ := Option.bind_eq_some_iff.1 h
  cases h
  obtain rfl : _ = sc := Option.some.inj ((Slots.getElem?_set_self hn₀).symm.trans hn)
  have hsorted := (Content.step_snapshot hc (hi.screens n sc₀ hn₀).shows.sound).1
  refine ⟨{ l with feed := feed }, v, Slots.getElem?_set_self hj, Store.Feed.shown_receive hf, fun p => ?_⟩
  rw [hsorted.mem]
  simp only [mem_query]
  constructor
  · rintro ⟨d, ⟨id, hd, hm⟩, rfl⟩
    exact ⟨id, d, hd, hm, rfl⟩
  · rintro ⟨id, d, hd, hm, rfl⟩
    exact ⟨d, ⟨id, hd, hm⟩, rfl⟩

/-! ## One document, earlier and later -/

/-- What is known of a document that was there: it is there with the same content, booked if it was, or it is gone. -/
theorem Up.document (h : Up refused v v') (hid : id ∉ refused) (hd : v.document id = some d) :
    stage v' id = .gone ∨ ∃ d', v'.document id = some d' ∧ Job.content d' = Job.content d ∧
      (d statusKey = some (.string "BOOKED") → d' statusKey = some (.string "BOOKED")) := by
  have hle := h id hid
  have hstage : stage v id = _ := Store.Cache.entry_of_document hd
  rw [hstage, Store.Entry.live_le] at hle
  rcases hle with hgone | ⟨n, hlive, hmark⟩
  · exact Or.inl hgone
  · obtain ⟨d', hd', hc, rfl⟩ := Store.Cache.document_of_live hlive
    refine Or.inr ⟨d', hd', hc, fun hb => ?_⟩
    exact of_decide_eq_true (hmark (decide_eq_true hb))

/-- Two documents of one content are of one owner. -/
theorem Matches.congr {ownerId : Option String} (h : Matches ownerId d) (hc : Job.content d' = Job.content d) :
    Matches ownerId d' := fun u hu => by
  rw [Job.field_of_content hc (by decide)]
  exact h u hu

/-! ## One listener, earlier and later -/

/-- The document under the id of a post on the screen. -/
theorem Showing.document (h : Showing sc j l v) (hk : Known core sent i v) (hp : p ∈ sc.content.jobPosts) :
    ∃ d, v.document p.postId = some d ∧ Matches l.ownerId d ∧ JobPost.ofDict d = p := by
  obtain ⟨id, d, hd, hm, rfl⟩ := (h.mem_iff p).1 hp
  obtain ⟨k, jobPost, hdoc⟩ := hk id d hd
  rw [hdoc.postId_ofDict]
  exact ⟨d, hd, hm, rfl⟩

theorem Showing.known (h : Showing sc j l v) (hok : sc.OK pf distance s) : Known s.job.core s.sent sc.device v := by
  obtain ⟨d, hd, hls⟩ := hok.listeners
  exact (hls j l h.get).known v (Store.Feed.mem_sent_of_shown h.shown)

theorem State.Refused.later (hr : s.Refused i id) (h : Later s s') : s'.Refused i id := by
  obtain ⟨d, hd, hm⟩ := hr
  obtain ⟨d', hd', ha⟩ := h.devices i d hd
  exact ⟨d', hd', ha.refused hm⟩

/-- What one listener brings later is above what it brought, for the same query. -/
theorem Showing.up (h : Showing sc j l v) (h' : Showing sc' j l' v') (he : sc.Extends sc')
    (hok' : sc'.OK pf distance s) (hr : ¬ s.Refused sc.device id) :
    l'.ownerId = l.ownerId ∧ ∃ refused, id ∉ refused ∧ Up refused v v' := by
  obtain ⟨dev, hdev, hls⟩ := hok'.listeners
  obtain ⟨m, hm, ho, hseen⟩ := he.listeners j l h.get
  rw [h'.get] at hm; cases hm
  refine ⟨ho, dev.refused, fun hmem => hr ⟨dev, he.device ▸ hdev, hmem⟩, ?_⟩
  exact (hls j l' h'.get).ordered.shown_rel (Up.refl _) hseen h.shown h'.shown

/-- A post that is still there is as it was, or has been booked. -/
theorem Showing.later (h : Showing sc j l v) (h' : Showing sc' j l' v') (hu : Up refused v v')
    (hid : p.postId ∉ refused) (hk : Known core sent i v) (hk' : Known core' sent' i' v')
    (hp : p ∈ sc.content.jobPosts) (hq : q ∈ sc'.content.jobPosts) (hqp : q.postId = p.postId) :
    q = p ∨ p.status = "PENDING" ∧ q = { p with status := "BOOKED" } := by
  obtain ⟨d, hd, -, rfl⟩ := h.document hk hp
  obtain ⟨d', hd', -, rfl⟩ := h'.document hk' hq
  rw [hqp] at hd'
  rcases hu.document hid hd with hgone | ⟨d₀, hd₀, hc, hm⟩
  · rw [Store.Cache.document_of_gone hgone] at hd'
    cases hd'
  · rw [hd₀] at hd'; cases hd'
    obtain ⟨k, jobPost, hdoc⟩ := hk _ d hd
    obtain ⟨k', jobPost', hdoc'⟩ := hk' _ d' hd₀
    obtain ⟨b, hb, -⟩ := hdoc.doc
    obtain ⟨b', hb', -⟩ := hdoc'.doc
    exact Job.ofDict_stage hb hb' hc.symm hm

/-- A post that is no longer there is gone: its document would still be one of the query. -/
theorem Showing.gone (h : Showing sc j l v) (h' : Showing sc' j l' v') (ho : l'.ownerId = l.ownerId)
    (hu : Up refused v v') (hid : p.postId ∉ refused) (hk : Known core sent i v) (hk' : Known core' sent' i' v')
    (hp : p ∈ sc.content.jobPosts) (hnone : ∀ q ∈ sc'.content.jobPosts, q.postId ≠ p.postId) :
    stage v' p.postId = .gone := by
  obtain ⟨d, hd, hm, -⟩ := h.document hk hp
  rcases hu.document hid hd with hgone | ⟨d', hd', hc, -⟩
  · exact hgone
  · obtain ⟨k, jobPost, hdoc⟩ := hk' _ d' hd'
    have hq := (h'.mem_iff (JobPost.ofDict d')).2 ⟨_, d', hd', ho ▸ hm.congr hc, rfl⟩
    exact absurd hdoc.postId_ofDict (hnone _ hq)

/-! ## The result -/

/-- The booking is applied, and Ann's post is deleted. -/
def sampleDelete : List Event := [
  .answer 1 none, .deleteJobPost 0 Job.samplePosted, .answer 0 none, .sync 1 "job1" 10, .raise 1 0]

/-- Bob's list reads the job as booked while the booking is on its way, and as pending again when it is refused. -/
example : (sampleExec State.init (sampleList ++ sampleBook ++
    [.receive 1 0 0, .answer 1 (some "unavailable"), .raise 1 0, .receive 1 0 0])).bind
      (fun s => s.screens[1]?.map fun sc => sc.listeners.map fun l => l.feed.seen.map fun v =>
        (query none v).map fun d => (JobPost.ofDict d).status) = some [[["PENDING"], ["BOOKED"], ["PENDING"]]] := by
  decide

/-- A second listener that is behind the first brings the booked post back as pending. -/
example : (sampleExec State.init (sampleList ++
    [.fetchBlogPosts 1, .raise 1 1] ++ sampleBook ++ [.receive 1 0 0, .receive 1 1 0])).bind
      (fun s => s.screens[1]?.map fun sc => sc.content.jobPosts.map (·.status)) = some ["PENDING"] := by decide

end PetIT.Live
