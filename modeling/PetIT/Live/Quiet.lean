/-
A screen that everything has arrived at: its device has no write under way and has heard of the collection as it is,
and its listeners have got that. Whatever happened before, such a screen has the posts that were posted and not
deleted, each once, booked or not; and a table whose reload blocks have run has them in its rows.
-/
import PetIT.Live.Posts

namespace PetIT.Live

open Table (Coordinate)
open Job (listed CreatedBy IsBooked DocOK)

/-! ## Definitions -/

/-- The device has no write under way, and its client has the documents of the server. -/
structure Device.Current (d : Device) (jobPost : Store.Collection String String Value) : Prop where
  pending : d.replica.pending = []
  document : ∀ id, d.replica.base.document id = jobPost.lookup id

/-- The screen's listeners ask for the posts of `ownerId`, or for all; nothing is on its way to them, and the result
that each got last is the one on the device, which is current. -/
structure Quiet (s : State) (sc : Screen) (ownerId : Option String) : Prop where
  listens : sc.listeners ≠ []
  asks : ∀ l ∈ sc.listeners, l.ownerId = ownerId
  arrived : ∀ l ∈ sc.listeners, l.feed.inbox = []
  last : ∃ d, s.devices[sc.device]? = some d ∧ d.Current s.job.jobPost ∧
    ∀ l ∈ sc.listeners, ∃ v, l.feed.sent.getLast? = some v ∧ query ownerId v = query ownerId d.view

variable {D : Type} [LinearOrder D] {resolve : String → Option String} {pf : Table.Platform}
  {distance : Coordinate → Coordinate → D} {s : State} {sc : Screen} {d : Device} {ownerId : Option String} {v : Cache}
  {p : JobPost} {jobPost : Store.Collection String String Value}

/-! ## The result of a query -/

theorem Device.Current.view (h : d.Current jobPost) (id : String) : d.view.document id = jobPost.lookup id := by
  have hv : d.view = d.replica.base := by
    unfold Device.view Store.Replica.view
    rw [h.pending]
    rfl
  rw [hv]
  exact h.document id

/-- The documents of the collection, as the presses that created them. -/
theorem mem_query_iff (hi : Job.Inv resolve s.job.core) (hv : ∀ id, v.document id = s.job.jobPost.lookup id) :
    (∃ d ∈ query ownerId v, JobPost.ofDict d = p) ↔ ∃ k q j, CreatedBy s.job.posts p.postId k q j ∧
      (s.job.jobPost.lookup p.postId).isSome ∧ (∀ u ∈ ownerId, j.ownerId = u) ∧
      p = listed j (IsBooked s.job.bookings p.postId) := by
  simp only [mem_query, hv]
  constructor
  · rintro ⟨d, ⟨id, hd, hm⟩, rfl⟩
    obtain ⟨k, q, j, hcr, hdoc, hid⟩ := hi.listed hd
    obtain rfl : (JobPost.ofDict d).postId = id := hdoc.postId.trans hid
    refine ⟨k, q, j, hcr, by rw [hd]; rfl, fun u hu => ?_, hdoc.ofDict⟩
    have ho := hm u hu
    rw [hdoc.ownerId, Option.some.injEq] at ho
    exact Value.string_injective ho
  · rintro ⟨k, q, j, hcr, hsome, ho, hp⟩
    obtain ⟨d, hd⟩ := Option.isSome_iff_exists.1 hsome
    obtain ⟨k', q', j', hcr', hdoc, -⟩ := hi.listed hd
    obtain rfl := hcr.unique hi.docIds hcr'
    refine ⟨d, ⟨p.postId, hd, fun u hu => ?_⟩, hdoc.ofDict.trans hp.symm⟩
    rw [hdoc.ownerId, ho u hu]

/-! ## The posts of a quiet screen -/

/-- A quiet screen has the result of its query on the device. -/
theorem Quiet.sorted (hq : Quiet s sc ownerId) (hok : sc.OK pf distance s) :
    ∃ v, (∀ id, v.document id = s.job.jobPost.lookup id) ∧ sc.content.Sorted pf distance (query ownerId v) := by
  obtain ⟨d, -, hcurrent, hlast⟩ := hq.last
  refine ⟨d.view, hcurrent.view, ?_⟩
  have hshown : ∀ l ∈ sc.listeners, ∃ v, l.feed.shown = some v ∧ query ownerId v = query ownerId d.view := by
    intro l hl
    rw [Store.Feed.shown_of_inbox (hq.arrived l hl)]
    exact hlast l hl
  rcases hok.shows.latest with ⟨-, hseen⟩ | ⟨j, l, hj, v, hv, hs⟩
  · -- a listener has got something
    obtain ⟨l, hl⟩ := List.exists_mem_of_ne_nil _ hq.listens
    obtain ⟨j, hj⟩ := List.mem_iff_getElem?.1 hl
    obtain ⟨v, hv, -⟩ := hshown l hl
    unfold Store.Feed.shown at hv
    rw [hseen j l hj] at hv
    cases hv
  · have hl := List.mem_of_getElem? hj
    obtain ⟨v', hv', hquery⟩ := hshown l hl
    rw [hv, Option.some.injEq] at hv'
    subst hv'
    rw [hq.asks l hl, hquery] at hs
    exact hs

/-- In every run a screen that everything has arrived at has exactly the posts whose documents were created and not
deleted, of its owner if it asks for one, each once and booked exactly if a booking of it has been applied; and a
table with no reload block waiting has those posts in its rows. -/
theorem quiet_screen (resolve : String → Option String) (pf : Table.Platform)
    (distance : Coordinate → Coordinate → D) (es : List Event) (s : State)
    (h : Run.exec (step resolve pf distance) State.init es = some s) (n : Nat) (sc : Screen)
    (hn : s.screens[n]? = some sc) (ownerId : Option String) (hq : Quiet s sc ownerId) :
    (sc.content.jobPosts.map (·.postId)).Nodup ∧
    (∀ p, p ∈ sc.content.jobPosts ↔ ∃ k q j, CreatedBy s.job.posts p.postId k q j ∧
      (s.job.jobPost.lookup p.postId).isSome ∧ (∀ u ∈ ownerId, j.ownerId = u) ∧
      p = listed j (IsBooked s.job.bookings p.postId)) ∧
    ∀ screen t, sc.content = .list screen t → t.reloads = 0 → t.rowCount = t.jobPosts.length ∧
      ∀ row r, t.rows row = some r → t.jobPosts[row]? = some r.jobPost := by
  have hi := Inv.exec h
  have hok := hi.screens n sc hn
  obtain ⟨v, hv, hs⟩ := hq.sorted hok
  refine ⟨hok.postIds_nodup, fun p => hs.mem.trans (mem_query_iff hi.history.present hv), fun screen t hsc h0 => ?_⟩
  have hsynced : Table.Synced t := by
    have hsound := hok.shows.sound
    rw [hsc] at hsound
    exact hsound
  exact ⟨hsynced.rowCount h0, hsynced.rows h0⟩

/-! ## Samples -/

/-- Ann, as her Profile fetches her. -/
def sampleAnn : UserModel := ⟨"ann", "Ann", "a@x", none, none, "", none, none, none, none, none, none⟩

/-- Ann and Bob post jobs, Ann one more, and each device hears of the posts of the other. -/
def samplePosts : List Event :=
  sampleOwn ++ [.answer 0 none, .sync 1 "job1" 6] ++
  samplePress 1 1 "bob" "job2" "https://storage/tom.jpg" "2019-03-28T10:00:00Z" ++
  [.answer 1 none, .sync 0 "job2" 12] ++
  samplePress 0 2 "ann" "job3" "https://storage/max.jpg" "2019-03-29T10:00:00Z" ++
  [.answer 0 none, .sync 1 "job3" 18]

/-- Everything arrives at Bob's Job List and at Ann's Profile. -/
def sampleQuiet : List Event := samplePosts ++ [
  .openList 1 .jobList, .fetchBlogPosts 1, .raise 1 0, .receive 1 0 0,
  .openList 0 .profile, .fetchOwnerPosts 2 sampleAnn, .raise 2 0, .receive 2 0 0]

theorem document_of_entries (h : v.entries = jobPost.entries.map fun e => ⟨e.1, some e.2⟩) (id : String) :
    v.document id = jobPost.lookup id := by
  refine Option.ext fun d => ?_
  rw [Store.Cache.document_eq_some, ← Option.mem_def, ← Option.mem_def, AList.mem_lookup_iff, AList.mem_lookup_iff, h,
    List.mem_map]
  constructor
  · rintro ⟨e, he, heq⟩
    cases heq; exact he
  · exact fun he => ⟨⟨id, d⟩, he, rfl⟩

theorem Quiet.of_view {l : Listener} (hls : sc.listeners = [l]) (ho : l.ownerId = ownerId) (hin : l.feed.inbox = [])
    (hd : s.devices[sc.device]? = some d) (hp : d.replica.pending = [])
    (he : d.replica.base.entries = s.job.jobPost.entries.map fun e => ⟨e.1, some e.2⟩)
    (hv : l.feed.sent.getLast? = some d.view) : Quiet s sc ownerId := by
  refine ⟨by rw [hls]; exact List.cons_ne_nil _ _, ?_, ?_, d, hd, ⟨hp, document_of_entries he⟩, ?_⟩
  · rw [hls]; exact List.forall_mem_singleton.2 ho
  · rw [hls]; exact List.forall_mem_singleton.2 hin
  · rw [hls]; exact List.forall_mem_singleton.2 ⟨d.view, hv, rfl⟩

theorem sampleQuiet_quiet : ∃ (s : State) (list profile : Screen) (t t' : Table.State),
    sampleExec State.init sampleQuiet = some s ∧ s.screens[1]? = some list ∧ s.screens[2]? = some profile ∧
    list.device ≠ profile.device ∧ list.content = .list .jobList t ∧ profile.content = .list .profile t' ∧
    t.jobPosts.map (·.postId) = ["job3", "job2", "job1"] ∧ t'.jobPosts.map (·.postId) = ["job3", "job1"] ∧
    Quiet s list none ∧ Quiet s profile (some "ann") ∧ s.job.posts.length = 3 :=
  ⟨_, _, _, _, _, rfl, rfl, rfl, by decide, rfl, rfl, rfl, rfl, .of_view rfl rfl rfl rfl rfl rfl rfl,
    .of_view rfl rfl rfl rfl rfl rfl rfl, rfl⟩

theorem quiet_screen_sample : ∃ (s : State) (sc : Screen), sampleExec State.init sampleQuiet = some s ∧
    s.screens[1]? = some sc ∧ sc.content.jobPosts.map (·.postId) = ["job3", "job2", "job1"] ∧
    ∀ p, p ∈ sc.content.jobPosts ↔ ∃ k q j, CreatedBy s.job.posts p.postId k q j ∧
      (s.job.jobPost.lookup p.postId).isSome ∧ (∀ u ∈ (none : Option String), j.ownerId = u) ∧
      p = listed j (IsBooked s.job.bookings p.postId) := by
  obtain ⟨s, sc, -, t, -, hs, hn, -, -, hsc, -, hids, -, hq, -⟩ := sampleQuiet_quiet
  obtain ⟨-, hposts, -⟩ := quiet_screen sampleResolve samplePlatform Map.sampleDistance sampleQuiet s hs 1 sc hn none hq
  exact ⟨s, sc, hs, hn, by rw [hsc]; exact hids, hposts⟩

end PetIT.Live
