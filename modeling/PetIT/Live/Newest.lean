/-
The order of the lists over whole runs. When every form stamps its post with the reading of a clock, the dates of all
posts parse, those that a device has only sent among them. So the comparison the lists sort by is legal whatever the
clock shows, a list is in the order of the readings in every state, and the Profile has the Job List's posts of its
owner in the Job List's order.
-/
import PetIT.Table.Newest
import PetIT.Table.Timestamp
import PetIT.Live.Quiet

namespace PetIT.Live

open Table (Coordinate Formatter getISOTimestamp Readable created newer)
open Job (listed CreatedBy IsBooked DocOK)

/-! ## Stamps -/

/-- A post is built with the timestamp of the reading of its press's clock. -/
def Stamped {pf : Table.Platform} (formatter : Formatter pf) (reading : Nat → Nat) : Event → Prop
  | .job (.downloadURLReply k (some _) createdDate) => createdDate = getISOTimestamp formatter (reading k)
  | _ => True

/-- The posts that were sent carry the timestamps of their presses. -/
def Dates {pf : Table.Platform} (formatter : Formatter pf) (reading : Nat → Nat) (s : State) : Prop :=
  ∀ i k j, (i, Write.post k j) ∈ s.sent → j.createdDate = getISOTimestamp formatter (reading k)

variable {D : Type} [LinearOrder D] {resolve : String → Option String} {pf : Table.Platform}
  {distance : Coordinate → Coordinate → D} {formatter : Formatter pf} {reading : Nat → Nat} {s s' : State}
  {sc : Screen} {core : Job.Core} {sent : List (Nat × Write)} {i k : Nat} {id : String} {d : Document} {j : JobPost}
  {p q : JobPost} {v v' : Cache} {docs : List Document}

theorem Dates.change {e : Event} (hd : Dates formatter reading s) (he : Stamped formatter reading e)
    (hc : Change resolve pf distance s e s') : Dates formatter reading s' := by
  cases hc with
  | sent h hb hi hw =>
    intro i k j hmem
    rcases List.mem_append.1 hmem with hmem | hmem
    · exact hd i k j hmem
    · obtain ⟨rfl, rfl⟩ := Prod.mk.inj (List.mem_singleton.1 hmem)
      -- the press has just built the post, by this event
      obtain ⟨⟨url, rfl⟩, -⟩ := hw
      exact he
  | _ => exact hd

theorem Dates.exec {es : List Event} (h : Run.exec (step resolve pf distance) State.init es = some s)
    (hes : ∀ e ∈ es, Stamped formatter reading e) : Dates formatter reading s := by
  refine Run.exec_trace (H := fun es s => (∀ e ∈ es, Stamped formatter reading e) → Dates formatter reading s)
    (fun _ i k j hmem => ?_) (fun es t e t' _ ih ht hes => ?_) h hes
  · cases hmem
  · exact (ih fun f hf => hes f (List.mem_append_left _ hf)).change (hes e (by simp)) (step_change ht)

theorem DocFrom.createdDate (h : DocFrom core sent i id d k j) : (JobPost.ofDict d).createdDate = j.createdDate := by
  obtain ⟨b, hd, -⟩ := h.doc
  rw [hd.ofDict]
  rfl

/-- The date of a document that a device knows of parses, as the second of its press. -/
theorem DocFrom.isoDate (h : DocFrom core s.sent i id d k j) (hd : Dates formatter reading s)
    (hr : ∀ k, Readable (reading k)) :
    pf.isoDate (JobPost.ofDict d).createdDate = some ((reading k / 1000 : Nat) : Int) := by
  obtain ⟨i', hi', -⟩ := h.post
  rw [h.createdDate, hd i' k j hi']
  exact formatter.isoDate_string _ (hr k)

/-! ## Results of known documents -/

/-- Every document of the result is that of a press, and its date parses as the press's second. -/
def Timed (pf : Table.Platform) (reading : Nat → Nat) (s : State) (docs : List Document) : Prop :=
  ∀ d ∈ docs, ∃ k r, s.job.posts[k]? = some r ∧ r.docId = (JobPost.ofDict d).postId ∧
    pf.isoDate (JobPost.ofDict d).createdDate = some ((reading k / 1000 : Nat) : Int)

theorem Known.timed (h : Known s.job.core s.sent i v) (hl : Ledger resolve s.job.core s.sent)
    (hd : Dates formatter reading s) (hr : ∀ k, Readable (reading k)) (ownerId : Option String) :
    Timed pf reading s (query ownerId v) := by
  intro d hmem
  obtain ⟨id, hdoc, -⟩ := mem_query.1 hmem
  obtain ⟨k, j, hdoc⟩ := h id d hdoc
  obtain ⟨r, hk, hid, -⟩ := hl.press hdoc
  exact ⟨k, r, hk, hid.trans hdoc.postId_ofDict.symm, hdoc.isoDate hd hr⟩

theorem Timed.isSome (h : Timed pf reading s docs) :
    ∀ p ∈ docs.map JobPost.ofDict, (pf.isoDate p.createdDate).isSome := by
  intro p hp
  obtain ⟨d, hd, rfl⟩ := List.mem_map.1 hp
  obtain ⟨k, r, -, -, hiso⟩ := h d hd
  rw [hiso]
  rfl

/-- A post is sorted by the second of its press. -/
theorem Timed.created_eq (h : Timed pf reading s docs) (hi : Job.Inv resolve s.job.core) {r : Job.Post}
    (hp : p ∈ docs.map JobPost.ofDict) (hk : s.job.posts[k]? = some r) (hid : r.docId = p.postId) :
    created pf.isoDate p = OrderDual.toDual ((reading k / 1000 : Nat) : Int) := by
  obtain ⟨d, hd, rfl⟩ := List.mem_map.1 hp
  obtain ⟨k', r', hk', hid', hiso⟩ := h d hd
  obtain rfl := Slots.index_eq hi.docIds hk' hk (hid'.trans hid.symm)
  unfold created
  rw [hiso]
  rfl

/-- Where all dates parse, the comparison goes by them. -/
theorem follows_of_parse {isoDate : String → Option Int} {posts : List JobPost}
    (h : ∀ p ∈ posts, (isoDate p.createdDate).isSome) (now : Int × Int) :
    Sorting.Follows posts (newer isoDate now) (created isoDate) := by
  refine .of_iff fun p hp q hq => ?_
  obtain ⟨t, ht⟩ := Option.isSome_iff_exists.1 (h p hp)
  obtain ⟨u, hu⟩ := Option.isSome_iff_exists.1 (h q hq)
  unfold newer created
  rw [Table.date_of_some ht, Table.date_of_some hu, ht, hu]
  simp

/-! ## The order of a list -/

/-- In every run whose posts are stamped by clocks, whatever is raised for a listener, with the posts its device has
only sent: the comparison that the lists sort by is a strict weak order on it, whatever the clock shows at each
reading, and so is the array the same whatever the clock shows. -/
theorem sorts_legally (resolve : String → Option String) (pf : Table.Platform)
    (distance : Coordinate → Coordinate → D) (formatter : Formatter pf) (reading : Nat → Nat)
    (hr : ∀ k, Readable (reading k)) (es : List Event) (s : State)
    (h : Run.exec (step resolve pf distance) State.init es = some s) (hes : ∀ e ∈ es, Stamped formatter reading e)
    (n : Nat) (sc : Screen) (hn : s.screens[n]? = some sc) (l : Listener) (hl : l ∈ sc.listeners) (v : Cache)
    (hv : v ∈ l.feed.sent) :
    (∀ clock : Table.Clock Int, ∃ p, Sorting.Legal ((query l.ownerId v).map JobPost.ofDict) p ∧
      Table.Answers pf.isoDate clock ((query l.ownerId v).map JobPost.ofDict) p) ∧
    ∀ now now', pf.newestFirst now (query l.ownerId v) = pf.newestFirst now' (query l.ownerId v) := by
  have hi := Inv.exec h
  obtain ⟨dev, -, hls⟩ := (hi.screens n sc hn).listeners
  obtain ⟨j, hj⟩ := List.mem_iff_getElem?.1 hl
  have hparse := (((hls j l hj).known v hv).timed hi.ledger (Dates.exec h hes) hr l.ownerId).isSome
  refine ⟨fun clock => ⟨newer pf.isoDate (0, 0), Table.newer_legal_of_parse hparse _, Table.answers_of_parse hparse _⟩,
    fun now now' => ?_⟩
  rw [Table.newestFirst_eq, Table.newestFirst_eq]
  exact Sorting.sorted_congr (Table.newer_of_parse hparse _ _)

/-- In every state of a run whose posts are stamped by clocks, no list has a post above one whose press read its clock
in a later second. -/
theorem newest_on_top (resolve : String → Option String) (pf : Table.Platform)
    (distance : Coordinate → Coordinate → D) (formatter : Formatter pf) (reading : Nat → Nat)
    (hr : ∀ k, Readable (reading k)) (es : List Event) (s : State)
    (h : Run.exec (step resolve pf distance) State.init es = some s) (hes : ∀ e ∈ es, Stamped formatter reading e)
    (n : Nat) (sc : Screen) (hn : s.screens[n]? = some sc) (screen : Table.Screen) (t : Table.State)
    (hsc : sc.content = .list screen t) :
    t.jobPosts.Pairwise fun p q => ∀ k r k' r', s.job.posts[k]? = some r → r.docId = p.postId →
      s.job.posts[k']? = some r' → r'.docId = q.postId → reading k' / 1000 ≤ reading k / 1000 := by
  have hi := Inv.exec h
  have hok := hi.screens n sc hn
  obtain ⟨dev, -, hls⟩ := hok.listeners
  rcases hok.shows.latest with ⟨hnil, -⟩ | ⟨j, l, hj, v, hv, hs⟩
  · rw [hsc] at hnil
    rw [show t.jobPosts = [] from hnil]
    exact List.Pairwise.nil
  · have htimed := ((hls j l hj).known v (Store.Feed.mem_sent_of_shown hv)).timed hi.ledger (Dates.exec h hes) hr
      l.ownerId
    rw [hsc] at hs
    obtain ⟨now, hposts⟩ := hs
    have hsorted := (follows_of_parse htimed.isSome (now, now)).pairwise
    rw [← Table.newestFirst_eq, ← hposts] at hsorted
    have hmem : ∀ p ∈ t.jobPosts, p ∈ (query l.ownerId v).map JobPost.ofDict := fun p hp => by
      rw [hposts, Content.mem_newestFirst] at hp
      exact List.mem_map.2 hp
    refine hsorted.imp_of_mem fun {p q} hp hq hle k r k' r' hk hid hk' hid' => ?_
    rw [htimed.created_eq hi.history.present (hmem p hp) hk hid,
      htimed.created_eq hi.history.present (hmem q hq) hk' hid', OrderDual.toDual_le_toDual] at hle
    exact_mod_cast hle

/-! ## The Profile and the Job List -/

/-- No two posts of the collection were stamped in one second. -/
def SecondsDiffer (reading : Nat → Nat) (job : Job.State) : Prop :=
  ∀ id k r j id' k' r' j', CreatedBy job.posts id k r j → CreatedBy job.posts id' k' r' j' →
    (job.jobPost.lookup id).isSome → (job.jobPost.lookup id').isSome → reading k / 1000 = reading k' / 1000 → k = k'

/-- On two devices that are both current, the result of a query by owner is the part of the result of all that is the
owner's. -/
theorem query_owner (hl : Ledger resolve s.job.core s.sent) (hi : Job.Inv resolve s.job.core)
    (hv : ∀ id, v.document id = s.job.jobPost.lookup id) (hv' : ∀ id, v'.document id = s.job.jobPost.lookup id)
    (userId : String) :
    ((query (some userId) v').map JobPost.ofDict).Perm
      (((query none v).map JobPost.ofDict).filter fun p => p.ownerId = userId) := by
  have hn := ((Known.of_lookup hl hi hv' 0).query_nodup (some userId)).of_map
  have hn' := ((Known.of_lookup hl hi hv 0).query_nodup none).of_map.filter fun p => p.ownerId = userId
  refine (List.perm_ext_iff_of_nodup hn hn').2 fun p => ?_
  rw [List.mem_filter, List.mem_map, List.mem_map, mem_query_iff hi hv', mem_query_iff hi hv, decide_eq_true_eq]
  constructor
  · rintro ⟨k, q, j, hcr, hsome, ho, hp⟩
    have howner : p.ownerId = j.ownerId := by rw [hp]; rfl
    exact ⟨⟨k, q, j, hcr, hsome, nofun, hp⟩, howner.trans (ho userId rfl)⟩
  · rintro ⟨⟨k, q, j, hcr, hsome, -, hp⟩, ho⟩
    have howner : p.ownerId = j.ownerId := by rw [hp]; rfl
    refine ⟨k, q, j, hcr, hsome, fun u hu => ?_, hp⟩
    cases hu
    exact howner.symm.trans ho

/-- The posts of the collection differ in the instants they are sorted by. -/
theorem Timed.created_nodup (h : Timed pf reading s (query none v)) (hl : Ledger resolve s.job.core s.sent)
    (hi : Job.Inv resolve s.job.core) (hv : ∀ id, v.document id = s.job.jobPost.lookup id)
    (hs : SecondsDiffer reading s.job) : (((query none v).map JobPost.ofDict).map (created pf.isoDate)).Nodup := by
  have hids := (Known.of_lookup hl hi hv 0).query_nodup none
  refine hids.of_map.map_on fun p hp q hq hpq => ?_
  obtain ⟨k, r, j, hcr, hsome, -, -⟩ := (mem_query_iff hi hv).1 (List.mem_map.1 hp)
  obtain ⟨k', r', j', hcr', hsome', -, -⟩ := (mem_query_iff hi hv).1 (List.mem_map.1 hq)
  rw [h.created_eq hi hp hcr.get hcr.docId, h.created_eq hi hq hcr'.get hcr'.docId, OrderDual.toDual_inj] at hpq
  obtain rfl := hs _ _ _ _ _ _ _ _ hcr hcr' hsome hsome' (by exact_mod_cast hpq)
  refine List.inj_on_of_nodup_map hids hp hq ?_
  have hget := hcr.get
  rw [hcr'.get] at hget
  cases hget
  exact hcr.docId.symm.trans hcr'.docId

/-- In every run whose posts are stamped by clocks, no two in one second: a Profile and a Job List that everything has
arrived at, on whichever devices, agree. The Profile has the owner's posts of the Job List, in the Job List's order. -/
theorem profile_has_jobList (resolve : String → Option String) (pf : Table.Platform)
    (distance : Coordinate → Coordinate → D) (formatter : Formatter pf) (reading : Nat → Nat)
    (hr : ∀ k, Readable (reading k)) (es : List Event) (s : State)
    (h : Run.exec (step resolve pf distance) State.init es = some s) (hes : ∀ e ∈ es, Stamped formatter reading e)
    (hs : SecondsDiffer reading s.job) (n n' : Nat) (list profile : Screen) (t t' : Table.State)
    (hn : s.screens[n]? = some list) (hn' : s.screens[n']? = some profile) (hlist : list.content = .list .jobList t)
    (hprofile : profile.content = .list .profile t') (userId : String) (hq : Quiet s list none)
    (hq' : Quiet s profile (some userId)) : t'.jobPosts = t.jobPosts.filter fun p => p.ownerId = userId := by
  have hi := Inv.exec h
  have hjob := hi.history.present
  have hd := Dates.exec h hes
  obtain ⟨v, hv, hsorted⟩ := hq.sorted (hi.screens n list hn)
  obtain ⟨v', hv', hsorted'⟩ := hq'.sorted (hi.screens n' profile hn')
  rw [hlist] at hsorted
  rw [hprofile] at hsorted'
  obtain ⟨now, hposts⟩ := hsorted
  obtain ⟨now', hposts'⟩ := hsorted'
  have htimed := (Known.of_lookup hi.ledger hjob hv 0).timed hi.ledger hd hr none
  have htimed' := (Known.of_lookup hi.ledger hjob hv' 0).timed hi.ledger hd hr (some userId)
  rw [hposts, hposts', Table.newestFirst_eq, Table.newestFirst_eq]
  exact Sorting.sorted_filter (htimed.created_nodup hi.ledger hjob hv hs) (follows_of_parse htimed.isSome _) _
    (query_owner hi.ledger hjob hv hv' userId) (follows_of_parse htimed'.isSome _)

/-! ## Samples -/

/-- The calendar's own texts are read back by it. -/
def sampleFormatter : Formatter samplePlatform where
  string now := Calendar.format (now / 1000)
  isoDate_string _ h := Calendar.parse_format h

/-- The posts are a day apart. -/
def sampleReading (k : Nat) : Nat := 1553680800000 + 86400000 * min k 2

theorem sampleReading_readable (k : Nat) : Readable (sampleReading k) := by
  unfold Readable sampleReading
  omega

theorem sampleQuiet_stamped : ∀ e ∈ sampleQuiet, Stamped sampleFormatter sampleReading e := by
  have h0 : "2019-03-27T10:00:00Z" = Calendar.format 1553680800 := by decide
  have h1 : "2019-03-28T10:00:00Z" = Calendar.format 1553767200 := by decide
  have h2 : "2019-03-29T10:00:00Z" = Calendar.format 1553853600 := by decide
  simp [sampleQuiet, samplePosts, sampleOwn, samplePress, Stamped, getISOTimestamp, sampleFormatter, sampleReading, h0,
    h1, h2]

theorem sorts_legally_sample : ∃ (s : State) (sc : Screen) (l : Listener) (v : Cache),
    sampleExec State.init sampleQuiet = some s ∧ s.screens[1]? = some sc ∧ l ∈ sc.listeners ∧ v ∈ l.feed.sent ∧
    (query l.ownerId v).length = 3 ∧ ∀ now now',
      samplePlatform.newestFirst now (query l.ownerId v) = samplePlatform.newestFirst now' (query l.ownerId v) := by
  obtain ⟨s, sc, l, v, hs, hn, hls, hsent, h3⟩ : ∃ (s : State) (sc : Screen) (l : Listener) (v : Cache),
      sampleExec State.init sampleQuiet = some s ∧ s.screens[1]? = some sc ∧ sc.listeners = [l] ∧ l.feed.sent = [v] ∧
      (query l.ownerId v).length = 3 := ⟨_, _, _, _, rfl, rfl, rfl, rfl, rfl⟩
  have hl : l ∈ sc.listeners := by rw [hls]; exact List.mem_singleton_self l
  have hv : v ∈ l.feed.sent := by rw [hsent]; exact List.mem_singleton_self v
  have hsort := sorts_legally sampleResolve samplePlatform Map.sampleDistance sampleFormatter sampleReading
    sampleReading_readable sampleQuiet s hs sampleQuiet_stamped 1 sc hn l hl v hv
  exact ⟨s, sc, l, v, hs, hn, hl, hv, h3, hsort.2⟩

theorem newest_on_top_sample : ∃ (s : State) (sc : Screen) (t : Table.State),
    sampleExec State.init sampleQuiet = some s ∧ s.screens[1]? = some sc ∧ sc.content = .list .jobList t ∧
    t.jobPosts.map (·.postId) = ["job3", "job2", "job1"] ∧ t.jobPosts.Pairwise fun p q => ∀ k r k' r',
      s.job.posts[k]? = some r → r.docId = p.postId → s.job.posts[k']? = some r' → r'.docId = q.postId →
      sampleReading k' / 1000 ≤ sampleReading k / 1000 := by
  obtain ⟨s, sc, -, t, -, hs, hn, -, -, hsc, -, hids, -⟩ := sampleQuiet_quiet
  exact ⟨s, sc, t, hs, hn, hsc, hids, newest_on_top sampleResolve samplePlatform Map.sampleDistance sampleFormatter
    sampleReading sampleReading_readable sampleQuiet s hs sampleQuiet_stamped 1 sc hn .jobList t hsc⟩

theorem profile_has_jobList_sample : ∃ (s : State) (list profile : Screen) (t t' : Table.State),
    sampleExec State.init sampleQuiet = some s ∧ s.screens[1]? = some list ∧ s.screens[2]? = some profile ∧
    list.device ≠ profile.device ∧ list.content = .list .jobList t ∧ profile.content = .list .profile t' ∧
    t.jobPosts.map (·.postId) = ["job3", "job2", "job1"] ∧ t'.jobPosts.map (·.postId) = ["job3", "job1"] ∧
    t'.jobPosts = t.jobPosts.filter fun p => p.ownerId = "ann" := by
  obtain ⟨s, list, profile, t, t', hs, hn, hn', hdev, hlist, hprofile, hids, hids', hq, hq', hlen⟩ := sampleQuiet_quiet
  refine ⟨s, list, profile, t, t', hs, hn, hn', hdev, hlist, hprofile, hids, hids', ?_⟩
  refine profile_has_jobList sampleResolve samplePlatform Map.sampleDistance sampleFormatter sampleReading
    sampleReading_readable sampleQuiet s hs sampleQuiet_stamped ?_ 1 2 list profile t t' hn hn' hlist hprofile "ann" hq
    hq'
  intro id k r j id' k' r' j' hcr hcr' _ _ hsecond
  obtain ⟨hk, -⟩ := List.getElem?_eq_some_iff.1 hcr.get
  obtain ⟨hk', -⟩ := List.getElem?_eq_some_iff.1 hcr'.get
  unfold sampleReading at hsecond
  omega

end PetIT.Live
