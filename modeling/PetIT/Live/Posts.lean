/-
What the screens show, in every run and however late their snapshots arrive. Whatever is on a screen is a post that a
press has sent: it was created on the server, or it was sent from the very device; and whatever is on a screen can be
opened.
-/
import PetIT.Calendar.Text
import PetIT.Live.Invariant

namespace PetIT.Live

open Table (Coordinate)
open Job (listed CreatedBy IsBooked DocOK)

/-- The post `p` on a screen of device `i` is the one that press `k` has sent. It has been created on the server, or
it was sent from this device; and it reads as booked only if a booking of it has been applied, or was made on this
device. -/
structure IsPost (resolve : String → Option String) (s : State) (i : Nat) (p : JobPost) (k : Nat) (q : Job.Post)
    (j : JobPost) : Prop where
  press : s.job.posts[k]? = some q ∧ q.docId = p.postId ∧ q.Built resolve j
  sent : ∃ i', (i', Write.post k j) ∈ s.sent ∧ (i' = i ∨ CreatedBy s.job.posts p.postId k q j)
  read : p = listed j False ∨ p = listed j True ∧ Booked s.job.core s.sent i p.postId

variable {D : Type} [LinearOrder D] {resolve : String → Option String} {pf : Table.Platform}
  {distance : Coordinate → Coordinate → D} {s s' : State} {sc : Screen} {core : Job.Core} {sent : List (Nat × Write)}
  {i k : Nat} {id : String} {d : Document} {j p : JobPost} {v : Cache}

/-! ## The posts on a screen -/

theorem DocFrom.postId_ofDict (h : DocFrom core sent i id d k j) : (JobPost.ofDict d).postId = id := by
  obtain ⟨b, hd, -⟩ := h.doc
  exact hd.postId.trans h.postId

theorem DocFrom.isPost (h : DocFrom s.job.core s.sent i id d k j) (hl : Ledger resolve s.job.core s.sent) :
    ∃ q, IsPost resolve s i (JobPost.ofDict d) k q j := by
  obtain ⟨q, hk, hid, hb⟩ := hl.press h
  obtain ⟨i', hi', hcr⟩ := h.post
  obtain ⟨b, hd, hbooked⟩ := h.doc
  refine ⟨q, ⟨hk, hid.trans h.postId_ofDict.symm, hb⟩, ⟨i', hi', hcr.imp_right ?_⟩, ?_⟩
  · rintro ⟨q', hq'⟩
    obtain rfl : q' = q := Option.some.inj (hq'.get.symm.trans hk)
    rw [h.postId_ofDict]
    exact hq'
  · rw [h.postId_ofDict]
    cases b with
    | false => exact Or.inl (hd.ofDict.trans (Job.listed_congr (by simp) j))
    | true => exact Or.inr ⟨hd.ofDict.trans (Job.listed_congr (by simp) j), hbooked rfl⟩

/-- A post on a screen is a document of what one of its listeners got last. -/
theorem Screen.OK.mem_jobPosts (h : sc.OK pf distance s) (hp : p ∈ sc.content.jobPosts) :
    ∃ l ∈ sc.listeners, ∃ v, l.feed.shown = some v ∧ Known s.job.core s.sent sc.device v ∧
      ∃ id d, v.document id = some d ∧ Matches l.ownerId d ∧ JobPost.ofDict d = p := by
  obtain ⟨d, hd, hls⟩ := h.listeners
  rcases h.shows.latest with ⟨hnil, -⟩ | ⟨n, l, hn, v, hv, hs⟩
  · rw [hnil] at hp; cases hp
  · obtain ⟨d, hd, rfl⟩ := hs.mem.1 hp
    obtain ⟨id, hd, hm⟩ := mem_query.1 hd
    have hknown := (hls n l hn).known v (Store.Feed.mem_sent_of_shown hv)
    exact ⟨l, List.mem_of_getElem? hn, v, hv, hknown, id, d, hd, hm, rfl⟩

/-- No two documents of a result are read as posts of one id. -/
theorem Known.query_nodup (h : Known core sent i v) (ownerId : Option String) :
    (((query ownerId v).map JobPost.ofDict).map (·.postId)).Nodup := by
  have hids : (v.documents.map fun d => (JobPost.ofDict d).postId).Nodup :=
    Store.Cache.documents_nodup fun id d hd => by
      obtain ⟨k, j, hdoc⟩ := h id d hd
      exact hdoc.postId_ofDict
  rw [List.map_map]
  exact hids.sublist (List.filter_sublist.map _)

/-- A post is on a screen once. -/
theorem Screen.OK.postIds_nodup (h : sc.OK pf distance s) : (sc.content.jobPosts.map (·.postId)).Nodup := by
  obtain ⟨d, hd, hls⟩ := h.listeners
  rcases h.shows.latest with ⟨hnil, -⟩ | ⟨n, l, hn, v, hv, hs⟩
  · rw [hnil]; exact List.nodup_nil
  · rw [(hs.perm.map _).nodup_iff]
    exact ((hls n l hn).known v (Store.Feed.mem_sent_of_shown hv)).query_nodup l.ownerId

/-- The document is one of the owner exactly if its post is. -/
theorem DocFrom.matches_iff (h : DocFrom core sent i id d k j) (ownerId : Option String) :
    Matches ownerId d ↔ ∀ u ∈ ownerId, j.ownerId = u := by
  obtain ⟨b, hd, -⟩ := h.doc
  unfold Matches
  rw [hd.ownerId]
  simp only [Option.some.injEq]
  exact forall₂_congr fun u _ => Value.string_injective.eq_iff

/-! ## Taps -/

/-- What a screen takes by itself or from the user is not refused, and each post that it opens is opened on a detail
screen of the device's user. -/
theorem screen_taken {n : Nat} {e : Content.Event} {content : Content} (h : Inv pf distance resolve s)
    (hn : s.screens[n]? = some sc) (he : e.own = true) (hc : sc.content.step pf distance e = some content) :
    ∃ s' d, step resolve pf distance s (.screen n e) = some s' ∧ s.devices[sc.device]? = some d ∧
      s'.job.screens = s.job.screens ++
        (content.opened.drop sc.content.opened.length).map fun p => { user := d.user, jobPost := p } := by
  have hok := h.screens n sc hn
  obtain ⟨d, hd, -⟩ := hok.listeners
  rcases Content.opened_step hc with ho | ⟨p, hp, ho⟩
  · refine ⟨s.setScreen n { sc with content := content }, d, ?_, hd, ?_⟩
    · refine Run.guard_bind.2 ⟨he, Option.bind_eq_some_iff.2 ⟨sc, hn, Option.bind_eq_some_iff.2 ⟨content, hc, ?_⟩⟩⟩
      rw [ho, List.drop_length]
    · rw [ho, List.drop_length]
      exact (List.append_nil _).symm
  · obtain ⟨job, hjob, hscreens⟩ : ∃ job, Job.step resolve s.job (.openDetail d.user p) = some job ∧
        job.screens = s.job.screens ++ [{ user := d.user, jobPost := p }] :=
      ⟨_, Job.openDetail_eq_some.2 ⟨hok.delivered p hp, rfl⟩, rfl⟩
    refine ⟨{ s.setScreen n { sc with content := content } with job := job, details := s.details ++ [sc.device] }, d,
      ?_, hd, ?_⟩
    · refine Run.guard_bind.2 ⟨he, Option.bind_eq_some_iff.2 ⟨sc, hn, Option.bind_eq_some_iff.2 ⟨content, hc, ?_⟩⟩⟩
      rw [ho, List.drop_left]
      exact Option.bind_eq_some_iff.2 ⟨d, hd, Option.bind_eq_some_iff.2 ⟨job, hjob, rfl⟩⟩
    · rw [ho, List.drop_left]
      exact hscreens

/-- A tap on a row that is drawn opens the post that the array has in its place, if it has one. -/
theorem tap_row {n row : Nat} {screen : Table.Screen} {t : Table.State} {r : Table.Row}
    (h : Inv pf distance resolve s) (hn : s.screens[n]? = some sc) (hsc : sc.content = .list screen t)
    (ht : t.trapped = false) (hr : t.rows row = some r) :
    ∃ s' d, step resolve pf distance s (.screen n (.table (.didSelectRowAt row))) = some s' ∧
      s.devices[sc.device]? = some d ∧ s'.job.screens =
        s.job.screens ++ t.jobPosts[row]?.toList.map fun p => { user := d.user, jobPost := p } := by
  have hc : sc.content.step pf distance (.table (.didSelectRowAt row)) =
      some (.list screen (Table.openDetail t r row)) := by
    rw [hsc]
    refine Option.map_eq_some_iff.2 ⟨_, Run.guard_bind.2 ⟨ht, Option.bind_eq_some_iff.2 ⟨r, hr, ?_⟩⟩, rfl⟩
    rw [Table.prepare_eq hr]
  obtain ⟨s', d, hs', hd, hscreens⟩ := screen_taken h hn rfl hc
  refine ⟨s', d, hs', hd, hscreens.trans ?_⟩
  rw [hsc]
  cases hp : t.jobPosts[row]? with
  | none =>
    rw [Table.openDetail_of_none hp]
    simp [Content.opened, Table.State.trap]
  | some p =>
    rw [Table.openDetail_of_some hp]
    simp [Content.opened]

/-! ## The result -/

/-- In every run, whatever a list, a profile or a map shows is a post that one Post press has sent, of the owner that
one of its listeners asks for. It was created on the server, or sent from the very device of the screen; and it reads
as booked only if a booking of it has been applied, or was made on that device. A tap on a row that is drawn is never
refused, and opens a detail screen of the device's user with the post that the array has in its place, if it has
one. No post is on a screen twice. -/
theorem rows_are_posts (resolve : String → Option String) (pf : Table.Platform)
    (distance : Coordinate → Coordinate → D) (es : List Event) (s : State)
    (h : Run.exec (step resolve pf distance) State.init es = some s) (n : Nat) (sc : Screen)
    (hn : s.screens[n]? = some sc) :
    (sc.content.jobPosts.map (·.postId)).Nodup ∧
    (∀ p ∈ sc.content.jobPosts, ∃ k q j, IsPost resolve s sc.device p k q j ∧
      ∃ l ∈ sc.listeners, ∀ u ∈ l.ownerId, j.ownerId = u) ∧
    ∀ screen t row r, sc.content = .list screen t → t.trapped = false → t.rows row = some r →
      ∃ s' d, step resolve pf distance s (.screen n (.table (.didSelectRowAt row))) = some s' ∧
        s.devices[sc.device]? = some d ∧ s'.job.screens =
          s.job.screens ++ t.jobPosts[row]?.toList.map fun p => { user := d.user, jobPost := p } := by
  have hi := Inv.exec h
  have hok := hi.screens n sc hn
  refine ⟨hok.postIds_nodup, fun p hp => ?_, fun screen t row r hsc ht hr => tap_row hi hn hsc ht hr⟩
  obtain ⟨l, hl, v, -, hknown, id, d, hd, hm, rfl⟩ := hok.mem_jobPosts hp
  obtain ⟨k, j, hdoc⟩ := hknown id d hd
  obtain ⟨q, hq⟩ := hdoc.isPost hi.ledger
  exact ⟨k, q, j, hq, l, hl, (hdoc.matches_iff l.ownerId).1 hm⟩

/-! ## Samples -/

/-- Where the URLs of the samples lead. -/
def sampleResolve (url : String) : Option String :=
  if url = "https://storage/tom.jpg" then some (petImage "bob" "job2")
  else if url = "https://storage/max.jpg" then some (petImage "ann" "job3")
  else Job.sampleResolve url

/-- A platform that reads dates by the calendar, and finds everything near. -/
def samplePlatform : Table.Platform where
  isoDate := Calendar.parse
  roundedDistance _ _ := "0.00"

/-- Runs of the samples. -/
abbrev sampleExec : State → List Event → Option State :=
  Run.exec (step sampleResolve samplePlatform Map.sampleDistance)

/-- Form `k`, on device `i`, is filled in and posted, and the post is sent. -/
def samplePress (i k : Nat) (user docId url createdDate : String) : List Event := [
  .openForm i,
  .job (.edit k Job.sampleForm),
  .job (.postButtonPressed k (some user) docId),
  .job (.uploadReply k true),
  .job (.downloadURLReply k (some url) createdDate)]

/-- Ann's Job List has her post before the server has. -/
def sampleOwn : List Event := [.newDevice "ann", .newDevice "bob"] ++
  samplePress 0 0 "ann" "job1" Job.sampleURL "2019-03-27T10:00:00Z" ++
  [.openList 0 .jobList, .fetchBlogPosts 0, .raise 0 0, .receive 0 0 0]

/-- The post is created, and sent to a listener of Bob's Job List. -/
def sampleRaised : List Event := sampleOwn ++ [
  .answer 0 none, .sync 1 "job1" 6, .openList 1 .jobList, .fetchBlogPosts 1, .raise 1 0]

/-- Bob's Job List gets the post. -/
def sampleList : List Event := sampleRaised ++ [.receive 1 0 0]

/-- It is drawn. -/
def sampleDraw : List Event := [.screen 1 (.table .reload), .screen 1 (.table (.cellForRowAt 0))]

/-- Bob taps the row and books the job, and his list has the booking before the server has. -/
def sampleBook : List Event := sampleDraw ++ [
  .screen 1 (.table (.didSelectRowAt 0)), .job (.bookJobButtonPressed 0), .raise 1 0]

theorem rows_are_posts_sample : ∃ (s : State) (sc : Screen) (s' : State),
    sampleExec State.init (sampleList ++ sampleDraw) = some s ∧
    s.screens[1]? = some sc ∧
    (∃ p ∈ sc.content.jobPosts, ∃ k q j, IsPost sampleResolve s sc.device p k q j) ∧
    step sampleResolve samplePlatform Map.sampleDistance s (.screen 1 (.table (.didSelectRowAt 0))) =
      some s' := by
  obtain ⟨s, sc, t, r, p, hs, hn, hsc, ht, hr, hp⟩ :
      ∃ (s : State) (sc : Screen) (t : Table.State) (r : Table.Row) (p : JobPost),
        sampleExec State.init (sampleList ++ sampleDraw) = some s ∧ s.screens[1]? = some sc ∧
        sc.content = .list .jobList t ∧ t.trapped = false ∧ t.rows 0 = some r ∧
        sc.content.jobPosts[0]? = some p := ⟨_, _, _, _, _, rfl, rfl, rfl, rfl, rfl, rfl⟩
  obtain ⟨-, hposts, htap⟩ := rows_are_posts sampleResolve samplePlatform Map.sampleDistance _ s hs 1 sc hn
  obtain ⟨k, q, j, hpost, -⟩ := hposts p (List.mem_of_getElem? hp)
  obtain ⟨s', -, hs', -⟩ := htap .jobList t 0 r hsc ht hr
  exact ⟨s, sc, s', hs, hn, ⟨p, List.mem_of_getElem? hp, k, q, j, hpost⟩, hs'⟩

end PetIT.Live
