/-
What the maps show, in every run and however late their snapshots arrive: the pins are the posts that the map has got
last, where their presses said, and their callouts open them. A map has trapped exactly if it was brought a result
without documents; that is what a device shows that has not heard of any, whatever the server has.
-/
import PetIT.Live.Quiet

namespace PetIT.Live

open Table (Coordinate)
open Job (listed CreatedBy IsBooked DocOK)

variable {D : Type} [LinearOrder D] {resolve : String → Option String} {pf : Table.Platform}
  {distance : Coordinate → Coordinate → D} {s : State} {sc : Screen} {m : Map.State} {p : JobPost}

/-! ## The pins of a map -/

/-- The posts of the pins are those of the map. -/
theorem pins_jobPosts (h : Map.Inv m) : m.pins.map (·.jobPost) = m.jobPosts := by
  rw [h.pins]
  exact List.ext_getElem (by simp [Map.pinsFrom]) fun i hi hi' => by simp [Map.pinsFrom]

/-- A map that has not trapped has its pins. -/
theorem Screen.Shows.map (h : sc.Shows pf distance) (hsc : sc.content = .map m) :
    (m.trapped = true ↔ Emptied sc.listeners) ∧ (m.trapped = false → Map.Inv m) := by
  have hsound := h.sound
  rw [hsc] at hsound
  obtain ⟨hinv, htrapped⟩ := hsound
  have hn : m.trapped = false → ¬ Emptied sc.listeners := fun ht he => by
    rw [htrapped he] at ht
    cases ht
  refine ⟨⟨fun ht => by_contra fun he => ?_, htrapped⟩, fun ht => hinv (hn ht)⟩
  rw [(hinv he).trapped] at ht
  cases ht

/-- A map asks for all posts, so what empties it has no documents. -/
theorem Screen.Shows.emptied_iff (h : sc.Shows pf distance) (hsc : sc.content = .map m) :
    Emptied sc.listeners ↔ ∃ l ∈ sc.listeners, ∃ v ∈ l.feed.seen, ∀ id, v.document id = none := by
  have hall := h.asks (by rw [hsc]; rfl)
  have hnone : ∀ {v : Cache}, query none v = [] ↔ ∀ id, v.document id = none := by
    intro v
    rw [List.eq_nil_iff_forall_not_mem]
    simp only [mem_query, not_exists, not_and]
    constructor
    · exact fun hq id => Option.eq_none_iff_forall_ne_some.2 fun d hd => hq d id hd fun u hu => by cases hu
    · intro hd d id hl
      rw [hd id] at hl
      cases hl
  constructor
  · rintro ⟨j, l, hj, v, hv, hq⟩
    rw [hall j l hj] at hq
    exact ⟨l, List.mem_of_getElem? hj, v, hv, hnone.1 hq⟩
  · rintro ⟨l, hl, v, hv, hd⟩
    obtain ⟨j, hj⟩ := List.mem_iff_getElem?.1 hl
    exact ⟨j, l, hj, v, hv, by rw [hall j l hj]; exact hnone.2 hd⟩

/-- A tap on the callout of a view on the map opens the post of the view's pin. -/
theorem tap_callout {n view : Nat} {v : Map.AnnotationView} (h : Inv pf distance resolve s)
    (hn : s.screens[n]? = some sc) (hsc : sc.content = .map m) (ht : m.trapped = false)
    (hv : m.annotationViews[view]? = some v) (hs : v.shown = true) :
    ∃ s' d, step resolve pf distance s (.screen n (.map (.calloutAccessoryControlTapped view))) = some s' ∧
      s.devices[sc.device]? = some d ∧
      s'.job.screens = s.job.screens ++ [{ user := d.user, jobPost := v.pin.jobPost }] := by
  have hmap := ((h.screens n sc hn).shows.map hsc).2 ht
  have hc : sc.content.step pf distance (.map (.calloutAccessoryControlTapped view)) =
      some (.map { m with opened := m.opened ++ [⟨v.pin.jobPost, v.pin.jobPost⟩] }) := by
    rw [hsc]
    exact Option.map_eq_some_iff.2 ⟨_, hmap.opens hv hs, rfl⟩
  obtain ⟨s', d, hs', hd, hscreens⟩ := screen_taken h hn rfl hc
  refine ⟨s', d, hs', hd, hscreens.trans ?_⟩
  rw [hsc]
  simp [Content.opened]

/-! ## The results -/

/-- In every run, no two pins of a map are of one post, every pin is of a post that a Post press has sent, created on
the server or sent from the very device of the map, and stands where the press said, with the description and the
wage of the press; and a tap on a callout opens a detail screen of the device's user with the post of its pin. -/
theorem pins_are_posts (resolve : String → Option String) (pf : Table.Platform)
    (distance : Coordinate → Coordinate → D) (es : List Event) (s : State)
    (h : Run.exec (step resolve pf distance) State.init es = some s) (n : Nat) (sc : Screen)
    (hn : s.screens[n]? = some sc) (m : Map.State) (hsc : sc.content = .map m) (ht : m.trapped = false) :
    (m.pins.map (·.jobPost.postId)).Nodup ∧
    (∀ pin ∈ m.pins, ∃ k q j, IsPost resolve s sc.device pin.jobPost k q j ∧
      pin.annotated = ⟨⟨q.captured.userLat, q.captured.userLong⟩, q.captured.postDescription, q.captured.jobWage,
        pin.annotated.tag⟩) ∧
    ∀ view v, m.annotationViews[view]? = some v → v.shown = true →
      ∃ s' d, step resolve pf distance s (.screen n (.map (.calloutAccessoryControlTapped view))) = some s' ∧
        s.devices[sc.device]? = some d ∧
        s'.job.screens = s.job.screens ++ [{ user := d.user, jobPost := v.pin.jobPost }] := by
  have hi := Inv.exec h
  have hok := hi.screens n sc hn
  have hmap := (hok.shows.map hsc).2 ht
  refine ⟨?_, fun pin hpin => ?_, fun view v hv hs => tap_callout hi hn hsc ht hv hs⟩
  · have hids := hok.postIds_nodup
    rw [hsc] at hids
    rwa [Content.jobPosts, ← pins_jobPosts hmap, List.map_map] at hids
  · obtain ⟨hpost, hann, -⟩ := hmap.built hpin
    have hmem : pin.jobPost ∈ sc.content.jobPosts := by rw [hsc]; exact List.mem_of_getElem? hpost
    obtain ⟨l, -, v, -, hknown, id, d, hd, -, hdp⟩ := hok.mem_jobPosts hmem
    obtain ⟨k, j, hdoc⟩ := hknown id d hd
    obtain ⟨q, hq⟩ := hdoc.isPost hi.ledger
    rw [hdp] at hq
    refine ⟨k, q, j, hq, ?_⟩
    -- what the press captured is in the post
    obtain ⟨url, createdDate, -, rfl⟩ := hq.press.2.2
    rw [hann]
    rcases hq.read with hread | ⟨hread, -⟩ <;> rw [hread] <;> rfl

/-- In every run, a map has trapped exactly if a listener has brought it a result without documents; and one that has
not, and that everything has arrived at, has pins of exactly the posts whose documents were created and not deleted,
booked exactly if a booking of the post has been applied. -/
theorem quiet_map (resolve : String → Option String) (pf : Table.Platform)
    (distance : Coordinate → Coordinate → D) (es : List Event) (s : State)
    (h : Run.exec (step resolve pf distance) State.init es = some s) (n : Nat) (sc : Screen)
    (hn : s.screens[n]? = some sc) (m : Map.State) (hsc : sc.content = .map m) :
    (m.trapped = true ↔ ∃ l ∈ sc.listeners, ∃ v ∈ l.feed.seen, ∀ id, v.document id = none) ∧
    (m.trapped = false → Quiet s sc none → ∀ p, (∃ pin ∈ m.pins, pin.jobPost = p) ↔
      ∃ k q j, CreatedBy s.job.posts p.postId k q j ∧ (s.job.jobPost.lookup p.postId).isSome ∧
        p = listed j (IsBooked s.job.bookings p.postId)) := by
  have hi := Inv.exec h
  have hok := hi.screens n sc hn
  obtain ⟨htrapped, hinv⟩ := hok.shows.map hsc
  refine ⟨htrapped.trans (hok.shows.emptied_iff hsc), fun ht hq p => ?_⟩
  obtain ⟨v, hv, hs⟩ := hq.sorted hok
  rw [hsc] at hs
  have hmem : p ∈ m.jobPosts ↔ _ := hs.mem.trans (mem_query_iff hi.history.present hv)
  rw [← List.mem_map, pins_jobPosts (hinv ht), hmem]
  simp

/-! ## Samples -/

/-- The posts are on Bob's map. -/
def sampleMap : List Event := samplePosts ++ [
  .openMap 1, .fetchBlogPosts 1, .raise 1 0, .receive 1 0 0, .screen 1 (.map (.viewFor 0 none))]

theorem sampleMap_quiet : ∃ (s : State) (sc : Screen) (m : Map.State) (v : Map.AnnotationView),
    sampleExec State.init sampleMap = some s ∧ s.screens[1]? = some sc ∧ sc.content = .map m ∧ m.trapped = false ∧
    m.pins.length = 3 ∧ m.annotationViews[0]? = some v ∧ v.shown = true ∧ Quiet s sc none :=
  ⟨_, _, _, _, rfl, rfl, rfl, rfl, rfl, rfl, rfl, .of_view rfl rfl rfl rfl rfl rfl rfl⟩

theorem pins_are_posts_sample : ∃ (s : State) (sc : Screen) (m : Map.State) (s' : State),
    sampleExec State.init sampleMap = some s ∧ s.screens[1]? = some sc ∧ sc.content = .map m ∧ m.pins.length = 3 ∧
    (∀ pin ∈ m.pins, ∃ k q j, IsPost sampleResolve s sc.device pin.jobPost k q j ∧
      pin.annotated.coordinate = ⟨q.captured.userLat, q.captured.userLong⟩) ∧
    step sampleResolve samplePlatform Map.sampleDistance s (.screen 1 (.map (.calloutAccessoryControlTapped 0))) =
      some s' := by
  obtain ⟨s, sc, m, v, hs, hn, hsc, ht, h3, hv, hvs, -⟩ := sampleMap_quiet
  obtain ⟨-, hpins, htap⟩ :=
    pins_are_posts sampleResolve samplePlatform Map.sampleDistance sampleMap s hs 1 sc hn m hsc ht
  obtain ⟨s', -, hs', -⟩ := htap 0 v hv hvs
  refine ⟨s, sc, m, s', hs, hn, hsc, h3, fun pin hpin => ?_, hs'⟩
  obtain ⟨k, q, j, hpost, hann⟩ := hpins pin hpin
  exact ⟨k, q, j, hpost, by rw [hann]⟩

theorem quiet_map_sample : ∃ (s : State) (sc : Screen) (m : Map.State),
    sampleExec State.init sampleMap = some s ∧ s.screens[1]? = some sc ∧ sc.content = .map m ∧ m.pins.length = 3 ∧
    ∀ p, (∃ pin ∈ m.pins, pin.jobPost = p) ↔ ∃ k q j, CreatedBy s.job.posts p.postId k q j ∧
      (s.job.jobPost.lookup p.postId).isSome ∧ p = listed j (IsBooked s.job.bookings p.postId) := by
  obtain ⟨s, sc, m, v, hs, hn, hsc, ht, h3, -, -, hq⟩ := sampleMap_quiet
  have hquiet := quiet_map sampleResolve samplePlatform Map.sampleDistance sampleMap s hs 1 sc hn m hsc
  exact ⟨s, sc, m, hs, hn, hsc, h3, hquiet.2 ht hq⟩

/-- A map that is opened on a device that has not heard of any post traps, though the server has three. -/
example : (sampleExec State.init (samplePosts ++ [
    .newDevice "eve", .openMap 2, .fetchBlogPosts 1, .raise 1 0, .receive 1 0 0])).bind
      (fun s => s.screens[1]?.map fun sc =>
        (s.job.jobPost.entries.length, sc.content matches .map { trapped := true, .. })) = some (3, true) := by decide

end PetIT.Live
