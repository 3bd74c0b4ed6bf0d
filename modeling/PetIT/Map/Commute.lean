/-
Locations and snapshots, interleaved. Three screens keep a place of the user each and look at it at a time of their
own: the map when it sorts a snapshot, the tables when they draw a cell, and the Profile is never told one. Two
interleavings of the same updates and the same snapshots end alike, by the last place, exactly when no post has
changed its place in the order of the map, and no row its distance, since they were last looked at.
-/
import PetIT.Map.Nearest
import PetIT.Table.Labels

namespace PetIT.Map

open Table (Coordinate Platform reported)

/-! ## Definitions -/

/-- The locations of an update. -/
def Event.locations : Event → Option (List Coordinate)
  | .didUpdateLocations locations => some locations
  | _ => none

/-- The result of a snapshot. -/
def Event.result : Event → Option (Except String (List Document))
  | .snapshot result => some result
  | _ => none

/-- The documents of the snapshots that were no errors. -/
def deliveries (results : List (Except String (List Document))) : List (List Document) :=
  results.filterMap Except.toOption

/-- The documents of the last snapshot. -/
def lastDocs (results : List (Except String (List Document))) : List Document := (deliveries results).getLastD []

/-- The event brings documents. -/
def Delivers (e : Event) : Prop := ∃ docs, e = .snapshot (.ok docs)

/-- A run of one screen in which the updates and the snapshots come in the order of the two sequences. -/
structure Interleaving {σ ε : Type} (step : σ → ε → Option σ) (init : σ) (update : ε → Option (List Coordinate))
    (snapshot : ε → Option (Except String (List Document))) (locations : List (List Coordinate))
    (results : List (Except String (List Document))) where
  events : List ε
  final : σ
  exec : Run.exec step init events = some final
  locations_eq : events.filterMap update = locations
  results_eq : events.filterMap snapshot = results

variable {D : Type} [LinearOrder D]

/-- A run of each of the three screens; the Profile listens to its owner's posts, and to no location. -/
structure Screens (distance : Coordinate → Coordinate → D) (pf : Platform) (locations : List (List Coordinate))
    (results ownResults : List (Except String (List Document))) where
  map : Interleaving (step distance) State.init Event.locations Event.result locations results
  jobList : Interleaving (Table.step .jobList pf) Table.State.init Table.Event.locations Table.Event.result locations
    results
  profile : Interleaving (Table.step .profile pf) Table.State.init Table.Event.locations Table.Event.result []
    ownResults
  jobList_runs : jobList.final.trapped = false
  profile_runs : profile.final.trapped = false

/-- From the places the user was reported at, and from (0, 0), no two of the posts are equally far. -/
def Distinct (distance : Coordinate → Coordinate → D) (locations : List (List Coordinate)) (docs : List Document) :
    Prop :=
  ∀ here ∈ ⟨0, 0⟩ :: locations.filterMap List.getLast?,
    ((docs.map JobPost.ofDict).map fun p => distance here (coordinate p)).Nodup

/-- The order of the posts by distance is the same from the one place and the other. -/
def SameOrder (distance : Coordinate → Coordinate → D) (there here : Coordinate) (docs : List Document) : Prop :=
  ∀ p ∈ docs.map JobPost.ofDict, ∀ q ∈ docs.map JobPost.ofDict,
    distance there (coordinate p) ≤ distance there (coordinate q) →
      distance here (coordinate p) ≤ distance here (coordinate q)

/-- The posts of the last snapshot are in the same order from the last place reported before it. -/
def SortedWithin (distance : Coordinate → Coordinate → D) (here : Coordinate) (es : List Event) : Prop :=
  ∀ before docs since, es = before ++ .snapshot (.ok docs) :: since → (∀ e ∈ since, ¬ Delivers e) →
    SameOrder distance (reported (before.filterMap Event.locations)) here docs

namespace Screens

variable {distance : Coordinate → Coordinate → D} {pf : Platform} {locations : List (List Coordinate)}
  {results ownResults : List (Except String (List Document))}

/-- The map ends with the last snapshot sorted, and the tables with the distances, from the last place reported. -/
structure EndsHere (r : Screens distance pf locations results ownResults) : Prop where
  jobPosts : r.map.final.jobPosts = nearestFirst distance (reported locations) (lastDocs results)
  pins : r.map.final.pins = pinsFrom (deliveries results).length 0 r.map.final.jobPosts
  jobList : Table.LabelledFrom pf (reported locations) r.jobList.final
  profile : Table.LabelledFrom pf (reported locations) r.profile.final

/-- The maps of the two runs are the same, and a post has one distance on every table of them. -/
structure Alike (r r' : Screens distance pf locations results ownResults) : Prop where
  jobPosts : r.map.final.jobPosts = r'.map.final.jobPosts
  pins : r.map.final.pins = r'.map.final.pins
  labels : ∀ s ∈ [r.jobList.final, r.profile.final, r'.jobList.final, r'.profile.final],
    ∀ s' ∈ [r.jobList.final, r.profile.final, r'.jobList.final, r'.profile.final],
      ∀ i j a b, s.rows i = some a → s'.rows j = some b → a.jobPost = b.jobPost →
        a.cell.zipcodeLabel = b.cell.zipcodeLabel

/-- No order and no distance has changed since it was looked at. -/
structure Fresh (r : Screens distance pf locations results ownResults) : Prop where
  map : SortedWithin distance (reported locations) r.map.events
  jobList : Table.DrawnWithin pf (reported locations) r.jobList.events
  profile : Table.DrawnWithin pf (reported locations) r.profile.events

end Screens

/-! ## The events behind a map -/

variable {distance : Coordinate → Coordinate → D} {s s' : State} {es : List Event} {e : Event}

theorem deliveries_concat (es : List Event) (e : Event) :
    deliveries ((es ++ [e]).filterMap Event.result) = match e with
    | .snapshot (.ok docs) => deliveries (es.filterMap Event.result) ++ [docs]
    | _ => deliveries (es.filterMap Event.result) := by
  unfold deliveries
  rw [List.filterMap_append, List.filterMap_append]
  rcases e with (message | docs) | _ | _ | _ | _ | _ <;> simp [Event.result, List.filterMap_cons, Except.toOption]

theorem deliveries_of_not_delivers (h : ∀ e ∈ es, ¬ Delivers e) (before : List Event) :
    deliveries ((before ++ es).filterMap Event.result) = deliveries (before.filterMap Event.result) := by
  induction es using List.reverseRecOn with
  | nil => rw [List.append_nil]
  | append_singleton es e ih =>
    rw [← List.append_assoc, deliveries_concat, ← ih fun e he => h e (List.mem_append_left _ he)]
    have hn := h e (by simp)
    rcases e with (message | docs) | _ | _ | _ | _ | _ <;> first | rfl | exact absurd ⟨_, rfl⟩ hn

variable (distance) in
/-- The posts are those of the last snapshot, sorted from the last place reported before it. -/
def SortedFrom (es : List Event) (posts : List JobPost) : Prop :=
  ∃ before docs since, es = before ++ .snapshot (.ok docs) :: since ∧ (∀ e ∈ since, ¬ Delivers e) ∧
    posts = nearestFirst distance (reported (before.filterMap Event.locations)) docs

variable (distance) in
/-- What the events say of the map. -/
structure Traced (es : List Event) (s : State) : Prop where
  userLocation : s.userLocation = reported (es.filterMap Event.locations)
  snapshots : s.snapshots = (deliveries (es.filterMap Event.result)).length
  pins : s.pins = pinsFrom s.snapshots 0 s.jobPosts
  jobPosts : SortedFrom distance es s.jobPosts ∨ (∀ e ∈ es, ¬ Delivers e) ∧ s.jobPosts = []

theorem Traced.init : Traced distance [] State.init := ⟨rfl, rfl, rfl, Or.inr ⟨nofun, rfl⟩⟩

/-- What is known of the posts stays when an event delivers none. -/
theorem Traced.jobPosts_concat (ht : Traced distance es s) (he : ¬ Delivers e) :
    SortedFrom distance (es ++ [e]) s.jobPosts ∨ (∀ f ∈ es ++ [e], ¬ Delivers f) ∧ s.jobPosts = [] := by
  rcases ht.jobPosts with ⟨before, docs, since, hes, hn, hp⟩ | ⟨hn, hp⟩
  · obtain ⟨hes, hn⟩ := Run.last_concat hes hn he
    exact Or.inl ⟨before, docs, since ++ [e], hes, hn, hp⟩
  · exact Or.inr ⟨Run.none_concat hn he, hp⟩

theorem Traced.change (ht : Traced distance es s) (hc : Change distance s e s') : Traced distance (es ++ [e]) s' := by
  have hu := Table.reported_concat Event.locations es e
  have hd := deliveries_concat es e
  have hdelivered : ∀ docs region, e = .snapshot (.ok docs) →
      Traced distance (es ++ [e]) (delivered distance s docs region) := by
    rintro docs region rfl
    refine ⟨ht.userLocation.trans hu.symm, ?_, rfl, Or.inl ⟨es, docs, [], rfl, nofun, ?_⟩⟩
    · rw [hd, List.length_append, ← ht.snapshots]; rfl
    · rw [← ht.userLocation]; rfl
  have hj : ¬ Delivers e → _ := ht.jobPosts_concat
  cases hc with
  | failed | authorized | left | opened | openedNone =>
    exact ⟨ht.userLocation.trans hu.symm, ht.snapshots.trans (by rw [hd]), ht.pins, hj nofun⟩
  | @viewed _ _ dequeued =>
    cases dequeued <;>
      exact ⟨ht.userLocation.trans hu.symm, ht.snapshots.trans (by rw [hd]), ht.pins, hj nofun⟩
  | notLocated h =>
    refine ⟨?_, ht.snapshots.trans (by rw [hd]), ht.pins, hj nofun⟩
    rw [hu, Event.locations, Option.bind_some, h]
    exact ht.userLocation
  | located h =>
    refine ⟨?_, ht.snapshots.trans (by rw [hd]), ht.pins, hj nofun⟩
    rw [hu, Event.locations, Option.bind_some, h]; rfl
  | empty =>
    have := hdelivered [] s.region rfl
    exact ⟨this.userLocation, this.snapshots, this.pins, this.jobPosts⟩
  | snapshot => exact hdelivered _ _ rfl

theorem traced_of_exec (h : Run.exec (step distance) State.init es = some s) : Traced distance es s :=
  Run.exec_trace Traced.init (fun _ _ _ _ _ ht he => ht.change (step_change he).2) h

/-! ## The order of the map -/

/-- With distinct distances, a snapshot sorted from one place is sorted from another exactly when the order of
its posts is the same. -/
theorem nearestFirst_eq_iff {there here : Coordinate} {docs : List Document}
    (ht : ((docs.map JobPost.ofDict).map fun p => distance there (coordinate p)).Nodup)
    (hh : ((docs.map JobPost.ofDict).map fun p => distance here (coordinate p)).Nodup) :
    nearestFirst distance there docs = nearestFirst distance here docs ↔ SameOrder distance there here docs :=
  Sorting.sorted_eq_iff ht hh (nearer_follows there _) (nearer_follows here _)

theorem reported_mem (locations : List (List Coordinate)) :
    reported locations ∈ (⟨0, 0⟩ : Coordinate) :: locations.filterMap List.getLast? := by
  unfold reported
  rw [List.getLastD_eq_getLast?]
  cases h : (locations.filterMap List.getLast?).getLast? with
  | none => exact List.mem_cons_self
  | some here => exact List.mem_cons_of_mem _ (List.mem_of_getLast? h)

/-- The map ends sorted from the last place exactly when its last snapshot was sorted within it. -/
theorem jobPosts_eq_iff (h : Run.exec (step distance) State.init es = some s)
    (hd : Distinct distance (es.filterMap Event.locations) (lastDocs (es.filterMap Event.result))) :
    s.jobPosts = nearestFirst distance (reported (es.filterMap Event.locations)) (lastDocs (es.filterMap Event.result))
      ↔ SortedWithin distance (reported (es.filterMap Event.locations)) es := by
  rcases (traced_of_exec h).jobPosts with ⟨before, docs, since, rfl, hn, hp⟩ | ⟨hn, hp⟩
  · have hlast : lastDocs ((before ++ .snapshot (.ok docs) :: since).filterMap Event.result) = docs := by
      unfold lastDocs
      rw [List.append_cons, deliveries_of_not_delivers hn, deliveries_concat]
      simp
    have hmem : reported (before.filterMap Event.locations) ∈ (⟨0, 0⟩ : Coordinate) ::
        ((before ++ .snapshot (.ok docs) :: since).filterMap Event.locations).filterMap List.getLast? := by
      refine List.cons_subset_cons _ ?_ (reported_mem (before.filterMap Event.locations))
      rw [List.filterMap_append, List.filterMap_append]
      exact List.subset_append_left _ _
    rw [hlast] at hd ⊢
    rw [hp, nearestFirst_eq_iff (hd _ hmem) (hd _ (reported_mem _))]
    constructor
    · rintro hs before' docs' since' hes hn'
      obtain rfl := Run.last_unique hes ⟨docs, rfl⟩ ⟨docs', rfl⟩ hn hn'
      obtain ⟨hdocs, -⟩ := List.cons_eq_cons.1 (List.append_cancel_left hes)
      cases hdocs
      exact hs
    · exact fun hs => hs before docs since rfl hn
  · have hlast : lastDocs (es.filterMap Event.result) = [] := by
      unfold lastDocs
      rw [← List.nil_append es, deliveries_of_not_delivers hn]
      rfl
    rw [hlast, hp]
    refine iff_of_true rfl ?_
    rintro before docs since rfl
    exact absurd ⟨docs, rfl⟩ (hn (.snapshot (.ok docs)) (by simp))

/-! ## Locations and snapshots commute -/

namespace Screens

variable {pf : Platform} {locations : List (List Coordinate)}
  {results ownResults : List (Except String (List Document))}

theorem endsHere_iff (hd : Distinct distance locations (lastDocs results))
    (r : Screens distance pf locations results ownResults) : r.EndsHere ↔ r.Fresh := by
  have hmap : r.map.final.jobPosts = nearestFirst distance (reported locations) (lastDocs results) ↔
      SortedWithin distance (reported locations) r.map.events := by
    have := jobPosts_eq_iff r.map.exec (by rw [r.map.locations_eq, r.map.results_eq]; exact hd)
    rwa [r.map.locations_eq, r.map.results_eq] at this
  have ht := traced_of_exec r.map.exec
  have hpins : r.map.final.pins = pinsFrom (deliveries results).length 0 r.map.final.jobPosts := by
    rw [ht.pins, ht.snapshots, r.map.results_eq]
  have hlist := Table.labelledFrom_iff r.jobList.exec r.jobList_runs (reported locations)
  have hprofile := Table.labelledFrom_iff r.profile.exec r.profile_runs (reported locations)
  constructor
  · exact fun h => ⟨hmap.1 h.jobPosts, hlist.1 h.jobList, hprofile.1 h.profile⟩
  · exact fun h => ⟨hmap.2 h.map, hpins, hlist.2 h.jobList, hprofile.2 h.profile⟩

theorem EndsHere.alike {r r' : Screens distance pf locations results ownResults} (h : r.EndsHere) (h' : r'.EndsHere) :
    r.Alike r' where
  jobPosts := h.jobPosts.trans h'.jobPosts.symm
  pins := by rw [h.pins, h'.pins, h.jobPosts, h'.jobPosts]
  labels := by
    have hall : ∀ s ∈ [r.jobList.final, r.profile.final, r'.jobList.final, r'.profile.final],
        Table.LabelledFrom pf (reported locations) s := by
      simp only [List.forall_mem_cons]
      exact ⟨h.jobList, h.profile, h'.jobList, h'.profile, List.forall_mem_nil _⟩
    intro s hs s' hs' i j a b ha hb hab
    rw [hall s hs i a ha, hall s' hs' j b hb, hab]

/-- Any two interleavings of the same updates and snapshots end alike, by the last place reported, exactly when in
both no order and no distance has changed since it was looked at. -/
theorem updates_commute (hd : Distinct distance locations (lastDocs results))
    (r r' : Screens distance pf locations results ownResults) :
    (r.EndsHere ∧ r'.EndsHere ∧ r.Alike r') ↔ r.Fresh ∧ r'.Fresh := by
  rw [← endsHere_iff hd r, ← endsHere_iff hd r']
  exact ⟨fun h => ⟨h.1, h.2.1⟩, fun h => ⟨h.1, h.2, h.1.alike h.2⟩⟩

end Screens

/-! ## Two interleavings that end differently -/

/-- The interleaving of events that are all accepted. -/
def Interleaving.ofEvents {σ ε : Type} {step : σ → ε → Option σ} {init : σ} {update : ε → Option (List Coordinate)}
    {snapshot : ε → Option (Except String (List Document))} {locations : List (List Coordinate)}
    {results : List (Except String (List Document))} (events : List ε) (h : (Run.exec step init events).isSome = true)
    (hu : events.filterMap update = locations) (hs : events.filterMap snapshot = results) :
    Interleaving step init update snapshot locations results :=
  ⟨events, (Run.exec step init events).get h, (Option.some_get h).symm, hu, hs⟩

/-- A post at (0, 0) and one at (3, 3). -/
def sampleDocs : List Document := [
  Table.samplePost "p1" "",
  JobPost.postJob ⟨"", "p2", "bob", none, "", "Feed the cat", "Shy", "5pm", "12", 3, 3, "PENDING"⟩]

/-- The user is found at (3, 3), and then the posts come. -/
def sampleLate : Screens sampleDistance Table.samplePlatform [[⟨3, 3⟩]] [.ok sampleDocs] [] where
  map := .ofEvents [.didUpdateLocations [⟨3, 3⟩], .snapshot (.ok sampleDocs)] (by decide) rfl rfl
  jobList := .ofEvents [.didUpdateLocations [⟨3, 3⟩], .snapshot 0 (.ok sampleDocs)] (by decide) rfl rfl
  profile := .ofEvents [] (by decide) rfl rfl
  jobList_runs := by decide
  profile_runs := by decide

/-- The posts come, and then the user is found. -/
def sampleEarly : Screens sampleDistance Table.samplePlatform [[⟨3, 3⟩]] [.ok sampleDocs] [] where
  map := .ofEvents [.snapshot (.ok sampleDocs), .didUpdateLocations [⟨3, 3⟩]] (by decide) rfl rfl
  jobList := .ofEvents [.snapshot 0 (.ok sampleDocs), .didUpdateLocations [⟨3, 3⟩]] (by decide) rfl rfl
  profile := .ofEvents [] (by decide) rfl rfl
  jobList_runs := by decide
  profile_runs := by decide

theorem sample_distinct : Distinct sampleDistance [[⟨3, 3⟩]] (lastDocs [.ok sampleDocs]) := by
  unfold Distinct
  decide

theorem updates_commute_sample :
    (sampleLate.EndsHere ∧ sampleEarly.EndsHere ∧ sampleLate.Alike sampleEarly) ↔
      sampleLate.Fresh ∧ sampleEarly.Fresh :=
  Screens.updates_commute sample_distinct sampleLate sampleEarly

/-- The map has the post at (3, 3) first in the one run, and last in the other. -/
theorem updates_not_commute : ¬ ∀ (locations : List (List Coordinate)) (results : List (Except String (List Document))),
    Distinct sampleDistance locations (lastDocs results) →
      ∀ r r' : Screens sampleDistance Table.samplePlatform locations results [],
        r.EndsHere ∧ r'.EndsHere ∧ r.Alike r' := by
  intro h
  have hj := congrArg (List.map JobPost.postId) (h _ _ sample_distinct sampleLate sampleEarly).2.2.jobPosts
  revert hj
  decide

end PetIT.Map
