/-
The screens that follow the collection: the Job List, the Profile and the map, each with its snapshot listeners.
They differ in what they make of a result. That they sort it into an array, that the array is the only thing of it
they keep, and that a tap opens a detail screen with a post of the array, they have in common.
-/
import PetIT.Map.Nearest
import PetIT.Map.Pins
import PetIT.Store.Feed
import PetIT.Live.Device

namespace PetIT.Live

open Table (Coordinate)
open JobPostCollectionKeys

/-! ## What is on a screen -/

/-- The Job List or the Profile, with its table, or the map. -/
inductive Content where
  | list (screen : Table.Screen) (table : Table.State)
  | map (map : Map.State)

/-- An event of a table, or of a map. -/
inductive Content.Event where
  | table (e : Table.Event)
  | map (e : Map.Event)

namespace Content

/-- The posts on hand. -/
def jobPosts : Content → List JobPost
  | list _ t => t.jobPosts
  | map m => m.jobPosts

/-- The posts of the detail screens that have been opened. -/
def opened : Content → List JobPost
  | list _ t => t.opened.map (·.jobPost)
  | map m => m.opened.map (·.jobPost)

/-- The Job List and the map ask for all posts, the Profile for those of an owner. -/
def asksAll : Content → Bool
  | list screen _ => screen = .jobList
  | map _ => true

/-- A listener's callback, when the clock shows `now`. -/
def snapshot (now : Int) (result : Except String (List Document)) : Content → Event
  | list _ _ => .table (.snapshot now result)
  | map _ => .map (.snapshot result)

/-- What a screen does by itself, and what the user does with it: no callback, and no owner. -/
def Event.own : Event → Bool
  | .table (.snapshot ..) | .table (.fetchedOwner _) | .map (.snapshot _) => false
  | _ => true

variable {D : Type} [LinearOrder D] (pf : Table.Platform) (distance : Coordinate → Coordinate → D)

/-- A table takes its events, and a map its own. -/
def step : Content → Event → Option Content
  | list screen t, .table e => (Table.step screen pf t e).map (list screen)
  | map m, .map e => (Map.step distance m e).map map
  | _, _ => none

end Content

/-! ## Listeners -/

/-- A snapshot listener, on all posts or on those of an owner. What is raised for it is kept as the collection that
the query is put to, in the order in which it was raised. -/
structure Listener where
  ownerId : Option String
  feed : Store.Feed Cache := {}

/-- A screen on a device. -/
structure Screen where
  device : Nat
  content : Content
  listeners : List Listener := []

/-- `addSnapshotListener`, on all posts or on those of an owner -/
def Screen.addSnapshotListener (sc : Screen) (ownerId : Option String) : Screen :=
  { sc with listeners := sc.listeners ++ [{ ownerId := ownerId }] }

/-- The document is one of the owner, if the query asks for one. -/
def Matches (ownerId : Option String) (d : Document) : Prop := ∀ u ∈ ownerId, d ownerIdKey = some (.string u)

instance (ownerId : Option String) (d : Document) : Decidable (Matches ownerId d) :=
  inferInstanceAs (Decidable (∀ u ∈ ownerId, _))

/-- The documents of a query's result, in the order of their ids. -/
def query (ownerId : Option String) (c : Cache) : List Document := c.documents.filter fun d => Matches ownerId d

theorem mem_query {ownerId : Option String} {c : Cache} {d : Document} :
    d ∈ query ownerId c ↔ ∃ id, c.document id = some d ∧ Matches ownerId d := by
  unfold query
  rw [List.mem_filter, Store.Cache.mem_documents, decide_eq_true_eq]
  exact ⟨fun ⟨⟨id, hd⟩, hm⟩ => ⟨id, hd, hm⟩, fun ⟨id, hd, hm⟩ => ⟨⟨id, hd⟩, hm⟩⟩

/-! ## What a step makes of a screen -/

namespace Content

/-- Anything but a result. -/
def Event.Plain : Event → Prop
  | .table (.snapshot _ (.ok _)) | .map (.snapshot (.ok _)) => False
  | _ => True

theorem Event.Plain.of_own {e : Event} (h : e.own = true) : e.Plain := by
  cases e with
  | table e => cases e <;> trivial
  | map e => cases e <;> trivial

section

variable {D : Type} [LinearOrder D] (pf : Table.Platform) (distance : Coordinate → Coordinate → D)

/-- The posts on hand are those of a result, sorted. -/
def Sorted (docs : List Document) : Content → Prop
  | list _ t => ∃ now, t.jobPosts = pf.newestFirst now docs
  | map m => ∃ userLocation, m.jobPosts = Map.nearestFirst distance userLocation docs

end

/-- A table whose rows are its posts once it is reloaded; a map whose pins are its posts, and which has trapped when it
was handed a result without documents, and then only. -/
def Sound (emptied : Prop) : Content → Prop
  | list _ t => Table.Synced t
  | map m => (¬ emptied → Map.Inv m) ∧ (emptied → m.trapped = true)

variable {D : Type} [LinearOrder D] {pf : Table.Platform} {distance : Coordinate → Coordinate → D} {c c' : Content}
  {e : Event} {emptied : Prop} {docs : List Document} {p : JobPost}

theorem mem_newestFirst {now : Int} : p ∈ pf.newestFirst now docs ↔ ∃ d ∈ docs, JobPost.ofDict d = p := by
  unfold Table.Platform.newestFirst
  rw [List.mem_insertionSort, List.mem_map]

theorem Sorted.perm (h : c.Sorted pf distance docs) : c.jobPosts.Perm (docs.map JobPost.ofDict) := by
  cases c with
  | list screen t =>
    obtain ⟨now, h⟩ := h
    rw [jobPosts, h]
    exact List.perm_insertionSort _ _
  | map m =>
    obtain ⟨userLocation, h⟩ := h
    rw [jobPosts, h]
    exact Sorting.sorted_perm _ _

theorem Sorted.mem (h : c.Sorted pf distance docs) : p ∈ c.jobPosts ↔ ∃ d ∈ docs, JobPost.ofDict d = p := by
  rw [h.perm.mem_iff, List.mem_map]

/-- Every step is one of the table or one of the map. -/
theorem step_cases (h : step pf distance c e = some c') :
    (∃ screen t te t', c = .list screen t ∧ e = .table te ∧ c' = .list screen t' ∧
      Table.step screen pf t te = some t') ∨
    ∃ m me m', c = .map m ∧ e = .map me ∧ c' = .map m' ∧ Map.step distance m me = some m' := by
  cases c with
  | list screen t =>
    cases e with
    | map => cases h
    | table te =>
      obtain ⟨t', ht, rfl⟩ := Option.map_eq_some_iff.1 h
      exact Or.inl ⟨screen, t, te, t', rfl, rfl, rfl, ht⟩
  | map m =>
    cases e with
    | table => cases h
    | map me =>
      obtain ⟨m', hm, rfl⟩ := Option.map_eq_some_iff.1 h
      exact Or.inr ⟨m, me, m', rfl, rfl, rfl, hm⟩

theorem asksAll_step (h : step pf distance c e = some c') : c'.asksAll = c.asksAll := by
  rcases step_cases h with ⟨screen, t, te, t', rfl, -, rfl, -⟩ | ⟨m, me, m', rfl, -, rfl, -⟩ <;> rfl

/-- Without a result the posts stay. -/
theorem jobPosts_frame (he : e.Plain) (h : step pf distance c e = some c') : c'.jobPosts = c.jobPosts := by
  rcases step_cases h with ⟨screen, t, te, t', rfl, rfl, rfl, ht⟩ | ⟨m, me, m', rfl, rfl, rfl, hm⟩
  · show t'.jobPosts = t.jobPosts
    cases (Table.step_change ht).2 with
    | snapshot => exact he.elim
    | _ => rfl
  · show m'.jobPosts = m.jobPosts
    cases (Map.step_change hm).2 with
    | empty | snapshot => exact he.elim
    | @viewed i pin dequeued => cases dequeued <;> rfl
    | _ => rfl

theorem Sorted.plain (hs : c.Sorted pf distance docs) (he : e.Plain) (h : step pf distance c e = some c') :
    c'.Sorted pf distance docs := by
  have hposts := jobPosts_frame he h
  rcases step_cases h with ⟨screen, t, te, t', rfl, -, rfl, -⟩ | ⟨m, me, m', rfl, -, rfl, -⟩
  · exact hs.imp fun now h => hposts.trans h
  · exact hs.imp fun userLocation h => hposts.trans h

/-- A step opens a detail screen with a post on hand, or none. -/
theorem opened_step (h : step pf distance c e = some c') :
    c'.opened = c.opened ∨ ∃ p ∈ c.jobPosts, c'.opened = c.opened ++ [p] := by
  rcases step_cases h with ⟨screen, t, te, t', rfl, rfl, rfl, ht⟩ | ⟨m, me, m', rfl, rfl, rfl, hm⟩
  · cases (Table.step_change ht).2 with
    | opened _ hp => exact Or.inr ⟨_, List.mem_of_getElem? hp, by simp [opened]⟩
    | _ => exact Or.inl rfl
  · cases (Map.step_change hm).2 with
    | opened _ _ hp => exact Or.inr ⟨_, List.mem_of_getElem? hp, by simp [opened]⟩
    | empty | snapshot => exact Or.inl rfl
    | @viewed i pin dequeued => cases dequeued <;> exact Or.inl rfl
    | _ => exact Or.inl rfl

theorem Sound.congr {emptied' : Prop} (h : c.Sound emptied) (he : emptied' ↔ emptied) : c.Sound emptied' := by
  cases c with
  | list => exact h
  | map m => exact ⟨fun hn => h.1 (mt he.2 hn), fun hem => h.2 (he.1 hem)⟩

theorem Sound.plain (hs : c.Sound emptied) (he : e.Plain) (h : step pf distance c e = some c') :
    c'.Sound emptied := by
  rcases step_cases h with ⟨screen, t, te, t', rfl, rfl, rfl, ht⟩ | ⟨m, me, m', rfl, rfl, rfl, hm⟩
  · exact Table.Synced.change hs (Table.step_change ht).2
  · obtain ⟨ht, hchange⟩ := Map.step_change hm
    -- a map that takes an event has not been emptied
    have hn : ¬ emptied := fun hem => by
      rw [hs.2 hem] at ht
      cases ht
    have hsets : Map.SetsUp distance m me := by
      cases me with
      | snapshot result =>
        cases result with
        | error => exact ht
        | ok => exact he.elim
      | _ => trivial
    exact ⟨fun _ => (hs.1 hn).change hsets hchange, fun hem => absurd hem hn⟩

/-- A result is sorted into the array, and empties a map if there is nothing in it. -/
theorem step_snapshot {now : Int} (h : step pf distance c (c.snapshot now (.ok docs)) = some c')
    (hs : c.Sound emptied) : c'.Sorted pf distance docs ∧ c'.Sound (emptied ∨ docs = []) := by
  cases c with
  | list screen t =>
    obtain ⟨t', ht, rfl⟩ := Option.map_eq_some_iff.1 h
    have hchange := (Table.step_change ht).2
    refine ⟨⟨now, ?_⟩, Table.Synced.change hs hchange⟩
    cases hchange with
    | snapshot => rfl
  | map m =>
    obtain ⟨m', hm, rfl⟩ := Option.map_eq_some_iff.1 h
    obtain ⟨ht, hchange⟩ := Map.step_change hm
    obtain ⟨-, hm⟩ := Run.guard_bind.1 hm
    obtain rfl : Map.snapshot distance m (.ok docs) = m' := Option.some.inj hm
    have hn : ¬ emptied := fun hem => by
      rw [hs.2 hem] at ht
      cases ht
    have htrapped : (Map.snapshot distance m (.ok docs)).trapped = docs.isEmpty := by
      rw [Map.snapshot_trapped, ht, Bool.false_or]
    refine ⟨⟨m.userLocation, Map.snapshot_jobPosts⟩, fun hne => (hs.1 hn).change ?_ hchange, fun hem => ?_⟩
    · show (Map.snapshot distance m (.ok docs)).trapped = false
      rw [htrapped]
      exact List.isEmpty_eq_false_iff.2 fun h => hne (Or.inr h)
    · rw [htrapped, hem.resolve_left hn]
      rfl

end Content

/-! ## What the listeners of a screen have brought -/

/-- Before its listeners have got anything the screen is blank, and from then on it shows the result that one of them
got last. -/
def Latest (listeners : List Listener) (blank : Prop) (shows : List Document → Prop) : Prop :=
  (blank ∧ ∀ (j : Nat) (l : Listener), listeners[j]? = some l → l.feed.seen = []) ∨
    ∃ (j : Nat) (l : Listener), listeners[j]? = some l ∧ ∃ v, l.feed.shown = some v ∧ shows (query l.ownerId v)

/-- A listener has brought a result without documents. -/
def Emptied (listeners : List Listener) : Prop :=
  ∃ (j : Nat) (l : Listener), listeners[j]? = some l ∧ ∃ v ∈ l.feed.seen, query l.ownerId v = []

variable {listeners : List Listener} {blank : Prop} {shows : List Document → Prop} {j : Nat} {l : Listener} {v : Cache}
  {feed : Store.Feed Cache}

theorem Latest.imp {blank' : Prop} {shows' : List Document → Prop} (h : Latest listeners blank shows)
    (hb : blank → blank') (hs : ∀ docs, shows docs → shows' docs) : Latest listeners blank' shows' := by
  rcases h with ⟨hblank, hseen⟩ | ⟨j, l, hj, v, hv, h⟩
  · exact Or.inl ⟨hb hblank, hseen⟩
  · exact Or.inr ⟨j, l, hj, v, hv, hs _ h⟩

theorem Latest.new (h : Latest listeners blank shows) (ownerId : Option String) :
    Latest (listeners ++ [{ ownerId := ownerId }]) blank shows := by
  rcases h with ⟨hblank, hseen⟩ | ⟨j, hj⟩
  · exact Or.inl ⟨hblank, Slots.forall_concat hseen rfl⟩
  · exact Or.inr ⟨j, Slots.get_concat _ hj⟩

/-- What is raised is not seen yet. -/
theorem Latest.send (h : Latest listeners blank shows) (hj : listeners[j]? = some l) (v : Cache) :
    Latest (listeners.set j { l with feed := l.feed.send v }) blank shows := by
  rcases h with ⟨hblank, hseen⟩ | ⟨k, hk⟩
  · exact Or.inl ⟨hblank, Slots.forall_set hseen (hseen j l hj)⟩
  · exact Or.inr ⟨k, Slots.get_set hj (fun h => h) hk⟩

/-- The listener that got something is the one that is shown. -/
theorem Latest.receive (blank : Prop) (hj : listeners[j]? = some l) (hf : l.feed.receive = some (v, feed))
    (hs : shows (query l.ownerId v)) : Latest (listeners.set j { l with feed := feed }) blank shows :=
  Or.inr ⟨j, _, Slots.getElem?_set_self hj, v, Store.Feed.shown_receive hf, hs⟩

theorem emptied_new {ownerId : Option String} :
    Emptied (listeners ++ [{ ownerId := ownerId }]) ↔ Emptied listeners :=
  Slots.exists_concat.trans (or_iff_left (by simp))

theorem emptied_send (hj : listeners[j]? = some l) (v : Cache) :
    Emptied (listeners.set j { l with feed := l.feed.send v }) ↔ Emptied listeners :=
  (Slots.exists_set (q := False) hj (by simp)).trans (by simp [Emptied])

theorem emptied_receive (hj : listeners[j]? = some l) (hf : l.feed.receive = some (v, feed)) :
    Emptied (listeners.set j { l with feed := feed }) ↔ Emptied listeners ∨ query l.ownerId v = [] := by
  refine Slots.exists_set hj ?_
  dsimp only
  rw [(Store.Feed.receive_some hf).1]
  simp [or_and_right, exists_or]

end PetIT.Live
