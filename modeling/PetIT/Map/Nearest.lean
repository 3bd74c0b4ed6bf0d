/-
The order of the pins. The map sorts by a predicate that is true of two posts at the same distance, each before the
other, and so of every post and itself; and it looks at the first of the sorted posts without asking whether there
is one. What it gets right is the rest: the posts of a snapshot, none farther than the ones behind it, and the
region of the nearest.
-/
import PetIT.Map.Pins

namespace PetIT.Map

open Table (Coordinate)

variable {D : Type} [LinearOrder D] (distance : Coordinate → Coordinate → D)

/-! ## Definitions -/

/-- No post is farther than one behind it. -/
def ByDistance (userLocation : Coordinate) (posts : List JobPost) : Prop :=
  posts.Pairwise fun p q => distance userLocation (coordinate p) ≤ distance userLocation (coordinate q)

/-- The post is one of those at the least distance. -/
def Nearest (userLocation : Coordinate) (posts : List JobPost) (p : JobPost) : Prop :=
  p ∈ posts ∧ ∀ q ∈ posts, distance userLocation (coordinate p) ≤ distance userLocation (coordinate q)

/-- The predicate is a strict weak order, and the snapshot is handled to the end: the posts by distance, the map
centred on one at the least distance, or without a pin when there are no posts. -/
structure Handled (s : State) (docs : List Document) : Prop where
  legal : Sorting.Legal (docs.map JobPost.ofDict) (nearer distance s.userLocation)
  perm : (snapshot distance s (.ok docs)).jobPosts.Perm (docs.map JobPost.ofDict)
  sorted : ByDistance distance s.userLocation (snapshot distance s (.ok docs)).jobPosts
  trapped : (snapshot distance s (.ok docs)).trapped = false
  centred : docs ≠ [] → ∃ p, Nearest distance s.userLocation (docs.map JobPost.ofDict) p ∧
    (snapshot distance s (.ok docs)).region = some ⟨coordinate p, 9000⟩
  noPin : docs = [] → (snapshot distance s (.ok docs)).pins = []

/-! ## The predicate -/

variable {distance} {s : State} {docs : List Document}

theorem nearer_iff {u : Coordinate} {p q : JobPost} :
    nearer distance u p q = true ↔ distance u (coordinate p) ≤ distance u (coordinate q) := by
  unfold nearer
  split
  case isTrue h => exact iff_of_false nofun (not_le.2 h)
  case isFalse h => exact iff_of_true rfl (not_lt.1 h)

/-- Two posts each come before the other exactly when they are at the same distance. -/
theorem nearer_follows (u : Coordinate) (posts : List JobPost) :
    Sorting.Follows posts (nearer distance u) fun p => distance u (coordinate p) :=
  ⟨fun _ _ _ _ h => nearer_iff.2 h.le, fun _ _ _ _ h => nearer_iff.1 h⟩

/-- Every post comes before itself, so the predicate is legal only where there are none. -/
theorem legal_nearer_iff {u : Coordinate} {posts : List JobPost} :
    Sorting.Legal posts (nearer distance u) ↔ posts = [] := by
  constructor
  · intro h
    rcases posts with _ | ⟨p, posts⟩
    · rfl
    · have := h.irrefl (a := p) List.mem_cons_self
      rw [nearer_iff.2 le_rfl] at this
      cases this
  · rintro rfl
    exact Sorting.legal_of_connected nofun nofun

/-! ## A snapshot -/

theorem snapshot_jobPosts : (snapshot distance s (.ok docs)).jobPosts = nearestFirst distance s.userLocation docs := by
  cases hp : nearestFirst distance s.userLocation docs with
  | nil =>
    obtain rfl := nearestFirst_eq_nil.1 hp
    rw [snapshot_nil]; rfl
  | cons p posts => rw [snapshot_cons hp, ← hp]; rfl

theorem snapshot_trapped : (snapshot distance s (.ok docs)).trapped = (s.trapped || docs.isEmpty) := by
  cases hp : nearestFirst distance s.userLocation docs with
  | nil =>
    obtain rfl := nearestFirst_eq_nil.1 hp
    rw [snapshot_nil]
    exact (Bool.or_true _).symm
  | cons p posts =>
    have hd : docs ≠ [] := fun h => by rw [nearestFirst_eq_nil.2 h] at hp; cases hp
    rw [snapshot_cons hp, List.isEmpty_eq_false_iff.2 hd, Bool.or_false]
    rfl

theorem snapshot_perm : (snapshot distance s (.ok docs)).jobPosts.Perm (docs.map JobPost.ofDict) := by
  rw [snapshot_jobPosts]
  exact Sorting.sorted_perm _ _

theorem snapshot_sorted : ByDistance distance s.userLocation (snapshot distance s (.ok docs)).jobPosts := by
  rw [snapshot_jobPosts]
  exact (nearer_follows _ _).pairwise

theorem snapshot_centred (h : docs ≠ []) : ∃ p, Nearest distance s.userLocation (docs.map JobPost.ofDict) p ∧
    (snapshot distance s (.ok docs)).region = some ⟨coordinate p, 9000⟩ := by
  cases hp : nearestFirst distance s.userLocation docs with
  | nil => exact absurd (nearestFirst_eq_nil.1 hp) h
  | cons p posts =>
    have hm : p ∈ nearestFirst distance s.userLocation docs := by rw [hp]; exact List.mem_cons_self
    refine ⟨p, ⟨Sorting.mem_sorted.1 hm, fun q hq => ?_⟩, by rw [snapshot_cons hp]; rfl⟩
    exact (nearer_follows s.userLocation _).head_le (List.head?_eq_some_iff.2 ⟨posts, hp⟩) hq

/-! ## The nearest post -/

/-- No snapshot is handled as it should be: with posts the predicate is not legal, and without any the map traps
on the first. What holds is the order of the posts, and the region when there are some. -/
theorem nearest_first (distance : Coordinate → Coordinate → D) (s : State) (docs : List Document) :
    ¬ Handled distance s docs ∧
      (Sorting.Legal (docs.map JobPost.ofDict) (nearer distance s.userLocation) ↔ docs = []) ∧
      (snapshot distance s (.ok docs)).trapped = (s.trapped || docs.isEmpty) ∧
      (snapshot distance s (.ok docs)).jobPosts.Perm (docs.map JobPost.ofDict) ∧
      ByDistance distance s.userLocation (snapshot distance s (.ok docs)).jobPosts ∧
      (docs ≠ [] → ∃ p, Nearest distance s.userLocation (docs.map JobPost.ofDict) p ∧
        (snapshot distance s (.ok docs)).region = some ⟨coordinate p, 9000⟩) := by
  have hlegal : Sorting.Legal (docs.map JobPost.ofDict) (nearer distance s.userLocation) ↔ docs = [] := by
    rw [legal_nearer_iff, List.map_eq_nil_iff]
  refine ⟨fun h => ?_, hlegal, snapshot_trapped, snapshot_perm, snapshot_sorted, snapshot_centred⟩
  have ht := h.trapped
  rw [snapshot_trapped, hlegal.1 h.legal, List.isEmpty_nil, Bool.or_true] at ht
  cases ht

/-- An empty snapshot traps, and of two posts at one place each comes before the other. -/
theorem not_nearest_first : ¬ Handled sampleDistance State.init [] ∧
    ¬ Handled sampleDistance State.init [Table.samplePost "p1" "", Table.samplePost "p2" ""] := by
  refine ⟨fun h => absurd h.trapped (by decide), fun h => ?_⟩
  have hp := h.legal.irrefl (a := JobPost.ofDict (Table.samplePost "p1" "")) List.mem_cons_self
  revert hp
  decide

end PetIT.Map
