/-
The order of the job tables: both screens decode the documents of a snapshot and put the newest post first. For
documents whose dates parse and differ there is one such order, so the Profile, which asks the server for its
owner's documents only, has the Job List's posts of that owner in the Job List's order. A date that does not parse
is read as the present, and the present moves on while the posts are being compared.
-/
import PetIT.Sort.Key
import PetIT.Table.Rows

namespace PetIT.Table

open JobPostCollectionKeys

/-! ## Comparing dates -/

variable {T : Type}

/-- `String.date()`, for any clock: a string that does not parse is read as the present. -/
def date (isoDate : String → Option T) (now : T) (s : String) : T := (isoDate s).getD now

theorem date_of_some {isoDate : String → Option T} {s : String} {t : T} (h : isoDate s = some t) (now : T) :
    date isoDate now s = t := by
  unfold date; rw [h]; rfl

theorem date_of_none {isoDate : String → Option T} {s : String} (h : isoDate s = none) (now : T) :
    date isoDate now s = now := by
  unfold date; rw [h]; rfl

variable [LinearOrder T]

/-- `{ $0.createdDate.date() > $1.createdDate.date() }`; each of the two calls reads the clock. -/
def newer (isoDate : String → Option T) (now : T × T) (p q : JobPost) : Bool :=
  date isoDate now.1 p.createdDate > date isoDate now.2 q.createdDate

/-- The first post was created after the second. -/
def CreatedAfter (isoDate : String → Option T) (p q : JobPost) : Prop :=
  ∃ t ∈ isoDate p.createdDate, ∃ u ∈ isoDate q.createdDate, u < t

/-- Both screens sort by that comparison, here with one reading of the clock. -/
theorem newestFirst_eq (pf : Platform) (now : Int) (docs : List Document) :
    pf.newestFirst now docs = Sorting.sorted (newer pf.isoDate (now, now)) (docs.map JobPost.ofDict) := by
  unfold Platform.newestFirst Sorting.sorted newer
  congr 1
  funext p q
  simp [Platform.date, date]

/-! ## Dates that parse and differ -/

/-- The dates of the documents parse, and no two are the same instant. -/
structure Dated (isoDate : String → Option Int) (docs : List Document) : Prop where
  parse : ∀ d ∈ docs, (isoDate (JobPost.ofDict d).createdDate).isSome
  distinct : (docs.map fun d => isoDate (JobPost.ofDict d).createdDate).Nodup

/-- What the posts are sorted by: a later instant comes first. -/
def created (isoDate : String → Option Int) (p : JobPost) : Intᵒᵈ :=
  OrderDual.toDual ((isoDate p.createdDate).getD 0)

namespace Dated

variable {isoDate : String → Option Int} {docs docs' : List Document}

theorem of_some (h : Dated isoDate docs) {p : JobPost} (hp : p ∈ docs.map JobPost.ofDict) :
    ∃ t, isoDate p.createdDate = some t := by
  obtain ⟨d, hd, rfl⟩ := List.mem_map.1 hp
  exact Option.isSome_iff_exists.1 (h.parse d hd)

theorem follows (h : Dated isoDate docs) (now : Int × Int) (hl : docs' ⊆ docs) :
    Sorting.Follows (docs'.map JobPost.ofDict) (newer isoDate now) (created isoDate) := by
  refine .of_iff fun p hp q hq => ?_
  obtain ⟨t, ht⟩ := h.of_some (List.map_subset _ hl hp)
  obtain ⟨u, hu⟩ := h.of_some (List.map_subset _ hl hq)
  unfold newer created
  rw [date_of_some ht, date_of_some hu, ht, hu]
  simp

theorem nodup (h : Dated isoDate docs) : ((docs.map JobPost.ofDict).map (created isoDate)).Nodup := by
  have hk : (docs.map fun d => isoDate (JobPost.ofDict d).createdDate).map (fun o => OrderDual.toDual (o.getD 0)) =
      (docs.map JobPost.ofDict).map (created isoDate) := by simp [created]
  rw [← hk]
  refine h.distinct.map_on fun a ha b hb hab => ?_
  obtain ⟨d, hd, rfl⟩ := List.mem_map.1 ha
  obtain ⟨e, he, rfl⟩ := List.mem_map.1 hb
  obtain ⟨t, ht⟩ := Option.isSome_iff_exists.1 (h.parse d hd)
  obtain ⟨u, hu⟩ := Option.isSome_iff_exists.1 (h.parse e he)
  simpa [ht, hu] using hab

theorem perm (h : Dated isoDate docs) (hp : docs'.Perm docs) : Dated isoDate docs' :=
  ⟨fun d hd => h.parse d (hp.subset hd), ((hp.map _).nodup_iff).2 h.distinct⟩

theorem createdAfter (h : Dated isoDate docs) {p q : JobPost} (hp : p ∈ docs.map JobPost.ofDict)
    (hq : q ∈ docs.map JobPost.ofDict) (hlt : created isoDate p < created isoDate q) :
    CreatedAfter isoDate p q := by
  obtain ⟨t, ht⟩ := h.of_some hp
  obtain ⟨u, hu⟩ := h.of_some hq
  refine ⟨t, ht, u, hu, ?_⟩
  unfold created at hlt
  rw [ht, hu] at hlt
  exact hlt

end Dated

/-! ## The Profile is the Job List restricted to its owner -/

/-- The server compares the field, the decoder has a default for it: for an id that is not the default, the two
agree. -/
theorem ownerId_eq_iff {d : Document} {userId : String} (hu : userId ≠ "") :
    d ownerIdKey = some (.string userId) ↔ (JobPost.ofDict d).ownerId = userId := by
  show _ ↔ ((d ownerIdKey).bind Value.asString).getD "" = userId
  cases h : d ownerIdKey with
  | none => simp [Ne.symm hu]
  | some v => cases v <;> simp [Value.asString, Ne.symm hu]

theorem map_whereField (jobs : Store.Collection String String Value) {userId : String} (hu : userId ≠ "") :
    (jobs.whereField ownerIdKey (.string userId)).map JobPost.ofDict =
      (jobs.documents.map JobPost.ofDict).filter fun p => p.ownerId = userId := by
  rw [Store.Collection.whereField_eq_filter, List.filter_map]
  congr 1
  exact List.filter_congr fun d _ => decide_eq_decide.2 (ownerId_eq_iff hu)

variable {pf : Platform} {jobs : Store.Collection String String Value} {docs docs' : List Document}

/-- When the dates parse and differ, the Job List has the posts in strictly decreasing creation time, and the
Profile has those of its owner in the same order, whatever order the documents come in and whatever the clocks
show. -/
theorem profile_restricts_jobList (user : UserModel) (hd : Dated pf.isoDate jobs.documents)
    (hu : user.userId ≠ "") (hdocs : docs.Perm jobs.documents)
    (hdocs' : docs'.Perm (jobs.whereField ownerIdKey (.string user.userId))) (now now' : Int) (list profile : State) :
    let posts := (JobListViewController.snapshot pf now list (.ok docs)).jobPosts
    (ProfileViewController.snapshot pf now' profile (.ok docs')).jobPosts =
        posts.filter (fun p => p.ownerId = user.userId) ∧
      posts.Perm (docs.map JobPost.ofDict) ∧ posts.Pairwise (CreatedAfter pf.isoDate) := by
  have hl : Dated pf.isoDate docs := hd.perm hdocs
  have hsub : docs' ⊆ docs := fun d h => hdocs.symm.subset <| by
    have hm := hdocs'.subset h
    rw [Store.Collection.whereField_eq_filter] at hm
    exact (List.mem_filter.1 hm).1
  have hp : (docs'.map JobPost.ofDict).Perm ((docs.map JobPost.ofDict).filter fun p => p.ownerId = user.userId) := by
    refine (hdocs'.map _).trans ?_
    rw [map_whereField jobs hu]
    exact ((hdocs.map _).filter _).symm
  show pf.newestFirst now' docs' = (pf.newestFirst now docs).filter _ ∧ (pf.newestFirst now docs).Perm _ ∧
    (pf.newestFirst now docs).Pairwise _
  rw [newestFirst_eq, newestFirst_eq]
  have hf := hl.follows (now, now) (List.Subset.refl docs)
  refine ⟨Sorting.sorted_filter hl.nodup hf _ hp (hl.follows (now', now') hsub), Sorting.sorted_perm _ _, ?_⟩
  refine (Sorting.sorted_lt hl.nodup hf).imp_of_mem fun hp hq h => ?_
  exact hl.createdAfter (Sorting.mem_sorted.1 hp) (Sorting.mem_sorted.1 hq) h

/-- Bob's, from a device whose clock is ahead. -/
def sampleFuture : Document :=
  JobPost.postJob ⟨"2019-03-28T10:00:00Z", "p2", "bob", none, "", "Feed the cat", "Shy", "5pm", "12", 0, 0, "PENDING"⟩

/-- A post of Ann's and one of Bob's. -/
def sampleJobs : Store.Collection String String Value :=
  .setData (.setData ∅ "p1" (samplePost "p1" "2019-03-27T10:00:00Z")) "p2" sampleFuture

theorem profile_restricts_jobList_sample :
    let posts := (JobListViewController.snapshot samplePlatform 0 State.init (.ok sampleJobs.documents)).jobPosts
    (ProfileViewController.snapshot samplePlatform 1 State.init
        (.ok (sampleJobs.whereField ownerIdKey (.string "ann")))).jobPosts = posts.filter (fun p => p.ownerId = "ann") ∧
      posts.Perm (sampleJobs.documents.map JobPost.ofDict) ∧ posts.Pairwise (CreatedAfter samplePlatform.isoDate) :=
  profile_restricts_jobList ⟨"ann", "Ann", "a@x", none, none, "", none, none, none, none, none, none⟩
    ⟨by decide, by decide⟩ (by decide) (List.Perm.refl _) (List.Perm.refl _) 0 1 State.init State.init

/-! ## A moving clock -/

/-- The readings of the clock during a sort, two for each comparison. -/
structure Clock (T : Type) [LinearOrder T] where
  readings : List (T × T)
  mono : (readings.flatMap fun r => [r.1, r.2]).Pairwise (· ≤ ·)

theorem Clock.le (clock : Clock T) {r : T × T} (hr : r ∈ clock.readings) : r.1 ≤ r.2 := by
  obtain ⟨pre, post, h⟩ := List.append_of_mem hr
  have hm := clock.mono
  rw [h, List.flatMap_append, List.pairwise_append, List.flatMap_cons] at hm
  exact (List.pairwise_cons.1 hm.2.1).1 r.2 (by simp)

/-- Whichever two posts a comparison asks about, it gets the answer of the predicate. -/
def Answers (isoDate : String → Option T) (clock : Clock T) (posts : List JobPost)
    (p : JobPost → JobPost → Bool) : Prop :=
  ∀ r ∈ clock.readings, ∀ a ∈ posts, ∀ b ∈ posts, newer isoDate r a b = p a b

/-- The clock does not pass the date of a post during the sort, and no comparison has two of them between its
two readings. -/
structure Settled (isoDate : String → Option T) (clock : Clock T) (posts : List JobPost) : Prop where
  fst : ∀ a ∈ posts, ∀ t ∈ isoDate a.createdDate, ∀ r ∈ clock.readings, ∀ r' ∈ clock.readings, t < r.1 → t < r'.1
  snd : ∀ a ∈ posts, ∀ t ∈ isoDate a.createdDate, ∀ r ∈ clock.readings, ∀ r' ∈ clock.readings, r.2 < t → r'.2 < t
  one : ∀ a ∈ posts, ∀ t ∈ isoDate a.createdDate, ∀ b ∈ posts, ∀ u ∈ isoDate b.createdDate, ∀ r ∈ clock.readings,
    r.1 ≤ t → t < u → ¬ u ≤ r.2

variable {isoDate : String → Option T} {clock : Clock T} {posts : List JobPost}

theorem newer_iff {r : T × T} {a b : JobPost} :
    newer isoDate r a b = true ↔ date isoDate r.2 b.createdDate < date isoDate r.1 a.createdDate :=
  decide_eq_true_iff

theorem date_le {now now' : T} (h : now ≤ now') (s : String) : date isoDate now s ≤ date isoDate now' s := by
  unfold date
  cases isoDate s with
  | none => exact h
  | some t => exact le_rfl

/-- The answers of one comparison are a strict weak order unless it has two dates between its two readings. -/
theorem newer_legal {r : T × T} (hr : r.1 ≤ r.2)
    (hone : ∀ a ∈ posts, ∀ t ∈ isoDate a.createdDate, ∀ b ∈ posts, ∀ u ∈ isoDate b.createdDate,
      r.1 ≤ t → t < u → ¬ u ≤ r.2) : Sorting.Legal posts (newer isoDate r) := by
  refine Sorting.legal_of_connected (fun a _ b _ h => ?_) fun a ha b _ c hc h => ?_
  · rw [Bool.eq_false_iff, ne_eq, newer_iff, not_lt]
    rw [newer_iff] at h
    exact ((date_le hr b.createdDate).trans h.le).trans (date_le hr a.createdDate)
  · rw [newer_iff] at h ⊢
    rw [newer_iff]
    by_contra hn
    obtain ⟨hab, hbc⟩ := not_or.1 hn
    rw [not_lt] at hab hbc
    cases hb : isoDate b.createdDate with
    | some t =>
      rw [date_of_some hb] at hab hbc
      exact absurd (hab.trans hbc) (not_le.2 h)
    | none =>
      -- the third post is read as the present, so the other two have their dates between the readings
      rw [date_of_none hb] at hab hbc
      cases hta : isoDate a.createdDate with
      | none =>
        rw [date_of_none hta] at h
        exact absurd hbc (not_le.2 h)
      | some u =>
        cases htc : isoDate c.createdDate with
        | none =>
          rw [date_of_none htc] at h
          exact absurd hab (not_le.2 h)
        | some t =>
          rw [date_of_some hta, date_of_some htc] at h
          rw [date_of_some hta] at hab
          rw [date_of_some htc] at hbc
          exact hone c hc t htc a ha u hta hbc h hab

theorem Settled.newer_eq (hs : Settled isoDate clock posts) {r r' : T × T} (hr : r ∈ clock.readings)
    (hr' : r' ∈ clock.readings) {a b : JobPost} (ha : a ∈ posts) (hb : b ∈ posts) :
    newer isoDate r a b = newer isoDate r' a b := by
  rw [Bool.eq_iff_iff, newer_iff, newer_iff]
  cases hta : isoDate a.createdDate with
  | some t =>
    rw [date_of_some hta, date_of_some hta]
    cases htb : isoDate b.createdDate with
    | some u => rw [date_of_some htb, date_of_some htb]
    | none =>
      rw [date_of_none htb, date_of_none htb]
      exact ⟨hs.snd a ha t hta r hr r' hr', hs.snd a ha t hta r' hr' r hr⟩
  | none =>
    rw [date_of_none hta, date_of_none hta]
    cases htb : isoDate b.createdDate with
    | some u =>
      rw [date_of_some htb, date_of_some htb]
      exact ⟨hs.fst b hb u htb r hr r' hr', hs.fst b hb u htb r' hr' r hr⟩
    | none =>
      rw [date_of_none htb, date_of_none htb]
      exact iff_of_false (not_lt.2 (clock.le hr)) (not_lt.2 (clock.le hr'))

/-- Where the dates parse, the clock does not matter. -/
theorem newer_of_parse (h : ∀ a ∈ posts, (isoDate a.createdDate).isSome) (r r' : T × T) :
    ∀ a ∈ posts, ∀ b ∈ posts, newer isoDate r a b = newer isoDate r' a b := by
  intro a ha b hb
  obtain ⟨t, ht⟩ := Option.isSome_iff_exists.1 (h a ha)
  obtain ⟨u, hu⟩ := Option.isSome_iff_exists.1 (h b hb)
  rw [Bool.eq_iff_iff, newer_iff, newer_iff, date_of_some ht, date_of_some hu, date_of_some ht, date_of_some hu]

theorem answers_of_parse (h : ∀ a ∈ posts, (isoDate a.createdDate).isSome) (r : T × T) :
    Answers isoDate clock posts (newer isoDate r) := fun r' _ => newer_of_parse h r' r

theorem newer_legal_of_parse (h : ∀ a ∈ posts, (isoDate a.createdDate).isSome) (r : T × T) :
    Sorting.Legal posts (newer isoDate r) := by
  have hkey : ∀ a ∈ posts, ∀ b ∈ posts, newer isoDate r a b = true ↔
      OrderDual.toDual (date isoDate r.1 a.createdDate) < OrderDual.toDual (date isoDate r.1 b.createdDate) := by
    intro a _ b hb
    obtain ⟨u, hu⟩ := Option.isSome_iff_exists.1 (h b hb)
    rw [newer_iff, OrderDual.toDual_lt_toDual, date_of_some hu, date_of_some hu]
  exact Sorting.legal_key hkey

/-- What a legal predicate that gives all the answers says of a list with a post whose date does not parse. -/
theorem settled_of_answers {p : JobPost → JobPost → Bool} (hp : Sorting.Legal posts p)
    (ha : Answers isoDate clock posts p) {x : JobPost} (hx : x ∈ posts) (hn : isoDate x.createdDate = none) :
    Settled isoDate clock posts := by
  have hfst : ∀ r ∈ clock.readings, ∀ a ∈ posts, ∀ t ∈ isoDate a.createdDate, p x a = true ↔ t < r.1 := by
    intro r hr a hm t ht
    rw [← ha r hr x hx a hm, newer_iff, date_of_none hn, date_of_some ht]
  have hsnd : ∀ r ∈ clock.readings, ∀ a ∈ posts, ∀ t ∈ isoDate a.createdDate, p a x = true ↔ r.2 < t := by
    intro r hr a hm t ht
    rw [← ha r hr a hm x hx, newer_iff, date_of_none hn, date_of_some ht]
  refine ⟨fun a hm t ht r hr r' hr' h => ?_, fun a hm t ht r hr r' hr' h => ?_, ?_⟩
  · exact (hfst r' hr' a hm t ht).1 ((hfst r hr a hm t ht).2 h)
  · exact (hsnd r' hr' a hm t ht).1 ((hsnd r hr a hm t ht).2 h)
  · intro a hm t ht b hb u hu r hr hle hlt hub
    -- `x` is incomparable with both, so they would have to be incomparable with each other
    have hax : p a x = false ∧ p x a = false := by
      simp only [Bool.eq_false_iff, ne_eq, hsnd r hr a hm t ht, hfst r hr a hm t ht, not_lt]
      exact ⟨hlt.le.trans hub, hle⟩
    have hxb : p x b = false ∧ p b x = false := by
      simp only [Bool.eq_false_iff, ne_eq, hsnd r hr b hb u hu, hfst r hr b hb u hu, not_lt]
      exact ⟨hle.trans hlt.le, hub⟩
    have hba := (hp.incomp_trans hm hx hb hax hxb).2
    rw [← ha r hr b hb a hm, Bool.eq_false_iff, ne_eq, newer_iff, date_of_some ht, date_of_some hu] at hba
    exact hba hlt

/-- The answers during a sort are those of one strict weak order exactly when every date parses, or the clock
passes none of those that do and no comparison has two of them between its two readings. -/
theorem newer_legal_iff (isoDate : String → Option T) (clock : Clock T) (docs : List Document) :
    (∃ p, Sorting.Legal (docs.map JobPost.ofDict) p ∧ Answers isoDate clock (docs.map JobPost.ofDict) p) ↔
      (∀ a ∈ docs.map JobPost.ofDict, (isoDate a.createdDate).isSome) ∨
        Settled isoDate clock (docs.map JobPost.ofDict) := by
  constructor
  · rintro ⟨p, hp, ha⟩
    by_cases h : ∀ a ∈ docs.map JobPost.ofDict, (isoDate a.createdDate).isSome
    · exact Or.inl h
    · push Not at h
      obtain ⟨x, hx, hn⟩ := h
      exact Or.inr (settled_of_answers hp ha hx (Option.not_isSome_iff_eq_none.1 hn))
  · intro h
    rcases hc : clock.readings with _ | ⟨r, rest⟩
    · -- nothing is asked
      refine ⟨fun _ _ => false, Sorting.legal_of_connected (fun _ _ _ _ _ => rfl) nofun, fun r hr => ?_⟩
      rw [hc] at hr
      cases hr
    · have hr : r ∈ clock.readings := by rw [hc]; exact List.mem_cons_self
      refine ⟨newer isoDate r, ?_⟩
      rcases h with h | h
      · exact ⟨newer_legal_of_parse h r, answers_of_parse h r⟩
      · exact ⟨newer_legal (clock.le hr) fun a ha t ht b hb u hu => h.one a ha t ht b hb u hu r hr,
          fun r' hr' a ha b hb => h.newer_eq hr' hr ha hb⟩

/-- The clock passes the date of Bob's post between the first comparison and the second. -/
def sampleClock : Clock Int := ⟨[(1553767199, 1553767199), (1553767201, 1553767201)], by decide⟩

/-- Bob's post comes before one without a date, and a moment later it does not. -/
theorem newer_not_legal : ¬ ∀ (isoDate : String → Option Int) (clock : Clock Int) (docs : List Document),
    ∃ p, Sorting.Legal (docs.map JobPost.ofDict) p ∧ Answers isoDate clock (docs.map JobPost.ofDict) p := by
  intro h
  obtain ⟨p, -, ha⟩ := h samplePlatform.isoDate sampleClock [samplePost "p1" "", sampleFuture]
  have h1 := ha (1553767199, 1553767199) (by decide) (JobPost.ofDict sampleFuture) (by simp)
    (JobPost.ofDict (samplePost "p1" "")) (by simp)
  have h2 := ha (1553767201, 1553767201) (by decide) (JobPost.ofDict sampleFuture) (by simp)
    (JobPost.ofDict (samplePost "p1" "")) (by simp)
  rw [← h2] at h1
  revert h1
  decide

end PetIT.Table
