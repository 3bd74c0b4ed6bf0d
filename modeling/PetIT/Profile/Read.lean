/-
Reading a profile back. `fetchUser` finds a document by its `userId` field and the writers address it by
its id; the two are one, because a document is created with its own id in that field and no save touches
it. What is read is what the user signed up with under the last save that was applied.
-/
import PetIT.Profile.Invariant

namespace PetIT.Profile

open UsersCollectionKeys Store

/-! ## Definitions -/

/-- The user whose document the event writes. -/
def Event.writes (s : State) : Event → Option String
  | .createUserReply k none => (s.creates[k]?).map (·.user.userId)
  | .updateReply k none => (s.saves[k]?).map (·.captured.uid)
  | _ => none

/-- The save whose update of the user's document the store has applied last. -/
def State.lastSave (s : State) (uid : String) : Option Save := do
  let k ← lastWriter Applied.uid Applied.save s.updates uid
  s.saves[k]?

/-- The model holds the fields of the `createUser` call, with the writer's and the decoder's defaults. -/
structure OfCreate (u : UserModel) (m : UserModel) : Prop where
  displayName : m.displayName = u.displayName
  firstName : m.firstName = some (u.firstName.getD "FirstName")
  lastName : m.lastName = some (u.lastName.getD "LastName")
  bio : m.bio = some (u.bio.getD "")
  photoURL : m.photoURL = some (u.photoURL.getD "")

/-- The model holds the fields of the save. -/
structure OfSave (p : Save) (m : UserModel) : Prop where
  displayName : m.displayName = p.captured.displayName
  firstName : m.firstName = some p.captured.firstName
  lastName : m.lastName = some p.captured.lastName
  bio : m.bio = some p.captured.userBio
  photoURL : ∃ url commit, p.phase = .writing url commit .applied ∧ m.photoURL = some url

/-! ## What a document decodes to -/

variable {resolve : String → Option String} {s s' : State} {uid : String}

theorem ofDict_overlay (w : Option (Applied Document)) (u : UserModel)
    (hw : ∀ x ∈ w, ∃ c url, x.value = Captured.updateData c url) :
    (UserModel.ofDict (overlay w u.createUser)).userId = u.userId ∧
      (UserModel.ofDict (overlay w u.createUser)).email = u.email ∧
      (UserModel.ofDict (overlay w u.createUser)).joinedDate = u.joinedDate := by
  rcases w with _ | x
  · simp [overlay, UserModel.ofDict, UserModel.createUser, Document.string]
  · obtain ⟨c, url, hx⟩ := hw x rfl
    simp [overlay, hx, Fields.merge, Captured.updateData, UserModel.ofDict, UserModel.createUser, Document.string]

theorem ofCreate_ofDict (u : UserModel) : OfCreate u (UserModel.ofDict u.createUser) := by
  constructor <;> simp [UserModel.ofDict, UserModel.createUser, Document.string]

theorem ofSave_ofDict {p : Save} {url : String} {commit : Half} (hp : p.phase = .writing url commit .applied)
    (d : Document) : OfSave p (UserModel.ofDict (d.merge (p.captured.updateData url))) := by
  constructor
  case photoURL =>
    refine ⟨url, commit, hp, ?_⟩
    simp [UserModel.ofDict, Fields.merge, Captured.updateData, Document.string]
  all_goals simp [UserModel.ofDict, Fields.merge, Captured.updateData, Document.string]

/-! ## The query by the `userId` field -/

variable {auth₀ : String → AuthProfile}

/-- Every document was created by a `createUser` call and is what it wrote under the last update. -/
theorem Inv.document (hi : Inv resolve ∅ auth₀ s.core) {d : Document} (hd : s.users.lookup uid = some d) :
    ∃ u ∈ s.created, u.userId = uid ∧ d = overlay (last Applied.uid s.updates uid) u.createUser := by
  have hd' := (hi.users uid).symm.trans hd
  rw [Core.base, AList.lookup_empty, Option.none_or, Option.map_map] at hd'
  obtain ⟨u, hu, rfl⟩ := Option.map_eq_some_iff.1 hd'
  exact ⟨u, mem_of_last hu, key_of_last hu, rfl⟩

theorem Inv.updates_value (hi : Inv resolve ∅ auth₀ s.core) :
    ∀ x ∈ last Applied.uid s.updates uid, ∃ c url, x.value = Captured.updateData c url := by
  intro x hx
  obtain ⟨p, -, url, -, -, -, hv⟩ := hi.updates x (mem_of_last hx)
  exact ⟨p.captured, url, hv⟩

/-- A document's `userId` field is its id. -/
theorem Inv.userId (hi : Inv resolve ∅ auth₀ s.core) {d : Document} (hd : s.users.lookup uid = some d) :
    d userIdKey = some (.string uid) := by
  obtain ⟨u, -, rfl, rfl⟩ := hi.document hd
  rcases hw : last Applied.uid s.updates u.userId with _ | x
  · simp [overlay, UserModel.createUser]
  · obtain ⟨c, url, hx⟩ := hi.updates_value x hw
    simp [overlay, hx, Fields.merge, Captured.updateData, UserModel.createUser]

theorem Inv.whereField (hi : Inv resolve ∅ auth₀ s.core) (uid : String) :
    s.users.whereField userIdKey (.string uid) = (s.users.lookup uid).toList :=
  Collection.whereField_eq Value.string_injective (fun _ _ hd => hi.userId hd) uid

theorem Inv.fetchUser (hi : Inv resolve ∅ auth₀ s.core) (uid : String) :
    s.fetchUser uid = (s.users.lookup uid).map fun d => .ok (UserModel.ofDict d) := by
  unfold State.fetchUser
  rw [hi.whereField uid]
  rcases s.users.lookup uid with _ | d <;> rfl

/-- Two calls of `createUser` that were applied are not for one user. -/
theorem Inv.created_inj (hi : Inv resolve ∅ auth₀ s.core) {u v : UserModel} (hu : u ∈ s.created)
    (hv : v ∈ s.created) (h : u.userId = v.userId) : u = v := by
  have hsymm : Std.Symm fun u v : UserModel => u.userId ≠ v.userId := ⟨fun _ _ => Ne.symm⟩
  by_contra hne
  exact hi.createdOnce.forall hu hv hne h

/-- What `fetchUser` reads of a user with a document. -/
theorem Inv.fetchUser_created (hi : Inv resolve ∅ auth₀ s.core) {u : UserModel} (hu : u ∈ s.created) :
    s.fetchUser u.userId =
      some (.ok (UserModel.ofDict (overlay (last Applied.uid s.updates u.userId) u.createUser))) := by
  obtain ⟨d, hd⟩ := Option.ne_none_iff_exists'.1 (hi.lookup_of_created hu)
  obtain ⟨v, hv, hid, rfl⟩ := hi.document hd
  have huv : v = u := hi.created_inj hv hu hid
  subst huv
  rw [hi.fetchUser, show s.users.lookup v.userId = _ from hd]
  rfl

/-! ## Writes -/

/-- An event that does not write a user's document leaves it alone. -/
theorem step_frame {e : Event} (h : step resolve s e = some s') (hne : e.writes s ≠ some uid) :
    s'.users.lookup uid = s.users.lookup uid := by
  have hcore := step_core h
  rw [show s'.users = s'.core.users from rfl, show s.users = s.core.users from rfl]
  generalize s'.core = c' at hcore
  cases hcore with
  | @created k x he hk hx =>
    have hid : x.user.userId ≠ uid := by
      intro hid
      refine hne ?_
      rw [he, ← hid]
      exact congrArg (Option.map (·.user.userId)) hk
    show (s.users.setData _ _).lookup uid = _
    rw [Collection.lookup_setData, if_neg (Ne.symm hid)]
    rfl
  | @updated k p url commit d he hk hp hd =>
    have hid : p.captured.uid ≠ uid := by
      intro hid
      refine hne ?_
      rw [he, ← hid]
      exact congrArg (Option.map (·.captured.uid)) hk
    show (s.users.setData _ _).lookup uid = _
    rw [Collection.lookup_setData, if_neg (Ne.symm hid)]
    rfl
  | _ => rfl

/-- A save of a user who has no document changes nothing in the collection. -/
theorem updateReply_missing {k : Nat} {p : Save} {error : Option String} (hk : s.saves[k]? = some p)
    (hn : s.users.lookup p.captured.uid = none) (h : step resolve s (.updateReply k error) = some s') :
    s'.users = s.users := by
  obtain ⟨q, url, c, hq, -, ⟨-, d, hd, -⟩ | ⟨m, -, rfl⟩⟩ := updateReply_some h
  · rw [hk] at hq; cases hq
    rw [hn] at hd; cases hd
  · rfl

/-- The calls in flight and the documents of a run are from its own `createUser` events. -/
theorem created_of_exec {es : List Event} (h : Run.exec (step resolve) State.init es = some s) :
    (∀ (k : Nat) (c : Create), s.creates[k]? = some c → Event.createUser c.user ∈ es) ∧
      ∀ u ∈ s.created, Event.createUser u ∈ es := by
  refine Run.exec_trace (H := fun es s => (∀ (k : Nat) (c : Create), s.creates[k]? = some c →
    Event.createUser c.user ∈ es) ∧ ∀ u ∈ s.created, Event.createUser u ∈ es) (by simp [State.init, State.start]) ?_ h
  rintro es s e s' - ⟨ih, ih'⟩ hstep
  have hold : ∀ (k : Nat) (c : Create), s.creates[k]? = some c → Event.createUser c.user ∈ es ++ [e] :=
    fun k c hc => List.mem_append_left _ (ih k c hc)
  have hold' : ∀ u ∈ s.created, Event.createUser u ∈ es ++ [e] := fun u hu => List.mem_append_left _ (ih' u hu)
  have hcore := step_core hstep
  rw [show s'.creates = s'.core.creates from rfl, show s'.created = s'.core.created from rfl]
  generalize s'.core = c' at hcore
  cases hcore with
  | @called user he _ _ =>
    refine ⟨Slots.forall_concat (P := fun _ (c : Create) => Event.createUser c.user ∈ es ++ [e]) hold ?_, hold'⟩
    rw [he]; exact List.mem_append_right _ (List.mem_singleton_self _)
  | @created k x _ hk _ =>
    refine ⟨Slots.forall_set (P := fun _ (c : Create) => Event.createUser c.user ∈ es ++ [e]) hold (hold k x hk),
      fun u hu => ?_⟩
    rcases List.mem_cons.1 hu with rfl | hu
    · exact hold k x hk
    · exact hold' u hu
  | @notCreated k x hk _ =>
    exact ⟨Slots.forall_set (P := fun _ (c : Create) => Event.createUser c.user ∈ es ++ [e]) hold (hold k x hk), hold'⟩
  | _ => exact ⟨hold, hold'⟩

/-! ## A user reads back their own profile -/

/-- A user's document is the only one whose `userId` field is theirs; `fetchUser` reads from it what they
signed up with and, all together, the fields of the last save of theirs that was applied, if there was
one. No other user's write changes it, and a save without a document changes nothing. -/
theorem fetchUser_reads_back (resolve : String → Option String) (es : List Event) (s : State)
    (h : Run.exec (step resolve) State.init es = some s) :
    (∀ uid, s.users.whereField userIdKey (.string uid) = (s.users.lookup uid).toList) ∧
    (∀ uid, s.users.lookup uid ≠ none → ∃ u ∈ s.created, u.userId = uid) ∧
    (∀ u ∈ s.created, Event.createUser u ∈ es ∧ ∃ m, s.fetchUser u.userId = some (.ok m) ∧
      m.userId = u.userId ∧ m.email = u.email ∧ m.joinedDate = u.joinedDate ∧
      match s.lastSave u.userId with
      | none => OfCreate u m
      | some p => p.captured.uid = u.userId ∧ OfSave p m) ∧
    (∀ uid e s', step resolve s e = some s' → e.writes s ≠ some uid →
      s'.users.lookup uid = s.users.lookup uid ∧ s'.fetchUser uid = s.fetchUser uid) ∧
    (∀ (k : Nat) p error s', s.saves[k]? = some p → (∀ u ∈ s.created, u.userId ≠ p.captured.uid) →
      step resolve s (.updateReply k error) = some s' → s'.users = s.users) := by
  have hi : Inv resolve ∅ (fun _ => {}) s.core := Inv.exec h
  refine ⟨hi.whereField, fun uid hne => ?_, fun u hu => ⟨(created_of_exec h).2 u hu, _, hi.fetchUser_created hu, ?_⟩,
    fun uid e s' hs hne => ?_, fun k p error s' hk hnew hs => ?_⟩
  · obtain ⟨d, hd⟩ := Option.ne_none_iff_exists'.1 hne
    obtain ⟨u, hu, hid, -⟩ := hi.document hd
    exact ⟨u, hu, hid⟩
  · obtain ⟨h1, h2, h3⟩ := ofDict_overlay (last Applied.uid s.updates u.userId) u hi.updates_value
    refine ⟨h1, h2, h3, ?_⟩
    rcases hw : last Applied.uid s.updates u.userId with _ | w
    · have hls : s.lastSave u.userId = none := by
        unfold State.lastSave lastWriter; rw [hw]; rfl
      rw [hls]
      exact ofCreate_ofDict u
    · obtain ⟨p, hp, url, commit, hph, huid, hv⟩ := hi.updates w (mem_of_last hw)
      have hls : s.lastSave u.userId = some p := by
        unfold State.lastSave lastWriter; rw [hw]; exact hp
      rw [hls]
      refine ⟨huid.symm.trans (key_of_last hw), ?_⟩
      show OfSave p (UserModel.ofDict (u.createUser.merge w.value))
      rw [hv]
      exact ofSave_ofDict hph _
  · have hl := step_frame hs hne
    have hi' : Inv resolve ∅ (fun _ => {}) s'.core := hi.coreStep (step_core hs)
    exact ⟨hl, by rw [hi'.fetchUser, hi.fetchUser, hl]⟩
  · refine updateReply_missing hk ?_ hs
    by_contra hne
    obtain ⟨d, hd⟩ := Option.ne_none_iff_exists'.1 hne
    obtain ⟨u, hu, hid, -⟩ := hi.document hd
    exact hnew u hu hid

/-! ## A sample run -/

/-- What Ann signs up with. -/
def sampleUser : UserModel where
  userId := "ann"
  displayName := "Ann"
  email := "ann@mail.com"
  photoURL := none
  petPhotoURL := none
  joinedDate := "2019-03-27T10:00:00Z"
  firstName := none
  lastName := none
  bio := none
  petBio := none
  rating := none
  qualifications := none

/-- What Bob signs up with. -/
def sampleOther : UserModel := { sampleUser with userId := "bob", displayName := "Bob", email := "bob@mail.com" }

/-- Where the URLs of Ann's and Bob's photos lead. -/
def sampleResolve (url : String) : Option String :=
  if url = "https://storage/ann.jpg" then some (profileImage "ann")
  else if url = "https://storage/bob.jpg" then some (profileImage "bob") else none

/-- A user picks a photo and saves their profile, and both writes are sent. -/
def sampleSave (i : Nat) (owner : UserModel) (username : String) (imageData : Data) : List Event := [
  .openEdit owner,
  .touch i (.edit "Ann" "Lee" username "I like dogs"),
  .touch i .profileImageButtonPressed,
  .touch i .sourceChosen,
  .touch i (.didFinishPicking (some imageData)),
  .saveButtonPressed i (some owner.userId),
  .uploadReply i true,
  .downloadURLReply i (.ok ("https://storage/" ++ owner.userId ++ ".jpg"))]

/-- Ann and Bob sign up; Ann saves her profile, Bob saves his, and Ann saves hers again. -/
def sampleRun : List Event :=
  [.createUser sampleUser, .createUser sampleOther, .createUserReply 1 none, .createUserReply 0 none] ++
    sampleSave 0 sampleUser "annie" [1] ++ sampleSave 1 sampleOther "bobby" [2] ++
    [.updateReply 0 none, .commitReply 0 none] ++ sampleSave 2 sampleUser "annika" [3] ++
    [.updateReply 2 none, .updateReply 1 none]

theorem fetchUser_reads_back_sample : ∃ s m m', Run.exec (step sampleResolve) State.init sampleRun = some s ∧
    s.fetchUser "ann" = some (.ok m) ∧ m.email = "ann@mail.com" ∧ m.displayName = "annika" ∧
    s.fetchUser "bob" = some (.ok m') ∧ m'.email = "bob@mail.com" ∧ m'.displayName = "bobby" := by
  have hx : (Run.exec (step sampleResolve) State.init sampleRun).map (fun s => (s.created,
      (s.lastSave "ann").map (·.captured.displayName), (s.lastSave "bob").map (·.captured.displayName))) =
      some ([sampleUser, sampleOther], some "annika", some "bobby") := by
    decide
  obtain ⟨s, hs, hx⟩ := Option.map_eq_some_iff.1 hx
  simp only [Prod.mk.injEq] at hx
  obtain ⟨hcreated, hann, hbob⟩ := hx
  have hreads := (fetchUser_reads_back sampleResolve sampleRun s hs).2.2.1
  obtain ⟨p, hp, hname⟩ := Option.map_eq_some_iff.1 hann
  obtain ⟨-, m, hm, -, hemail, -, hsave⟩ := hreads sampleUser (by rw [hcreated]; simp)
  rw [show s.lastSave sampleUser.userId = some p from hp] at hsave
  obtain ⟨p', hp', hname'⟩ := Option.map_eq_some_iff.1 hbob
  obtain ⟨-, m', hm', -, hemail', -, hsave'⟩ := hreads sampleOther (by rw [hcreated]; simp)
  rw [show s.lastSave sampleOther.userId = some p' from hp'] at hsave'
  exact ⟨s, m, m', hs, hm, hemail, hsave.2.displayName.trans hname, hm', hemail', hsave'.2.displayName.trans hname'⟩

end PetIT.Profile
