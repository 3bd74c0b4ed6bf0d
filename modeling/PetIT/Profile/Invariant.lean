/-
The invariant of the profile system's core. The logs say what Auth, the storage and the collection
hold: an Auth profile is what the last applied `commitChanges` of its user asked for, and a user's
document is the one it was created with under the last applied update. Every record of a log is the
work of the save it names.
-/
import PetIT.Profile.Step

namespace PetIT.Profile

open UsersCollectionKeys Store

/-! ## Definitions -/

/-- The commit of save `p` has applied, and is what the log records as `w`. -/
def Save.Committed (p : Save) (w : Applied AuthProfile) : Prop :=
  ∃ url update, p.phase = .writing url .applied update ∧ w.uid = p.captured.uid ∧
    w.value = p.captured.changeRequest url

/-- The document update of save `p` has applied, and is what the log records as `w`. -/
def Save.Updated (p : Save) (w : Applied Document) : Prop :=
  ∃ url commit, p.phase = .writing url commit .applied ∧ w.uid = p.captured.uid ∧
    w.value = p.captured.updateData url

/-- A save that is past its upload has its image in the storage, and writes a URL of that image. -/
def PhaseOK (resolve : String → Option String) (puts : List (Put Nat)) (k : Nat) (p : Save) : Prop :=
  match p.phase with
  | .uploading | .failed => True
  | .fetchingURL => p.put k ∈ puts
  | .writing url _ _ => p.put k ∈ puts ∧ resolve url = some p.captured.path

/-- The document a user was given: before the run, or by `createUser`. -/
def Core.base (c : Core) (users₀ : Collection String String Value) (uid : String) : Option Document :=
  (users₀.lookup uid).or ((last UserModel.userId c.created uid).map UserModel.createUser)

/-- A document under an update, if there was one. -/
def overlay (w : Option (Applied Document)) (d : Document) : Document :=
  match w with
  | none => d
  | some w => d.merge w.value

/-- What holds of creations, saves, uploads and writes in every state: users are created once and before they are
updated, each write is that of its save, the Auth profile is what was committed last, and each document is the user's
as created, with the last update over it. -/
structure Inv (resolve : String → Option String) (users₀ : Collection String String Value)
    (auth₀ : String → AuthProfile) (c : Core) : Prop where
  uids : (c.creates.map (·.user.userId)).Nodup
  pending : ∀ (k : Nat) (x : Create), c.creates[k]? = some x → x.phase = .inFlight →
    c.users.lookup x.user.userId = none
  phase : ∀ (k : Nat) (p : Save), c.saves[k]? = some p → PhaseOK resolve c.puts k p
  puts : ∀ put ∈ c.puts, ∃ p, c.saves[put.writer]? = some p ∧ p.phase ≠ .uploading ∧ put = p.put put.writer
  commits : ∀ w ∈ c.commits, ∃ p, c.saves[w.save]? = some p ∧ p.Committed w
  updates : ∀ w ∈ c.updates, ∃ p, c.saves[w.save]? = some p ∧ p.Updated w
  updated : ∀ w ∈ c.updates, c.users.lookup w.uid ≠ none
  auth : ∀ uid, c.auth uid = ((last Applied.uid c.commits uid).map Applied.value).getD (auth₀ uid)
  createdOnce : c.created.Pairwise fun u v => u.userId ≠ v.userId
  users : ∀ uid, c.users.lookup uid = (c.base users₀ uid).map (overlay (last Applied.uid c.updates uid))

/-! ## Small facts -/

theorem PhaseOK.mono {resolve : String → Option String} {puts puts' : List (Put Nat)} {k : Nat} {p : Save}
    (hsub : puts ⊆ puts') (h : PhaseOK resolve puts k p) : PhaseOK resolve puts' k p := by
  unfold PhaseOK at *
  split at h
  · exact trivial
  · exact trivial
  · exact hsub h
  · exact ⟨hsub h.1, h.2⟩

theorem updateData_isSome (c : Captured) (url key : String) : (c.updateData url key).isSome = true ↔
    key ∈ [photoURLKey, displayNameKey, firstNameKey, lastNameKey, bioKey] := by
  unfold Captured.updateData
  rw [Fields.ofList_isSome]
  rfl

/-- Each save updates the same fields, so the last one decides them all. -/
theorem overlay_merge {w : Option (Applied Document)} {c : Captured} {url : String} {d : Document}
    (h : ∀ x, w = some x → ∃ c' url', x.value = Captured.updateData c' url') :
    (overlay w d).merge (c.updateData url) = d.merge (c.updateData url) := by
  rcases w with _ | x
  · rfl
  · obtain ⟨c', url', hx⟩ := h x rfl
    refine Fields.merge_merge fun key hk => ?_
    rw [hx, updateData_isSome] at hk
    exact (updateData_isSome c url key).2 hk

variable {resolve : String → Option String} {users₀ : Collection String String Value}
  {auth₀ : String → AuthProfile} {c c' : Core}

theorem Inv.start (resolve : String → Option String) (users : Collection String String Value)
    (auth : String → AuthProfile) : Inv resolve users auth (State.start users auth).core := by
  have husers : ∀ uid, users.lookup uid = ((users.lookup uid).or none).map (overlay none) := by
    intro uid
    rcases users.lookup uid with _ | d <;> rfl
  refine ⟨?_, ?_, ?_, ?_, ?_, ?_, ?_, ?_, ?_, husers⟩ <;> simp [State.core, State.start]

/-- A user nobody has created a document for has none and no update. -/
theorem Inv.noUpdate (hi : Inv resolve users₀ auth₀ c) {uid : String} (h : c.users.lookup uid = none) :
    last Applied.uid c.updates uid = none := by
  rw [last_eq_none]
  rintro w hw rfl
  exact hi.updated w hw h

/-- A document somebody was given is there. -/
theorem Inv.lookup_of_created (hi : Inv resolve users₀ auth₀ c) {u : UserModel} (hu : u ∈ c.created) :
    c.users.lookup u.userId ≠ none := by
  obtain ⟨v, hv⟩ := last_of_mem hu (rfl : UserModel.userId u = u.userId)
  rw [hi.users, Core.base, hv]
  rcases users₀.lookup u.userId with _ | d <;> simp

/-! ## Every change of the core keeps the invariant -/

/-- A save moves to a phase its upload justifies and that takes back no applied write. -/
theorem Inv.setPhase (hi : Inv resolve users₀ auth₀ c) {k : Nat} {p : Save} {phase : SavePhase}
    (hk : c.saves[k]? = some p) (hne : phase ≠ .uploading)
    (hok : PhaseOK resolve c.puts k { p with phase := phase })
    (hc : ∀ w, p.Committed w → Save.Committed { p with phase := phase } w)
    (hu : ∀ w, p.Updated w → Save.Updated { p with phase := phase } w) :
    Inv resolve users₀ auth₀ (c.setPhase k p phase) :=
  ⟨hi.uids, hi.pending, Slots.forall_set hi.phase hok,
    fun put hput => Slots.get_set hk (fun h => ⟨hne, h.2⟩) (hi.puts put hput),
    fun w hw => Slots.get_set hk (hc w) (hi.commits w hw),
    fun w hw => Slots.get_set hk (hu w) (hi.updates w hw), hi.updated, hi.auth, hi.createdOnce, hi.users⟩

theorem Inv.called (hi : Inv resolve users₀ auth₀ c) {user : UserModel}
    (fresh : ∀ x ∈ c.creates, x.user.userId ≠ user.userId) (hn : c.users.lookup user.userId = none) :
    Inv resolve users₀ auth₀ { c with creates := c.creates ++ [⟨user, .inFlight⟩] } := by
  refine ⟨?_, Slots.forall_concat hi.pending fun _ => hn, hi.phase, hi.puts, hi.commits, hi.updates,
    hi.updated, hi.auth, hi.createdOnce, hi.users⟩
  rw [List.map_append]
  refine List.nodup_append.2 ⟨hi.uids, List.nodup_singleton _, ?_⟩
  rintro a ha b hb rfl
  obtain ⟨x, hx, rfl⟩ := List.mem_map.1 ha
  rw [List.map_singleton, List.mem_singleton] at hb
  exact fresh x hx hb

/-- A `createUser` call ends; the other calls in flight are for other users. -/
theorem Inv.replied (hi : Inv resolve users₀ auth₀ c) {k : Nat} {x : Create} {phase : Half}
    (hk : c.creates[k]? = some x) (hph : phase ≠ .inFlight) :
    Inv resolve users₀ auth₀ { c with creates := c.creates.set k { x with phase := phase } } ∧
      ∀ (j : Nat) (y : Create), (c.creates.set k { x with phase := phase })[j]? = some y →
        y.phase = .inFlight → y.user.userId ≠ x.user.userId := by
  have hmap : (c.creates.set k { x with phase := phase }).map (·.user.userId) =
      c.creates.map (·.user.userId) := Slots.map_set _ hk rfl
  refine ⟨⟨by rw [hmap]; exact hi.uids, Slots.forall_set hi.pending fun h => absurd h hph, hi.phase, hi.puts,
    hi.commits, hi.updates, hi.updated, hi.auth, hi.createdOnce, hi.users⟩, fun j y hj hy he => ?_⟩
  have hnd : ((c.creates.set k { x with phase := phase }).map (·.user.userId)).Nodup := by
    rw [hmap]; exact hi.uids
  have hx : (c.creates.set k { x with phase := phase })[k]? = some { x with phase := phase } :=
    Slots.getElem?_set_self hk
  have hjk : j = k := Slots.index_eq hnd hj hx he
  subst hjk
  rw [hx] at hj; cases hj
  exact hph hy

theorem Inv.created (hi : Inv resolve users₀ auth₀ c) {k : Nat} {x : Create}
    (hk : c.creates[k]? = some x) (hx : x.phase = .inFlight) :
    Inv resolve users₀ auth₀ { c with
      users := c.users.setData x.user.userId x.user.createUser
      creates := c.creates.set k { x with phase := .applied }
      created := x.user :: c.created } := by
  have hnone := hi.pending k x hk hx
  obtain ⟨h, hother⟩ := hi.replied hk (by simp : Half.applied ≠ .inFlight)
  refine ⟨h.uids, fun j y hj hy => ?_, hi.phase, hi.puts, hi.commits, hi.updates, fun w hw => ?_, hi.auth,
    List.pairwise_cons.2 ⟨fun u hu he => ?_, hi.createdOnce⟩, fun uid => ?_⟩
  · -- a call still in flight is for another user
    rw [Collection.lookup_setData, if_neg (hother j y hj hy)]
    exact h.pending j y hj hy
  · rw [Collection.lookup_setData]
    split
    · simp
    · exact hi.updated w hw
  · exact hi.lookup_of_created hu (he ▸ hnone)
  · show (c.users.setData _ _).lookup uid =
      ((users₀.lookup uid).or ((last UserModel.userId (x.user :: c.created) uid).map UserModel.createUser)).map _
    rw [Collection.lookup_setData, last_cons]
    by_cases hu : uid = x.user.userId
    · subst hu
      -- nobody had a document for this user, not even before the run
      have hbase := hi.users x.user.userId
      rw [hnone, eq_comm, Option.map_eq_none_iff, Core.base, Option.or_eq_none_iff] at hbase
      rw [if_pos rfl, if_pos rfl, hi.noUpdate hnone, hbase.1]
      rfl
    · rw [if_neg hu, if_neg (Ne.symm hu)]
      exact hi.users uid

theorem Inv.uploaded (hi : Inv resolve users₀ auth₀ c) {k : Nat} {p : Save} (hk : c.saves[k]? = some p)
    (hp : p.phase = .uploading) :
    Inv resolve users₀ auth₀ { c.setPhase k p .fetchingURL with puts := p.put k :: c.puts } := by
  refine ⟨hi.uids, hi.pending, Slots.forall_set (fun j q hq => (hi.phase j q hq).mono
    (List.subset_cons_self _ _)) (List.mem_cons_self ..), fun put hput => ?_, fun w hw => ?_, fun w hw => ?_,
    hi.updated, hi.auth, hi.createdOnce, hi.users⟩
  · rcases List.mem_cons.1 hput with rfl | hput
    · exact ⟨_, Slots.getElem?_set_self hk, by simp, rfl⟩
    · exact Slots.get_set hk (fun h => ⟨by simp, h.2⟩) (hi.puts put hput)
  · refine Slots.get_set hk ?_ (hi.commits w hw)
    rintro ⟨url, u, h, -⟩
    rw [hp] at h; cases h
  · refine Slots.get_set hk ?_ (hi.updates w hw)
    rintro ⟨url, u, h, -⟩
    rw [hp] at h; cases h

theorem Inv.committed (hi : Inv resolve users₀ auth₀ c) {k : Nat} {p : Save} {url : String} {update : Half}
    (hk : c.saves[k]? = some p) (hp : p.phase = .writing url .applied update) :
    Inv resolve users₀ auth₀ { c with
      auth := Function.update c.auth p.captured.uid (p.captured.changeRequest url)
      commits := ⟨k, p.captured.uid, p.captured.changeRequest url⟩ :: c.commits } := by
  refine ⟨hi.uids, hi.pending, hi.phase, hi.puts, fun w hw => ?_, hi.updates, hi.updated, fun uid => ?_,
    hi.createdOnce, hi.users⟩
  · rcases List.mem_cons.1 hw with rfl | hw
    · exact ⟨p, hk, url, update, hp, rfl, rfl⟩
    · exact hi.commits w hw
  · show Function.update c.auth _ _ uid = _
    rw [last_cons]
    by_cases hu : p.captured.uid = uid
    · subst hu
      rw [if_pos rfl, Function.update_self]
      rfl
    · rw [if_neg hu, Function.update_of_ne (Ne.symm hu)]
      exact hi.auth uid

theorem Inv.updatedBy (hi : Inv resolve users₀ auth₀ c) {k : Nat} {p : Save} {url : String} {commit : Half}
    {d : Document} (hk : c.saves[k]? = some p) (hp : p.phase = .writing url commit .applied)
    (hd : c.users.lookup p.captured.uid = some d) :
    Inv resolve users₀ auth₀ { c with
      users := c.users.setData p.captured.uid (d.merge (p.captured.updateData url))
      updates := ⟨k, p.captured.uid, p.captured.updateData url⟩ :: c.updates } := by
  refine ⟨hi.uids, fun j y hj hy => ?_, hi.phase, hi.puts, hi.commits, fun w hw => ?_, fun w hw => ?_, hi.auth,
    hi.createdOnce, fun uid => ?_⟩
  · have hn := hi.pending j y hj hy
    rw [Collection.lookup_setData, if_neg (fun h => by rw [h, hd] at hn; cases hn)]
    exact hn
  · rcases List.mem_cons.1 hw with rfl | hw
    · exact ⟨p, hk, url, commit, hp, rfl, rfl⟩
    · exact hi.updates w hw
  · rw [Collection.lookup_setData]
    rcases List.mem_cons.1 hw with rfl | hw
    · simp
    · split
      · simp
      · exact hi.updated w hw
  · show (c.users.setData _ _).lookup uid = (c.base users₀ uid).map (overlay (last Applied.uid (_ :: c.updates) uid))
    rw [Collection.lookup_setData, last_cons]
    by_cases hu : uid = p.captured.uid
    · subst hu
      rw [if_pos rfl, if_pos rfl]
      -- what an earlier save wrote is all written over
      obtain ⟨b, hb, rfl⟩ := Option.map_eq_some_iff.1 ((hi.users _).symm.trans hd)
      rw [hb, overlay_merge fun x hx => ?_]
      · rfl
      · obtain ⟨q, -, url', _, -, -, hv⟩ := hi.updates x (mem_of_last hx)
        exact ⟨q.captured, url', hv⟩
    · rw [if_neg hu, if_neg (Ne.symm hu)]
      exact hi.users uid

/-- A save that has sent its writes keeps its upload and its URL whatever becomes of the writes. -/
theorem Inv.writing (hi : Inv resolve users₀ auth₀ c) {k : Nat} {p : Save} {url : String} {h h' : Half}
    (hk : c.saves[k]? = some p) (hp : p.phase = .writing url h h') (commit update : Half) :
    PhaseOK resolve c.puts k { p with phase := .writing url commit update } := by
  have hok := hi.phase k p hk
  unfold PhaseOK at hok
  rw [hp] at hok
  exact hok

/-- A save that ends before it has sent its writes has no applied write to take back. -/
theorem Inv.setFailed (hi : Inv resolve users₀ auth₀ c) {k : Nat} {p : Save} (hk : c.saves[k]? = some p)
    (hp : p.phase = .uploading ∨ p.phase = .fetchingURL) : Inv resolve users₀ auth₀ (c.setPhase k p .failed) := by
  refine hi.setPhase hk (by simp) trivial ?_ ?_ <;>
  · rintro w ⟨url, h, hw, -⟩
    rw [hw] at hp; simp at hp

theorem Inv.coreStep {e : Event} (hi : Inv resolve users₀ auth₀ c) (h : CoreStep resolve e c c') :
    Inv resolve users₀ auth₀ c' := by
  cases h with
  | idle => exact hi
  | called _ fresh hn => exact hi.called fresh hn
  | created _ hk hx => exact hi.created hk hx
  | notCreated hk hx => exact (hi.replied hk (by simp)).1
  | pressed =>
    exact ⟨hi.uids, hi.pending, Slots.forall_concat hi.phase trivial,
      fun put hput => Slots.get_concat _ (hi.puts put hput), fun w hw => Slots.get_concat _ (hi.commits w hw),
      fun w hw => Slots.get_concat _ (hi.updates w hw), hi.updated, hi.auth, hi.createdOnce, hi.users⟩
  | uploaded hk hp => exact hi.uploaded hk hp
  | uploadFailed hk hp => exact hi.setFailed hk (Or.inl hp)
  | linkFailed _ hk hp => exact hi.setFailed hk (Or.inr hp)
  | @linked k p url hk hp hurl =>
    have hok := hi.phase _ _ hk
    unfold PhaseOK at hok
    rw [hp] at hok
    refine hi.setPhase hk (by simp) ⟨hok, hurl⟩ ?_ ?_ <;>
    · rintro w ⟨url, h, hw, -⟩
      rw [hp] at hw; cases hw
  | @committed k p url update _ hk hp =>
    have h1 : Inv resolve users₀ auth₀ (c.setPhase k p (.writing url .applied update)) :=
      hi.setPhase hk (by simp) (hi.writing hk hp _ _) (fun w ⟨_, _, h, _⟩ => by rw [hp] at h; cases h)
        (fun w ⟨_, _, h, hw⟩ => by rw [hp] at h; cases h; exact ⟨url, _, rfl, hw⟩)
    have hk1 : (c.setPhase k p (.writing url .applied update)).saves[k]? =
        some { p with phase := .writing url .applied update } := Slots.getElem?_set_self hk
    have h2 := h1.committed hk1 rfl
    exact h2
  | @commitFailed k p url message update _ hk hp =>
    exact hi.setPhase hk (by simp) (hi.writing hk hp _ _) (fun w ⟨_, _, h, _⟩ => by rw [hp] at h; cases h)
      (fun w ⟨_, _, h, hw⟩ => by rw [hp] at h; cases h; exact ⟨url, _, rfl, hw⟩)
  | @updated k p url commit d _ hk hp hd =>
    have h1 : Inv resolve users₀ auth₀ (c.setPhase k p (.writing url commit .applied)) :=
      hi.setPhase hk (by simp) (hi.writing hk hp _ _)
        (fun w ⟨_, _, h, hw⟩ => by rw [hp] at h; cases h; exact ⟨url, _, rfl, hw⟩)
        (fun w ⟨_, _, h, _⟩ => by rw [hp] at h; cases h)
    have hk1 : (c.setPhase k p (.writing url commit .applied)).saves[k]? =
        some { p with phase := .writing url commit .applied } := Slots.getElem?_set_self hk
    have h2 := h1.updatedBy hk1 rfl hd
    exact h2
  | @updateFailed k p url message commit _ hk hp =>
    exact hi.setPhase hk (by simp) (hi.writing hk hp _ _)
      (fun w ⟨_, _, h, hw⟩ => by rw [hp] at h; cases h; exact ⟨url, _, rfl, hw⟩)
      (fun w ⟨_, _, h, _⟩ => by rw [hp] at h; cases h)

theorem Inv.exec {users : Collection String String Value} {auth : String → AuthProfile} {s : State}
    {es : List Event} (h : Run.exec (step resolve) (State.start users auth) es = some s) :
    Inv resolve users auth s.core :=
  Run.exec_inv (I := fun s => Inv resolve users auth s.core) (fun _ _ _ hi hs => hi.coreStep (step_core hs))
    (Inv.start resolve users auth) h

end PetIT.Profile
