/-
A save's photo and its text. The photo goes to the one object all saves of the user share and the text
into their document by a later write, so the two are of one save as long as the save that uploaded last is
the save that updated last: whenever the user's saves follow one another and each upload is followed by
its update. Two saves that overtake each other between the two leave one's photo with the other's text.
-/
import PetIT.Profile.Agreement

namespace PetIT.Profile

open UsersCollectionKeys Store

/-! ## Definitions -/

/-- The document's text is the save's. -/
def Captured.TextOf (c : Captured) (d : Document) : Prop :=
  d displayNameKey = some (.string c.displayName) ∧ d firstNameKey = some (.string c.firstName) ∧
    d lastNameKey = some (.string c.lastName) ∧ d bioKey = some (.string c.userBio)

/-- The image at the object the photo URL of a user's document refers to. -/
def State.photo (s : State) (resolve : String → Option String) (uid : String) : Option Data := do
  let d ← s.users.lookup uid
  let url ← (d photoURLKey).bind Value.asString
  let path ← resolve url
  (object s.puts path).map (·.data)

/-- The photo of a user and the text of their document come from one and the same save. -/
def State.FromOneSave (s : State) (resolve : String → Option String) (uid : String) : Prop :=
  ∃ p ∈ s.saves, p.captured.uid = uid ∧ (∃ d ∈ s.users.lookup uid, p.captured.TextOf d) ∧
    s.photo resolve uid = some p.captured.imageData

instance (c : Captured) (d : Document) : Decidable (c.TextOf d) := inferInstanceAs (Decidable (_ ∧ _))

instance (s : State) (resolve : String → Option String) (uid : String) : Decidable (s.FromOneSave resolve uid) :=
  inferInstanceAs (Decidable (∃ p ∈ s.saves, _))

/-- The save that has uploaded the user's photo last. -/
def State.lastUpload (s : State) (uid : String) : Option Nat :=
  lastWriter Put.path Put.writer s.puts (profileImage uid)

/-- A save of the user that has uploaded goes on to update the document. -/
def UploadFollowed (uid : String) (s : State) : Event → Prop
  | .downloadURLReply k reply => ∀ p ∈ s.saves[k]?, p.captured.uid = uid → ∀ message, reply ≠ .error message
  | .updateReply k error => ∀ p ∈ s.saves[k]?, p.captured.uid = uid → error = none
  | _ => True

instance (uid : String) (s : State) : (e : Event) → Decidable (UploadFollowed uid s e)
  | .downloadURLReply k (.error message) =>
    decidable_of_iff (∀ p ∈ s.saves[k]?, p.captured.uid ≠ uid)
      ⟨fun h p hp huid => absurd huid (h p hp), fun h p hp huid => h p hp huid message rfl⟩
  | .downloadURLReply _ (.ok _) => .isTrue fun _ _ _ _ h => by cases h
  | .updateReply k error => inferInstanceAs (Decidable (∀ p ∈ s.saves[k]?, p.captured.uid = uid → error = none))
  | .createUser _ | .createUserReply .. | .openEdit _ | .touch .. | .saveButtonPressed .. | .uploadReply ..
  | .commitReply .. => .isTrue trivial

/-! ## The last writes decide -/

variable {resolve : String → Option String} {users₀ : Collection String String Value}
  {auth₀ : String → AuthProfile} {s : State} {uid : String} {k : Nat}

/-- The document of a user some save has updated: the text of the last save that did, and a URL of the
user's photo. -/
theorem Inv.text (hi : Inv resolve users₀ auth₀ s.core) (hk : s.lastUpdate uid = some k) :
    ∃ p d url, s.saves[k]? = some p ∧ p.captured.uid = uid ∧ s.users.lookup uid = some d ∧ p.captured.TextOf d ∧
      d photoURLKey = some (.string url) ∧ resolve url = some (profileImage uid) := by
  obtain ⟨w, hw, rfl⟩ := Option.map_eq_some_iff.1 hk
  obtain ⟨p, hp, url, commit, hph, hu, hv⟩ := hi.updates w (mem_of_last hw)
  have huid : p.captured.uid = uid := hu.symm.trans (key_of_last hw)
  have hok := hi.phase _ _ hp
  unfold PhaseOK at hok
  rw [hph] at hok
  obtain ⟨d, hd⟩ := Option.ne_none_iff_exists'.1 (hi.updated w (mem_of_last hw))
  rw [key_of_last hw] at hd
  -- the document is an older one under the last update
  obtain ⟨b, -, rfl⟩ := Option.map_eq_some_iff.1 ((hi.users uid).symm.trans hd)
  rw [show last Applied.uid s.core.updates uid = some w from hw] at hd
  refine ⟨p, _, url, hp, huid, hd, ⟨?_, ?_, ?_, ?_⟩, ?_, huid ▸ hok.2⟩ <;>
  · apply Fields.merge_some
    rw [hv]
    simp [Captured.updateData]

/-- A save that has updated the document has uploaded, so somebody uploaded last. -/
theorem Inv.image (hi : Inv resolve users₀ auth₀ s.core) (hk : s.lastUpdate uid = some k) :
    ∃ j q, s.lastUpload uid = some j ∧ s.saves[j]? = some q ∧ q.captured.uid = uid ∧
      object s.puts (profileImage uid) = some (q.put j) := by
  obtain ⟨p, d, url, hp, huid, -⟩ := hi.text hk
  have hput : p.put k ∈ s.puts := by
    obtain ⟨w, hw, rfl⟩ := Option.map_eq_some_iff.1 hk
    obtain ⟨p', hp', url, commit, hph, -⟩ := hi.updates w (mem_of_last hw)
    have hok := hi.phase _ _ hp'
    unfold PhaseOK at hok
    rw [hph] at hok
    have he : p' = p := Option.some.inj (hp'.symm.trans hp)
    exact he ▸ hok.1
  obtain ⟨put, hlast⟩ : ∃ put, object s.puts (profileImage uid) = some put :=
    last_of_mem hput (congrArg profileImage huid)
  obtain ⟨q, hq, -, hput⟩ := hi.puts put (mem_of_last hlast)
  refine ⟨put.writer, q, ?_, hq, ?_, by rw [hlast, ← hput]⟩
  · show (object s.puts (profileImage uid)).map _ = _
    rw [hlast]; rfl
  · have hpath := key_of_last hlast
    rw [hput] at hpath
    exact profileImage_inj hpath

/-- The photo is that of the last upload. -/
theorem Inv.photo (hi : Inv resolve users₀ auth₀ s.core) (hk : s.lastUpdate uid = some k) :
    ∃ j q, s.lastUpload uid = some j ∧ s.saves[j]? = some q ∧ q.captured.uid = uid ∧
      s.photo resolve uid = some q.captured.imageData := by
  obtain ⟨p, d, url, -, -, hd, -, hurl, hres⟩ := hi.text hk
  obtain ⟨j, q, hj, hq, huid, ho⟩ := hi.image hk
  refine ⟨j, q, hj, hq, huid, ?_⟩
  unfold State.photo
  simp only [hd, Option.bind_eq_bind, Option.bind_some, hurl, Value.asString_string, hres, ho]
  rfl

/-- When the last upload and the last update are of one save, so are the photo and the text. -/
theorem Inv.fromOneSave (hi : Inv resolve users₀ auth₀ s.core) (hk : s.lastUpdate uid = some k)
    (hlast : s.lastUpload uid = s.lastUpdate uid) : s.FromOneSave resolve uid := by
  obtain ⟨p, d, -, hp, huid, hd, htext, -⟩ := hi.text hk
  obtain ⟨j, q, hj, hq, -, hphoto⟩ := hi.photo hk
  rw [hlast, hk] at hj
  cases hj
  have hqp : q = p := Option.some.inj (hq.symm.trans hp)
  subst hqp
  exact ⟨q, List.mem_of_getElem? hp, huid, ⟨d, hd, htext⟩, hphoto⟩

/-! ## Saves that follow one another -/

/-- The upload of the save is in the storage, and the save has not failed. -/
def Save.UploadDone (p : Save) : Prop :=
  match p.phase with
  | .fetchingURL | .writing .. => True
  | .uploading | .failed => False

/-- The save has nothing more to upload or to update. -/
def Save.Written (p : Save) : Prop :=
  match p.phase with
  | .uploading | .fetchingURL => False
  | .writing _ _ update => update ≠ .inFlight
  | .failed => True

theorem Save.Settled.written {p : Save} (h : p.Settled) : p.Written := by
  unfold Save.Settled at h
  unfold Save.Written
  cases hph : p.phase <;> rw [hph] at h
  · exact h
  · exact h
  · exact h.2
  · trivial

/-- The saves of the user are transactions of an upload and an update. -/
def Core.UploadPaired (c : Core) (uid : String) : Prop :=
  Paired (·.captured.uid) Save.Written Save.UploadDone Save.UpdateDone uid c.saves
    (lastWriter Put.path Put.writer c.puts (profileImage uid)) (lastWriter Applied.uid Applied.save c.updates uid)

/-- What becomes of a save's commit is nothing to its upload and its update. -/
theorem Core.UploadPaired.commit {c : Core} (hp : c.UploadPaired uid) {p : Save} {url : String}
    {h h' update : Half} (hk : c.saves[k]? = some p) (hph : p.phase = .writing url h update) :
    (c.setPhase k p (.writing url h' update)).UploadPaired uid := by
  have hw : p.Written ↔ Save.Written { p with phase := .writing url h' update } := by
    simp [Save.Written, hph]
  have hd : Save.UploadDone { p with phase := .writing url h' update } ↔ p.UploadDone := by
    simp [Save.UploadDone, hph]
  have hd' : Save.UpdateDone { p with phase := .writing url h' update } ↔ p.UpdateDone := by
    simp [Save.UpdateDone, SavePhase.update, hph]
  refine Paired.set hp hk rfl hd hd' hw.1 fun hu hx => ?_
  exact hd.trans ((Paired.even hp k p hk hu (hw.2 hx)).trans hd'.symm)

theorem CoreStep.uploadPaired {c' : Core} {e : Event} (hp : s.core.UploadPaired uid)
    (hg : OneAtATime uid s e) (hf : UploadFollowed uid s e) (h : CoreStep resolve e s.core c') :
    c'.UploadPaired uid := by
  cases h with
  | @pressed i cap he =>
    subst he
    refine Paired.concat hp id (by simp [Save.UpdateDone, SavePhase.update]) fun hu j q hj hq => ?_
    exact (hg (congrArg some hu) q (List.mem_of_getElem? hj) hq).written
  | @uploaded k p hk hph =>
    have hpath : (p.put k).path = profileImage uid ↔ p.captured.uid = uid :=
      ⟨profileImage_inj, congrArg profileImage⟩
    unfold Core.UploadPaired
    simp only [lastWriter_cons, hpath]
    refine Paired.write hp hk rfl ?_ ?_ trivial ?_ fun _ hx => hx.elim
    · simp [Save.Written, hph]
    · simp [Save.UploadDone, hph]
    · simp [Save.UpdateDone, SavePhase.update, hph]
  | @uploadFailed k p hk hph =>
    refine Paired.set hp hk rfl ?_ ?_ (fun _ => trivial) fun _ _ => ?_
    · simp [Save.UploadDone, hph]
    · simp [Save.UpdateDone, SavePhase.update, hph]
    · simp [Save.UploadDone, Save.UpdateDone, SavePhase.update]
  | @linked k p url hk hph _ =>
    refine Paired.set hp hk rfl ?_ ?_ (fun hw => ?_) fun _ hx => absurd rfl hx
    · simp [Save.UploadDone, hph]
    · simp [Save.UpdateDone, SavePhase.update, hph]
    · simp [Save.Written, hph] at hw
  | @linkFailed k p message he hk hph =>
    subst he
    -- not a save of this user
    refine Paired.set_of_ne hp hk rfl fun hu => hf p hk hu message rfl
  | committed _ hk hph => exact hp.commit hk hph
  | commitFailed _ hk hph => exact hp.commit hk hph
  | @updated k p url commit d he hk hph hd =>
    subst he
    unfold Core.UploadPaired
    rw [lastWriter_cons]
    apply Paired.symm
    refine Paired.write (Paired.symm hp) hk rfl ?_ ?_ rfl ?_ fun hu hx => trivial
    · simp [Save.Written, hph]
    · simp [Save.UpdateDone, SavePhase.update, hph]
    · simp [Save.UploadDone, hph]
  | @updateFailed k p url message commit he hk hph =>
    subst he
    refine Paired.set_of_ne hp hk rfl fun hu => ?_
    cases hf p hk hu
  | _ => exact hp

/-! ## Photos and texts -/

/-- Once some save has been applied, the document's text is that of the save applied last and the photo its
URL refers to is that of the save uploaded last. So the two are of one save whenever these are the same,
and in particular whenever no save is in flight in a run whose saves of the user follow one another, with
every upload followed by its update. -/
theorem photo_and_text (resolve : String → Option String) (users : Collection String String Value)
    (auth : String → AuthProfile) (es : List Event) (s : State)
    (h : Run.exec (step resolve) (State.start users auth) es = some s) (uid : String) (k : Nat)
    (hk : s.lastUpdate uid = some k) :
    (∃ p d, s.saves[k]? = some p ∧ p.captured.uid = uid ∧ s.users.lookup uid = some d ∧ p.captured.TextOf d) ∧
    (∃ j q, s.lastUpload uid = some j ∧ s.saves[j]? = some q ∧ q.captured.uid = uid ∧
      s.photo resolve uid = some q.captured.imageData) ∧
    (s.lastUpload uid = s.lastUpdate uid → s.FromOneSave resolve uid) ∧
    (Run.Guarded (step resolve) (fun s e => OneAtATime uid s e ∧ UploadFollowed uid s e)
        (State.start users auth) es → s.Quiet uid → s.FromOneSave resolve uid) := by
  have hi : Inv resolve users auth s.core := Inv.exec h
  refine ⟨?_, ?_, hi.fromOneSave hk, fun hg hq => hi.fromOneSave hk ?_⟩
  · obtain ⟨p, d, -, hp, huid, hd, htext, -⟩ := hi.text hk
    exact ⟨p, d, hp, huid, hd, htext⟩
  · obtain ⟨j, q, hj, hq, huid, hphoto⟩ := hi.photo hk
    exact ⟨j, q, hj, hq, huid, hphoto⟩
  · have hp : s.core.UploadPaired uid := Run.exec_guarded (I := fun s => s.core.UploadPaired uid)
      (fun _ _ _ hp hg hs => (step_core hs).uploadPaired hp hg.1 hg.2) Paired.nil hg h
    exact hp.eq_of_settled fun i p hk hu => (hq p (List.mem_of_getElem? hk) hu).written

/-- Ann saves twice, one after the other. -/
theorem photo_and_text_sample : ∃ s : State, Run.exec (step sampleResolve) (State.start sampleUsers sampleAuth)
    sampleTwice = some s ∧ s.photo sampleResolve "ann" = some [2] ∧ s.FromOneSave sampleResolve "ann" := by
  have hx : (Run.exec (step sampleResolve) (State.start sampleUsers sampleAuth) sampleTwice).map (fun s =>
      (s.lastUpdate "ann", decide (s.Quiet "ann"), s.photo sampleResolve "ann")) = some (some 1, true, some [2]) := by
    decide
  obtain ⟨s, hs, hx⟩ := Option.map_eq_some_iff.1 hx
  simp only [Prod.mk.injEq] at hx
  obtain ⟨hlast, hq, hphoto⟩ := hx
  exact ⟨s, hs, hphoto, (photo_and_text _ _ _ _ s hs "ann" 1 hlast).2.2.2 (by decide) (of_decide_eq_true hq)⟩

/-- Both of Ann's devices save: the second uploads last, the first updates last. -/
def sampleOvertake : List Event :=
  sampleSave 0 sampleUser "annie" [1] ++ sampleSave 1 sampleUser "annika" [2] ++
    [.updateReply 1 none, .updateReply 0 none, .commitReply 0 none, .commitReply 1 none]

theorem photo_not_of_text : ¬ ∀ resolve users auth es s uid,
    Run.exec (step resolve) (State.start users auth) es = some s → (∀ p ∈ s.saves, p.Settled) →
      s.lastUpdate uid ≠ none → s.FromOneSave resolve uid := by
  intro h
  have hx : (Run.exec (step sampleResolve) (State.start sampleUsers sampleAuth) sampleOvertake).map
      (fun s => (decide (∀ p ∈ s.saves, p.Settled), decide (s.lastUpdate "ann" ≠ none),
        decide (s.FromOneSave sampleResolve "ann"))) = some (true, true, false) := by decide
  obtain ⟨s, hs, hx⟩ := Option.map_eq_some_iff.1 hx
  simp only [Prod.mk.injEq, decide_eq_true_eq, decide_eq_false_iff_not] at hx
  exact hx.2.2 (h _ _ _ _ s "ann" hs hx.1 hx.2.1)

end PetIT.Profile
