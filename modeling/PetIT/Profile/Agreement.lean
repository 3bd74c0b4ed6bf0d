/-
A save's two writes. Auth and the `users` collection each keep what was written to them last, so a user's
Auth profile and document agree as long as both were written last by the same save: whenever the user's
saves follow one another and the two writes of each both succeed or both fail. A save that writes only
one of them, or two saves that overtake each other, leave them apart.
-/
import PetIT.Profile.Read
import PetIT.Store.Pairing

namespace PetIT.Profile

open UsersCollectionKeys Store

/-! ## Definitions -/

/-- The Auth profile of a user and their document have the same name and photo; no photo is a nil URL in
the one and an empty string in the other. -/
def State.Agree (s : State) (uid : String) : Prop :=
  ∃ d ∈ s.users.lookup uid, d displayNameKey = some (.string ((s.auth uid).displayName.getD "")) ∧
    d photoURLKey = some (.string ((s.auth uid).photoURL.getD ""))

instance (s : State) (uid : String) : Decidable (s.Agree uid) :=
  inferInstanceAs (Decidable (∃ d ∈ s.users.lookup uid, _))

/-- No save of the user is in flight. -/
def State.Quiet (s : State) (uid : String) : Prop := ∀ p ∈ s.saves, p.captured.uid = uid → p.Settled

instance (s : State) (uid : String) : Decidable (s.Quiet uid) :=
  inferInstanceAs (Decidable (∀ p ∈ s.saves, _))

/-- The save whose `commitChanges` Auth has applied last. -/
def State.lastCommit (s : State) (uid : String) : Option Nat := lastWriter Applied.uid Applied.save s.commits uid

/-- The save whose update of the document the store has applied last. -/
def State.lastUpdate (s : State) (uid : String) : Option Nat := lastWriter Applied.uid Applied.save s.updates uid

/-- What has become of the save's `commitChanges`. -/
def SavePhase.commit : SavePhase → Half
  | .writing _ commit _ => commit
  | _ => .inFlight

/-- What has become of the save's `updateData`. -/
def SavePhase.update : SavePhase → Half
  | .writing _ _ update => update
  | _ => .inFlight

/-- The user saves only with no other save of theirs in flight. -/
def OneAtATime (uid : String) (s : State) : Event → Prop
  | .saveButtonPressed _ currentUser => currentUser = some uid → s.Quiet uid
  | _ => True

/-- The two writes of a save of the user both succeed or both fail. -/
def SameOutcome (uid : String) (s : State) : Event → Prop
  | .commitReply k error => ∀ p ∈ s.saves[k]?, p.captured.uid = uid → p.phase.update.Agrees error
  | .updateReply k error => ∀ p ∈ s.saves[k]?, p.captured.uid = uid → p.phase.commit.Agrees error
  | _ => True

instance (uid : String) (s : State) (e : Event) : Decidable (OneAtATime uid s e) := by
  cases e <;> unfold OneAtATime <;> infer_instance

instance (uid : String) (s : State) (e : Event) : Decidable (SameOutcome uid s e) := by
  cases e <;> unfold SameOutcome <;> infer_instance

/-! ## The last writes decide -/

variable {resolve : String → Option String} {users₀ : Collection String String Value}
  {auth₀ : String → AuthProfile} {s s' : State}

/-- A user who had a document before the run has that document, under the last applied update. -/
theorem Inv.lookup_of_start {c : Core} (hi : Inv resolve users₀ auth₀ c) {uid : String} {d : Document}
    (h : users₀.lookup uid = some d) :
    c.users.lookup uid = some (overlay (last Applied.uid c.updates uid) d) := by
  rw [hi.users uid, Core.base, h]
  rfl

/-- When the last commit and the last update are of one save, the two services hold its name and photo. -/
theorem Inv.agree (hi : Inv resolve users₀ auth₀ s.core) {uid : String}
    (hag : (State.start users₀ auth₀).Agree uid) (hlast : s.lastCommit uid = s.lastUpdate uid) : s.Agree uid := by
  obtain ⟨d, hd, hname, hphoto⟩ := hag
  have hl := hi.lookup_of_start hd
  have ha := hi.auth uid
  rcases lastWriter_eq hlast with ⟨hc, hu⟩ | ⟨a, b, hc, hu, hab⟩
  · refine ⟨d, ?_, ?_⟩
    · rw [show s.users.lookup uid = _ from hl, show last Applied.uid s.core.updates uid = none from hu]
      rfl
    · rw [show s.auth uid = _ from ha, show last Applied.uid s.core.commits uid = none from hc]
      exact ⟨hname, hphoto⟩
  · obtain ⟨p, hp, url, _, hph, -, hv⟩ := hi.commits a (mem_of_last hc)
    obtain ⟨q, hq, url', _, hph', -, hv'⟩ := hi.updates b (mem_of_last hu)
    rw [hab, hq] at hp; cases hp
    rw [hph'] at hph; cases hph
    refine ⟨d.merge b.value, ?_, ?_⟩
    · rw [show s.users.lookup uid = _ from hl, show last Applied.uid s.core.updates uid = some b from hu]
      rfl
    · rw [show s.auth uid = _ from ha, show last Applied.uid s.core.commits uid = some a from hc]
      simp only [Option.map_some, Option.getD_some, hv, hv']
      refine ⟨Fields.merge_some ?_, Fields.merge_some ?_⟩ <;>
      simp [Captured.updateData, Captured.changeRequest]

/-! ## Saves that follow one another -/

/-- The save has changed the Auth profile. -/
def Save.CommitDone (p : Save) : Prop := p.phase.commit = .applied

/-- The save has changed the document. -/
def Save.UpdateDone (p : Save) : Prop := p.phase.update = .applied

/-- The saves of the user are transactions of a commit and an update. -/
def Core.CommitPaired (c : Core) (uid : String) : Prop :=
  Paired (·.captured.uid) Save.Settled Save.CommitDone Save.UpdateDone uid c.saves
    (lastWriter Applied.uid Applied.save c.commits uid) (lastWriter Applied.uid Applied.save c.updates uid)

/-- A save that has not sent its writes, or whose writes are not both over, is in flight. -/
theorem not_settled {p : Save} (h : p.phase = .uploading ∨ p.phase = .fetchingURL ∨
    ∃ url h h', p.phase = .writing url h h' ∧ (h = .inFlight ∨ h' = .inFlight)) : ¬ p.Settled := by
  unfold Save.Settled
  rcases h with h | h | ⟨url, a, b, h, hh⟩ <;> rw [h]
  · exact id
  · exact id
  · rintro ⟨h1, h2⟩
    rcases hh with rfl | rfl
    · exact h1 rfl
    · exact h2 rfl

/-- A save that has not sent its writes moves on. -/
theorem Core.CommitPaired.early {c : Core} {uid : String} (hp : c.CommitPaired uid) {k : Nat} {p : Save}
    {phase : SavePhase} (hk : c.saves[k]? = some p) (hph : p.phase = .uploading ∨ p.phase = .fetchingURL)
    (h : phase.commit = .inFlight) (h' : phase.update = .inFlight) : (c.setPhase k p phase).CommitPaired uid := by
  have hc : p.phase.commit = .inFlight := by rcases hph with hph | hph <;> rw [hph] <;> rfl
  have hu : p.phase.update = .inFlight := by rcases hph with hph | hph <;> rw [hph] <;> rfl
  refine Paired.set hp hk rfl ?_ ?_ (fun h => absurd h (not_settled (by tauto))) fun _ _ => ?_ <;>
  simp [Save.CommitDone, Save.UpdateDone, h, h', hc, hu]

theorem CoreStep.commitPaired {c' : Core} {uid : String} {e : Event} (hp : s.core.CommitPaired uid)
    (hg : OneAtATime uid s e) (hs : SameOutcome uid s e) (h : CoreStep resolve e s.core c') :
    c'.CommitPaired uid := by
  cases h with
  | @pressed i cap he =>
    subst he
    refine Paired.concat hp (by simp [Save.CommitDone, SavePhase.commit])
      (by simp [Save.UpdateDone, SavePhase.update]) fun hu j q hj hq => ?_
    exact hg (congrArg some hu) q (List.mem_of_getElem? hj) hq
  | uploaded hk hph => exact hp.early hk (Or.inl hph) rfl rfl
  | uploadFailed hk hph => exact hp.early hk (Or.inl hph) rfl rfl
  | linked hk hph _ => exact hp.early hk (Or.inr hph) rfl rfl
  | linkFailed _ hk hph => exact hp.early hk (Or.inr hph) rfl rfl
  | @committed k p url update he hk hph =>
    subst he
    unfold Core.CommitPaired
    rw [lastWriter_cons]
    refine Paired.write hp hk rfl (not_settled (by simp [hph])) ?_ rfl ?_ fun hu hx => ?_
    · simp [Save.CommitDone, SavePhase.commit, hph]
    · simp [Save.UpdateDone, SavePhase.update, hph]
    · -- over, so its update has ended, and as its commit has
      have hag := hs p hk hu
      rw [hph] at hag
      exact hag.applied hx.2
  | @commitFailed k p url message update he hk hph =>
    subst he
    refine Paired.set hp hk rfl ?_ ?_ (fun h => absurd h (not_settled (by simp [hph]))) fun hu hx => ?_
    · simp [Save.CommitDone, SavePhase.commit, hph]
    · simp [Save.UpdateDone, SavePhase.update, hph]
    · have hag := hs p hk hu
      rw [hph] at hag
      refine iff_of_false (by simp [Save.CommitDone, SavePhase.commit]) hag.not_applied
  | @updated k p url commit d he hk hph hd =>
    subst he
    unfold Core.CommitPaired
    rw [lastWriter_cons]
    apply Paired.symm
    refine Paired.write (Paired.symm hp) hk rfl (not_settled (by simp [hph])) ?_ rfl ?_ fun hu hx => ?_
    · simp [Save.UpdateDone, SavePhase.update, hph]
    · simp [Save.CommitDone, SavePhase.commit, hph]
    · have hag := hs p hk hu
      rw [hph] at hag
      exact hag.applied hx.1
  | @updateFailed k p url message commit he hk hph =>
    subst he
    refine Paired.set hp hk rfl ?_ ?_ (fun h => absurd h (not_settled (by simp [hph]))) fun hu hx => ?_
    · simp [Save.CommitDone, SavePhase.commit, hph]
    · simp [Save.UpdateDone, SavePhase.update, hph]
    · have hag := hs p hk hu
      rw [hph] at hag
      exact iff_of_false hag.not_applied (by simp [Save.UpdateDone, SavePhase.update])
  | _ => exact hp

/-! ## Agreement -/

/-- Auth holds the profile of the commit applied last and the collection the fields of the update applied
last. So a profile and a document that agreed before the run agree whenever both were written last by the
same save, and in particular whenever no save is in flight in a run whose saves of the user follow one
another, with both writes of each succeeding or both failing. -/
theorem profiles_agree (resolve : String → Option String) (users : Collection String String Value)
    (auth : String → AuthProfile) (es : List Event) (s : State)
    (h : Run.exec (step resolve) (State.start users auth) es = some s) (uid : String)
    (hag : (State.start users auth).Agree uid) :
    s.auth uid = ((last Applied.uid s.commits uid).map Applied.value).getD (auth uid) ∧
    s.users.lookup uid = (users.lookup uid).map (overlay (last Applied.uid s.updates uid)) ∧
    (s.lastCommit uid = s.lastUpdate uid → s.Agree uid) ∧
    (Run.Guarded (step resolve) (fun s e => OneAtATime uid s e ∧ SameOutcome uid s e) (State.start users auth) es →
      s.Quiet uid → s.Agree uid) := by
  have hi : Inv resolve users auth s.core := Inv.exec h
  refine ⟨hi.auth uid, ?_, hi.agree hag, fun hg hq => hi.agree hag ?_⟩
  · obtain ⟨d, hd, -⟩ := hag
    have hd' : users.lookup uid = some d := hd
    rw [hd']
    exact hi.lookup_of_start hd'
  · have hp : s.core.CommitPaired uid := Run.exec_guarded (I := fun s => s.core.CommitPaired uid)
      (fun _ _ _ hp hg hs => (step_core hs).commitPaired hp hg.1 hg.2) Paired.nil hg h
    exact hp.eq_of_settled fun i p hk hu => hq p (List.mem_of_getElem? hk) hu

/-! ## Sample runs -/

/-- Ann's document. -/
def sampleUsers : Collection String String Value := Collection.setData ∅ "ann" sampleUser.createUser

/-- Ann's Auth profile. -/
def sampleAuth (_ : String) : AuthProfile := ⟨some "Ann", none⟩

/-- Ann saves twice, the second time after both writes of the first have ended. -/
def sampleTwice : List Event :=
  sampleSave 0 sampleUser "annie" [1] ++ [.commitReply 0 none, .updateReply 0 none] ++
    sampleSave 1 sampleUser "annika" [2] ++ [.updateReply 1 none, .commitReply 1 none]

theorem profiles_agree_sample : ∃ s : State, Run.exec (step sampleResolve) (State.start sampleUsers sampleAuth)
    sampleTwice = some s ∧ s.lastCommit "ann" = some 1 ∧ s.Agree "ann" := by
  have hx : (Run.exec (step sampleResolve) (State.start sampleUsers sampleAuth) sampleTwice).map
      (fun s => (s.lastCommit "ann", decide (s.Quiet "ann"))) = some (some 1, true) := by decide
  obtain ⟨s, hs, hx⟩ := Option.map_eq_some_iff.1 hx
  obtain ⟨hlast, hq⟩ := Prod.mk.inj hx
  exact ⟨s, hs, hlast, (profiles_agree _ _ _ _ s hs "ann" (by decide)).2.2.2 (by decide) (of_decide_eq_true hq)⟩

/-- Auth applies Ann's new name and the update of her document fails. -/
theorem profiles_not_agree : ¬ ∀ resolve users auth es s uid,
    Run.exec (step resolve) (State.start users auth) es = some s → (State.start users auth).Agree uid →
      (∀ p ∈ s.saves, p.Settled) → s.Agree uid := by
  intro h
  have hx : (Run.exec (step sampleResolve) (State.start sampleUsers sampleAuth)
      (sampleSave 0 sampleUser "annie" [1] ++ [.commitReply 0 none, .updateReply 0 (some "unavailable")])).map
        (fun s => (decide (∀ p ∈ s.saves, p.Settled), decide (s.Agree "ann"))) = some (true, false) := by decide
  obtain ⟨s, hs, hx⟩ := Option.map_eq_some_iff.1 hx
  simp only [Prod.mk.injEq, decide_eq_true_eq, decide_eq_false_iff_not] at hx
  exact hx.2 (h _ _ _ _ s "ann" hs (by decide) hx.1)

end PetIT.Profile
