/-
Runs of a machine that consumes events one at a time and refuses an event it is not ready for,
over any state and event types: what one step preserves a whole run preserves, a property that
holds in every state of a run (`Always`), a condition met before every event of a run
(`Guarded`), and when the two are the same.
-/
import Mathlib.Tactic

namespace Run

variable {σ ε : Type} (step : σ → ε → Option σ)

/-- The state after the events, if none of them is refused. -/
def exec : σ → List ε → Option σ
  | s, [] => some s
  | s, e :: es => (step s e).bind fun s' => exec s' es

/-- `P` holds in every state the events reach, the first one included. -/
def Always (P : σ → Prop) : σ → List ε → Prop
  | s, [] => P s
  | s, e :: es => P s ∧ ∀ s' ∈ step s e, Always P s' es

/-- Every event that is not refused meets `G` in the state before it. -/
def Guarded (G : σ → ε → Prop) : σ → List ε → Prop
  | _, [] => True
  | s, e :: es => ∀ s' ∈ step s e, G s e ∧ Guarded G s' es

variable {step}

/-! ## Decidability -/

instance Always.decidable {P : σ → Prop} [DecidablePred P] :
    ∀ (s : σ) (es : List ε), Decidable (Always step P s es)
  | s, [] => inferInstanceAs (Decidable (P s))
  | s, e :: es =>
    have : DecidablePred fun s' => Always step P s' es := fun s' => Always.decidable s' es
    inferInstanceAs (Decidable (P s ∧ ∀ s' ∈ step s e, Always step P s' es))

instance Guarded.decidable {G : σ → ε → Prop} [∀ s e, Decidable (G s e)] :
    ∀ (s : σ) (es : List ε), Decidable (Guarded step G s es)
  | _, [] => .isTrue trivial
  | s, e :: es =>
    have : DecidablePred fun s' => G s e ∧ Guarded step G s' es := fun s' =>
      have := Guarded.decidable (G := G) s' es
      inferInstanceAs (Decidable (G s e ∧ Guarded step G s' es))
    inferInstanceAs (Decidable (∀ s' ∈ step s e, G s e ∧ Guarded step G s' es))

/-! ## Steps that refuse -/

/-- A step behind a guard. -/
theorem guard_bind {p : Prop} [Decidable p] {x : Option σ} {s : σ} :
    (guard p >>= fun _ => x) = some s ↔ p ∧ x = some s := by
  by_cases h : p <;> simp [guard, h]

/-! ## Composition -/

@[simp] theorem exec_nil (s : σ) : exec step s [] = some s := rfl

theorem exec_cons {s s' : σ} {e : ε} {es : List ε} :
    exec step s (e :: es) = some s' ↔ ∃ t, step s e = some t ∧ exec step t es = some s' := by
  simp [exec, Option.bind_eq_some_iff]

theorem exec_append {s s' : σ} {es fs : List ε} :
    exec step s (es ++ fs) = some s' ↔ ∃ t, exec step s es = some t ∧ exec step t fs = some s' := by
  induction es generalizing s with
  | nil => simp
  | cons e es ih =>
    rw [List.cons_append, exec_cons]
    constructor
    · rintro ⟨t, ht, h⟩
      obtain ⟨u, hu, h⟩ := ih.1 h
      exact ⟨u, exec_cons.2 ⟨t, ht, hu⟩, h⟩
    · rintro ⟨u, hu, h⟩
      obtain ⟨t, ht, hu⟩ := exec_cons.1 hu
      exact ⟨t, ht, ih.2 ⟨u, hu, h⟩⟩

theorem exec_concat {s s' : σ} {es : List ε} {e : ε} :
    exec step s (es ++ [e]) = some s' ↔ ∃ t, exec step s es = some t ∧ step t e = some s' := by
  rw [exec_append]
  simp [exec_cons]

/-! ## What a step preserves, a run preserves -/

theorem exec_inv {I : σ → Prop} (hstep : ∀ s e s', I s → step s e = some s' → I s') :
    ∀ {es : List ε} {s s' : σ}, I s → exec step s es = some s' → I s'
  | [], _, _, hi, h => by cases h; exact hi
  | e :: _, s, _, hi, h => by
    obtain ⟨t, ht, h⟩ := exec_cons.1 h
    exact exec_inv hstep (hstep s e t hi ht) h

/-- A preorder every step goes up in, the whole run goes up in. -/
theorem exec_rel {I : σ → Prop} {R : σ → σ → Prop} (hrefl : ∀ s, R s s)
    (htrans : ∀ a b c, R a b → R b c → R a c) (hinv : ∀ s e s', I s → step s e = some s' → I s')
    (hstep : ∀ s e s', I s → step s e = some s' → R s s') :
    ∀ {es : List ε} {s s' : σ}, I s → exec step s es = some s' → R s s'
  | [], s, _, _, h => by cases h; exact hrefl s
  | e :: _, s, s', hi, h => by
    obtain ⟨t, ht, h⟩ := exec_cons.1 h
    exact htrans s t s' (hstep s e t hi ht) (exec_rel hrefl htrans hinv hstep (hinv s e t hi ht) h)

/-- A relation between the state and the events behind it. -/
theorem exec_trace {H : List ε → σ → Prop} {s₀ : σ} (h0 : H [] s₀)
    (hstep : ∀ es s e s', exec step s₀ es = some s → H es s → step s e = some s' → H (es ++ [e]) s') :
    ∀ {es : List ε} {s : σ}, exec step s₀ es = some s → H es s := by
  intro es
  induction es using List.reverseRecOn with
  | nil => intro s h; cases h; exact h0
  | append_singleton es e ih =>
    intro s h
    obtain ⟨t, ht, h⟩ := exec_concat.1 h
    exact hstep es t e s ht (ih ht) h

/-! ## Every state of a run -/

theorem always_iff {P : σ → Prop} {s : σ} {es : List ε} :
    Always step P s es ↔ ∀ fs s', fs <+: es → exec step s fs = some s' → P s' := by
  induction es generalizing s with
  | nil =>
    constructor
    · intro h fs s' hfs hs
      rw [List.prefix_nil] at hfs
      subst hfs; cases hs; exact h
    · intro h; exact h [] s List.nil_prefix rfl
  | cons e es ih =>
    constructor
    · rintro ⟨hp, h⟩ fs s' hfs hs
      -- a prefix is empty, or starts with the same event
      rcases fs with _ | ⟨f, fs⟩
      · cases hs; exact hp
      · obtain ⟨rfl, hpre⟩ := List.cons_prefix_cons.1 hfs
        obtain ⟨t, ht, hs⟩ := exec_cons.1 hs
        exact ih.1 (h t ht) fs s' hpre hs
    · intro h
      refine ⟨h [] s List.nil_prefix rfl, fun t ht => ih.2 fun fs s' hfs hs => ?_⟩
      exact h (e :: fs) s' (List.cons_prefix_cons.2 ⟨rfl, hfs⟩) (exec_cons.2 ⟨t, ht, hs⟩)

theorem Always.final {P : σ → Prop} {s s' : σ} {es : List ε} (h : Always step P s es)
    (hs : exec step s es = some s') : P s' :=
  always_iff.1 h es s' (List.prefix_refl _) hs

theorem Always.head {P : σ → Prop} {s : σ} {es : List ε} (h : Always step P s es) : P s :=
  always_iff.1 h [] s List.nil_prefix rfl

/-! ## Guarded runs -/

/-- An invariant that every event kept under its guard keeps holds all along a guarded run. -/
theorem always_of_guarded {I P : σ → Prop} {G : σ → ε → Prop} (hp : ∀ s, I s → P s)
    (hstep : ∀ s e s', I s → G s e → step s e = some s' → I s') :
    ∀ {es : List ε} {s : σ}, I s → Guarded step G s es → Always step P s es
  | [], s, hi, _ => hp s hi
  | e :: _, s, hi, hg => ⟨hp s hi, fun s' hs =>
      always_of_guarded hp hstep (hstep s e s' hi (hg s' hs).1 hs) (hg s' hs).2⟩

/-- When an event keeps `P` exactly if it meets its guard, the runs that keep `P` throughout are
exactly the guarded ones. -/
theorem always_iff_guarded {I P : σ → Prop} {G : σ → ε → Prop}
    (hinv : ∀ s e s', I s → P s → G s e → step s e = some s' → I s')
    (hiff : ∀ s e s', I s → P s → step s e = some s' → (P s' ↔ G s e)) :
    ∀ {es : List ε} {s : σ}, I s → P s → (Always step P s es ↔ Guarded step G s es)
  | [], _, _, hp => ⟨fun _ => trivial, fun _ => hp⟩
  | e :: es, s, hi, hp => by
    constructor
    · rintro ⟨-, h⟩ s' hs
      have hg := (hiff s e s' hi hp hs).1 (h s' hs).head
      exact ⟨hg, (always_iff_guarded hinv hiff (hinv s e s' hi hp hg hs)
        ((hiff s e s' hi hp hs).2 hg)).1 (h s' hs)⟩
    · intro h
      refine ⟨hp, fun s' hs => ?_⟩
      obtain ⟨hg, h⟩ := h s' hs
      exact (always_iff_guarded hinv hiff (hinv s e s' hi hp hg hs) ((hiff s e s' hi hp hs).2 hg)).2 h

/-- An event in the middle of a guarded run meets its guard. -/
theorem Guarded.at {G : σ → ε → Prop} {pre post : List ε} {e : ε} :
    ∀ {s s₀ s₁ : σ}, Guarded step G s (pre ++ e :: post) → exec step s pre = some s₀ →
      step s₀ e = some s₁ → G s₀ e := by
  induction pre with
  | nil =>
    intro s s₀ s₁ h hs he
    cases hs; exact (h s₁ he).1
  | cons f pre ih =>
    intro s s₀ s₁ h hs he
    obtain ⟨t, ht, hs⟩ := exec_cons.1 hs
    exact ih (h t ht).2 hs he

/-- A run is guarded when each event meets its guard in the state the events before it lead to. -/
theorem guarded_iff {G : σ → ε → Prop} {es : List ε} {s : σ} : Guarded step G s es ↔
    ∀ pre e post s₀ s₁, es = pre ++ e :: post → exec step s pre = some s₀ → step s₀ e = some s₁ → G s₀ e := by
  constructor
  · rintro h pre e post s₀ s₁ rfl hs he
    exact h.at hs he
  · induction es generalizing s with
    | nil => exact fun _ => trivial
    | cons e es ih =>
      intro h t ht
      refine ⟨h [] e es s t rfl rfl ht, ih fun pre f post s₀ s₁ he hs hf => ?_⟩
      subst he
      exact h (e :: pre) f post s₀ s₁ rfl (exec_cons.2 ⟨t, ht, hs⟩) hf

/-- The state behind a guarded run satisfies the invariant its guard keeps. -/
theorem exec_guarded {I : σ → Prop} {G : σ → ε → Prop}
    (hstep : ∀ s e s', I s → G s e → step s e = some s' → I s') {es : List ε} {s s' : σ}
    (hi : I s) (hg : Guarded step G s es) (h : exec step s es = some s') : I s' :=
  (always_of_guarded (P := I) (fun _ h => h) hstep hi hg).final h

/-! ## The last event of a kind -/

/-- The last event of a kind stands at one place only. -/
theorem last_unique {Q : ε → Prop} {l l' m m' : List ε} {d d' : ε} (h : l ++ d :: m = l' ++ d' :: m')
    (hd : Q d) (hd' : Q d') (hm : ∀ e ∈ m, ¬ Q e) (hm' : ∀ e ∈ m', ¬ Q e) : l = l' := by
  rcases List.append_eq_append_iff.1 h with ⟨as, rfl, has⟩ | ⟨as, rfl, has⟩
  · rcases as with _ | ⟨a, as⟩
    · simp
    · obtain ⟨-, rfl⟩ := List.cons_eq_cons.1 has
      exact absurd hd' (hm d' (by simp))
  · rcases as with _ | ⟨a, as⟩
    · simp
    · obtain ⟨-, rfl⟩ := List.cons_eq_cons.1 has
      exact absurd hd (hm' d (by simp))

/-- No event of the kind, and none follows. -/
theorem none_concat {Q : ε → Prop} {es : List ε} {e : ε} (h : ∀ f ∈ es, ¬ Q f) (he : ¬ Q e) :
    ∀ f ∈ es ++ [e], ¬ Q f := by
  intro f hf
  rcases List.mem_append.1 hf with hf | hf
  · exact h f hf
  · rw [List.mem_singleton] at hf
    subst hf; exact he

/-- The last event of a kind stays the last when one of another kind follows. -/
theorem last_concat {Q : ε → Prop} {es before since : List ε} {d e : ε} (h : es = before ++ d :: since)
    (hs : ∀ f ∈ since, ¬ Q f) (he : ¬ Q e) :
    es ++ [e] = before ++ d :: (since ++ [e]) ∧ ∀ f ∈ since ++ [e], ¬ Q f :=
  ⟨by rw [h, List.append_assoc, List.cons_append], none_concat hs he⟩

end Run
