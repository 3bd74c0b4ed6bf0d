/-
The cell objects of the Job List. The table hands out a cell that no row shows, new or used before, and `cellForRowAt`
draws it and starts a fetch of the owner, whose completion keeps the cell and not the post. Each drawing writes the
texts of the cell; the name and the photo of the owner only the completion writes, and nothing takes them away when the
cell is reused.
-/
import PetIT.Table.Rows
import PetIT.Store.Collection

namespace PetIT.Table.Reuse

/-! ## Definitions -/

/-- What the Job List uses: the platform, `URL(string:)`, and the `users` collection. -/
structure Env where
  pf : Platform
  url : String → Option String
  users : Store.Collection String String Value

/-- What no `cellForRowAt` writes of a `PostCell`, as the nib makes it; without a photo there is the placeholder. -/
structure Cell where
  usernameLabel : String := "Username"
  profileImage : Option String := none
  deriving DecidableEq, Repr

/-- A `fetchUser` that `cellForRowAt` has started, and the cell its completion holds. -/
structure Fetch where
  cell : Nat
  userId : String
  deriving DecidableEq, Repr

/-- The table with its cells, of which a row has one while it is on screen, and the fetches that the cells have
started. -/
structure State where
  table : Table.State := .init
  /-- the cell of a row on screen -/
  shown : Nat → Option Nat := fun _ => none
  cells : Nat → Cell := fun _ => {}
  inFlight : List Fetch := []

/-- An event of the table, a row that is drawn in a cell, or the reply to a fetch. -/
inductive Event where
  /-- whatever hands out no cell -/
  | table (e : Table.Event)
  | cellForRowAt (row cell : Nat)
  | fetchUserReply (f : Fetch) (error : Option String)

/-- The completion of `fetchPostCreator`. -/
def Cell.fetchedPostCreator (url : String → Option String) (c : Cell) : Except String UserModel → Cell
  | .error _ => c
  | .ok postCreator =>
    match postCreator.photoURL with
    | none => c
    | some userPhoto => { usernameLabel := postCreator.displayName, profileImage := url userPhoto }

/-- What the query of a fetch replies with. -/
def Env.reply (v : Env) (userId : String) : Option String → Except String (List Document)
  | some message => .error message
  | none => .ok (v.users.whereField UsersCollectionKeys.userIdKey (.string userId))

/-- The reply to a cell's fetch, whatever row the cell is used for by now. -/
def fetchUserReply (v : Env) (s : State) (f : Fetch) (error : Option String) : State :=
  { s with
    inFlight := s.inFlight.erase f
    cells := match UserModel.fetchUser (v.reply f.userId error) with
      -- the completion is not called
      | none => s.cells
      | some result => Function.update s.cells f.cell ((s.cells f.cell).fetchedPostCreator v.url result) }

/-- The table after an event; a row that has left it has no cell. -/
def State.follow (s : State) (t : Table.State) : State :=
  { s with table := t, shown := fun row => if (t.rows row).isSome then s.shown row else none }

/-- `cellForRowAt` draws the cell it is handed and fetches the owner for it. -/
def cellForRowAt (s : State) (t : Table.State) (row cell : Nat) : State :=
  match s.table.jobPosts[row]? with
  | none => { s with table := t }
  | some jobPost =>
    { s with
      table := t
      shown := Function.update s.shown row (some cell)
      inFlight := s.inFlight ++ [⟨cell, jobPost.ownerId⟩] }

/-- The table hands out a new cell, or one that no row shows; replies come in any order. -/
def step (v : Env) (s : State) : Event → Option State
  | .table (.cellForRowAt _) => none
  | .table e => do
    let t ← Table.step .jobList v.pf s.table e
    some (s.follow t)
  | .cellForRowAt row cell => do
    guard (∀ i < s.table.rowCount, s.shown i ≠ some cell)
    let t ← Table.step .jobList v.pf s.table (.cellForRowAt row)
    some (cellForRowAt s t row cell)
  | .fetchUserReply f error => do
    guard (s.table.trapped = false ∧ f ∈ s.inFlight)
    some (fetchUserReply v s f error)

/-! ## What an event does -/

/-- The event as the table sees it. -/
def Event.toTable : Event → Option Table.Event
  | .table e => some e
  | .cellForRowAt row _ => some (.cellForRowAt row)
  | .fetchUserReply .. => none

/-- The event draws the row, or takes it off the screen. -/
def Redraws (row : Nat) (e : Event) : Prop := ∃ t, e.toTable = some t ∧ Table.Redraws row t

variable {v : Env} {s s' : State} {e : Event} {es : List Event} {row cell : Nat}

/-- Without its cells, the list is the table. -/
theorem step_toTable (h : step v s e = some s') : match e.toTable with
    | none => s'.table = s.table
    | some t => Table.step .jobList v.pf s.table t = some s'.table := by
  cases e with
  | fetchUserReply f error =>
    obtain ⟨-, h⟩ := Run.guard_bind.1 h
    cases h
    rfl
  | cellForRowAt row cell =>
    obtain ⟨-, h⟩ := Run.guard_bind.1 h
    obtain ⟨t, ht, h⟩ := Option.bind_eq_some_iff.1 h
    cases h
    show _ = some (cellForRowAt s t row cell).table
    unfold cellForRowAt
    split <;> exact ht
  | table e =>
    cases e with
    | cellForRowAt => cases h
    | _ =>
      obtain ⟨t, ht, h⟩ := Option.bind_eq_some_iff.1 h
      cases h
      exact ht

theorem exec_toTable (h : Run.exec (step v) {} es = some s) :
    Run.exec (Table.step .jobList v.pf) Table.State.init (es.filterMap Event.toTable) = some s.table := by
  refine Run.exec_trace (H := fun es s => Run.exec (Table.step .jobList v.pf) Table.State.init
    (es.filterMap Event.toTable) = some s.table) rfl (fun es s e s' _ ih he => ?_) h
  have ht := step_toTable he
  rw [List.filterMap_append]
  cases htable : e.toTable with
  | none =>
    rw [htable] at ht
    rw [List.filterMap_cons_none htable, List.filterMap_nil, List.append_nil, ih]
    exact congrArg some ht.symm
  | some t =>
    rw [htable] at ht
    rw [List.filterMap_cons_some htable, List.filterMap_nil]
    exact Run.exec_concat.2 ⟨s.table, ih, ht⟩

/-- What an event makes of the table and its cells. -/
inductive Change (v : Env) (s : State) : Event → State → Prop
  | table {e : Table.Event} {t : Table.State} (hc : Table.Change v.pf s.table e t) (hn : ∀ row, e ≠ .cellForRowAt row) :
      Change v s (.table e) (s.follow t)
  | drawn {row cell : Nat} {p : JobPost} (pc : PostCell) (hr : row < s.table.rowCount)
      (hfree : ∀ i < s.table.rowCount, s.shown i ≠ some cell) (hp : s.table.jobPosts[row]? = some p) :
      Change v s (.cellForRowAt row cell) { s with
        table := { s.table with rows := Function.update s.table.rows row (some ⟨p, pc⟩) }
        shown := Function.update s.shown row (some cell)
        inFlight := s.inFlight ++ [⟨cell, p.ownerId⟩] }
  | drawnNone {row cell : Nat} (hr : row < s.table.rowCount) (hp : s.table.jobPosts[row]? = none) :
      Change v s (.cellForRowAt row cell) { s with table := s.table.trap }
  | replied {f : Fetch} {error : Option String} (hf : f ∈ s.inFlight) :
      Change v s (.fetchUserReply f error) (fetchUserReply v s f error)

theorem step_change (h : step v s e = some s') : s.table.trapped = false ∧ Change v s e s' := by
  cases e with
  | fetchUserReply f error =>
    obtain ⟨⟨ht, hf⟩, h⟩ := Run.guard_bind.1 h
    cases h
    exact ⟨ht, .replied hf⟩
  | cellForRowAt row cell =>
    obtain ⟨hg, h⟩ := Run.guard_bind.1 h
    obtain ⟨t, ht, h⟩ := Option.bind_eq_some_iff.1 h
    cases h
    obtain ⟨hs, hc⟩ := Table.step_change ht
    refine ⟨hs, ?_⟩
    unfold cellForRowAt
    cases hc with
    | drawn pc hr hp => rw [hp]; exact .drawn pc hr hg hp
    | drawnNone hr hp => rw [hp]; exact .drawnNone hr hp
  | table e =>
    cases e with
    | cellForRowAt => cases h
    | _ =>
      obtain ⟨t, ht, h⟩ := Option.bind_eq_some_iff.1 h
      cases h
      exact ⟨(Table.step_change ht).1, .table (Table.step_change ht).2 nofun⟩

/-- An event that does not redraw a row leaves the row and its cell as they are. -/
theorem Change.frame (h : Change v s e s') (hn : ¬ Redraws row e) :
    s'.table.rows row = s.table.rows row ∧ ((s.table.rows row).isSome → s'.shown row = s.shown row) := by
  cases h with
  | table hc =>
    have hrow := hc.rows_frame fun hd => hn ⟨_, rfl, hd⟩
    exact ⟨hrow, fun hr => if_pos (by rw [hrow, hr])⟩
  | @drawn row' =>
    have hne : row ≠ row' := by
      rintro rfl; exact hn ⟨_, rfl, .inr (.inl rfl)⟩
    exact ⟨Function.update_of_ne hne .., fun _ => Function.update_of_ne hne ..⟩
  | drawnNone | replied => exact ⟨rfl, fun _ => rfl⟩

/-! ## Cells on screen -/

/-- Without drawing, the table keeps a row as it is or loses it, and counts its rows anew only when it loses all. -/
theorem rows_of_change {t t' : Table.State} {e : Table.Event} (h : Table.Change v.pf t e t')
    (hn : ∀ row, e ≠ .cellForRowAt row) {r : Row} (hr : t'.rows row = some r) :
    t.rows row = some r ∧ t'.rowCount = t.rowCount := by
  cases h with
  | drawn | drawnNone => exact absurd rfl (hn _)
  | reload => cases hr
  | @ended row' =>
    refine ⟨?_, rfl⟩
    replace hr : Function.update t.rows row' none row = some r := hr
    rcases eq_or_ne row row' with rfl | hne
    · rw [Function.update_self] at hr; cases hr
    · rwa [Function.update_of_ne hne] at hr
  | snapshot | failed | opened | openedNone | located | fetched => exact ⟨hr, rfl⟩

/-- Every row on screen has a cell of its own. -/
structure Handed (s : State) : Prop where
  handed : ∀ row, (s.table.rows row).isSome → (s.shown row).isSome
  lt : ∀ row cell, s.shown row = some cell → row < s.table.rowCount
  inj : ∀ i j cell, s.shown i = some cell → s.shown j = some cell → i = j

theorem Handed.init : Handed {} where
  handed _ h := by cases h
  lt _ _ h := by cases h
  inj _ _ _ h := by cases h

theorem follow_shown {t : Table.State} : (s.follow t).shown row = some cell ↔
    (t.rows row).isSome ∧ s.shown row = some cell := by
  show (if (t.rows row).isSome then s.shown row else none) = some cell ↔ _
  split <;> simp_all

theorem Handed.follow {t : Table.State} {e : Table.Event} (hi : Handed s) (h : Table.Change v.pf s.table e t)
    (hn : ∀ row, e ≠ .cellForRowAt row) : Handed (s.follow t) where
  handed row hr := by
    obtain ⟨r, hr'⟩ := Option.isSome_iff_exists.1 hr
    obtain ⟨cell, hc⟩ := Option.isSome_iff_exists.1 (hi.handed row (by rw [(rows_of_change h hn hr').1]; rfl))
    exact Option.isSome_iff_exists.2 ⟨cell, follow_shown.2 ⟨hr, hc⟩⟩
  lt row cell hsh := by
    obtain ⟨hr, hsh⟩ := follow_shown.1 hsh
    obtain ⟨r, hr⟩ := Option.isSome_iff_exists.1 hr
    rw [show (s.follow t).table.rowCount = s.table.rowCount from (rows_of_change h hn hr).2]
    exact hi.lt row cell hsh
  inj i j cell hi' hj := hi.inj i j cell (follow_shown.1 hi').2 (follow_shown.1 hj).2

/-- The row that is drawn gets a cell no other row has. -/
theorem Handed.drawn_cases (hi : Handed s) (hfree : ∀ i < s.table.rowCount, s.shown i ≠ some cell) {i c : Nat}
    (hc : Function.update s.shown row (some cell) i = some c) :
    (i = row ∧ c = cell) ∨ (i ≠ row ∧ c ≠ cell ∧ s.shown i = some c) := by
  rcases eq_or_ne i row with rfl | hne
  · rw [Function.update_self] at hc
    cases hc
    exact .inl ⟨rfl, rfl⟩
  · rw [Function.update_of_ne hne] at hc
    refine .inr ⟨hne, ?_, hc⟩
    rintro rfl
    exact hfree i (hi.lt i c hc) hc

theorem Handed.change (hi : Handed s) (h : Change v s e s') : Handed s' := by
  cases h with
  | table hc hn => exact hi.follow hc hn
  | drawnNone | replied => exact ⟨hi.handed, hi.lt, hi.inj⟩
  | @drawn row cell p pc hr hfree hp =>
    constructor
    · intro i hsome
      show (Function.update s.shown row (some cell) i).isSome
      rcases eq_or_ne i row with rfl | hne
      · rw [Function.update_self]; rfl
      · replace hsome : (Function.update s.table.rows row (some ⟨p, pc⟩) i).isSome := hsome
        rw [Function.update_of_ne hne] at hsome ⊢
        exact hi.handed i hsome
    · intro i c hc
      rcases hi.drawn_cases hfree hc with ⟨rfl, -⟩ | ⟨-, -, hc⟩
      · exact hr
      · exact hi.lt i c hc
    · intro i j c hic hjc
      rcases hi.drawn_cases hfree hic with ⟨rfl, rfl⟩ | ⟨-, hne, hic⟩
      · rcases hi.drawn_cases hfree hjc with ⟨rfl, -⟩ | ⟨-, hne, -⟩
        · rfl
        · exact absurd rfl hne
      · rcases hi.drawn_cases hfree hjc with ⟨-, rfl⟩ | ⟨-, -, hjc⟩
        · exact absurd rfl hne
        · exact hi.inj i j c hic hjc

theorem handed_of_exec (h : Run.exec (step v) {} es = some s) : Handed s :=
  Run.exec_inv (fun _ _ _ hi he => hi.change (step_change he).2) Handed.init h

end PetIT.Table.Reuse
