/-
Whose name and photo the cells of the Job List show. A cell shows whoever the last reply that brought a user to it was
for: the owner of its post exactly if that is who they look like, which holds in particular when every reply brings a
user and the replies for one cell come in the order of its fetches.
-/
import PetIT.Table.Reuse

namespace PetIT.Table.Reuse

/-! ## Owners -/

/-- The user that a fetch finds. -/
def Env.owner (v : Env) (userId : String) : Option UserModel :=
  (v.users.whereField UsersCollectionKeys.userIdKey (.string userId)).head?.map UserModel.ofDict

/-- The look of a cell that shows the user; nobody looks like the nib. -/
def Env.look (v : Env) : Option UserModel → Cell
  | none => {}
  | some u => { usernameLabel := u.displayName, profileImage := u.photoURL.bind v.url }

/-- With no fetch in flight, every row on screen has a cell, which shows the owner of the post it describes, and nobody
if that owner has no document. -/
def ShowsOwners (v : Env) (s : State) : Prop :=
  s.table.trapped = false → s.inFlight = [] → ∀ row r, s.table.rows row = some r → ∃ cell, s.shown row = some cell ∧
    r.cell.jobDescription = r.jobPost.jobDescription ∧ s.cells cell = v.look (v.owner r.jobPost.ownerId)

/-! ## Histories -/

/-- The posts of the last snapshot. -/
def delivered (v : Env) (es : List Event) : List JobPost := Table.delivered v.pf (es.filterMap Event.toTable)

/-- The user that an event brings to the cell. -/
def Env.answer (v : Env) (cell : Nat) : Event → Option UserModel
  | .fetchUserReply f none => if f.cell = cell then v.owner f.userId else none
  | _ => none

/-- The last user brought to the cell. -/
def lastAnswer (v : Env) (es : List Event) (cell : Nat) : Option UserModel := (es.filterMap (v.answer cell)).getLast?

/-- The last user brought to the cell of a row on screen looks like the owner of the post it was drawn from. -/
def AnsweredLast (v : Env) (es : List Event) : Prop :=
  ∀ before row cell since p, es = before ++ .cellForRowAt row cell :: since → (∀ e ∈ since, ¬ Redraws row e) →
    (delivered v before)[row]? = some p → v.look (lastAnswer v es cell) = v.look (v.owner p.ownerId)

variable {v : Env} {s s' : State} {e : Event} {es : List Event} {row cell : Nat} {p : JobPost}

theorem lastAnswer_concat (v : Env) (es : List Event) (e : Event) (cell : Nat) :
    lastAnswer v (es ++ [e]) cell = (v.answer cell e).or (lastAnswer v es cell) := by
  unfold lastAnswer
  rw [List.filterMap_append]
  cases h : v.answer cell e <;> simp [h]

/-! ## The rows and the replies behind them -/

/-- A user always comes with a photo, be it the empty string. -/
theorem owner_photoURL {userId : String} {u : UserModel} (h : v.owner userId = some u) :
    ∃ photo, u.photoURL = some photo := by
  obtain ⟨d, -, rfl⟩ := Option.map_eq_some_iff.1 h
  exact ⟨_, rfl⟩

theorem fetchUser_reply (v : Env) (userId : String) :
    UserModel.fetchUser (v.reply userId none) = (v.owner userId).map .ok := by
  unfold Env.reply Env.owner
  cases v.users.whereField UsersCollectionKeys.userIdKey (.string userId) <;> rfl

/-- A reply writes its own cell only, and only if it brings a user. -/
theorem fetchUserReply_cells (v : Env) (s : State) (f : Fetch) (error : Option String) (cell : Nat) :
    (fetchUserReply v s f error).cells cell =
      match v.answer cell (.fetchUserReply f error) with
      | none => s.cells cell
      | some u => v.look (some u) := by
  cases error with
  | some message =>
    show Function.update s.cells f.cell (s.cells f.cell) cell = s.cells cell
    rw [Function.update_eq_self]
  | none =>
    unfold fetchUserReply Env.answer
    rw [fetchUser_reply]
    cases ho : v.owner f.userId with
    | none => split <;> simp_all
    | some u =>
      obtain ⟨photo, hphoto⟩ := owner_photoURL ho
      by_cases hc : f.cell = cell
      · subst hc
        simp [Cell.fetchedPostCreator, Env.look, ho, hphoto]
      · simp [hc, Function.update_of_ne (Ne.symm hc)]

/-- The row was last drawn with the cell, as the post. -/
def DrawnWith (v : Env) (es : List Event) (row cell : Nat) (p : JobPost) : Prop :=
  ∃ before since, es = before ++ .cellForRowAt row cell :: since ∧ (∀ e ∈ since, ¬ Redraws row e) ∧
    (delivered v before)[row]? = some p

theorem DrawnWith.concat (h : DrawnWith v es row cell p) (he : ¬ Redraws row e) :
    DrawnWith v (es ++ [e]) row cell p := by
  obtain ⟨before, since, hes, hs, hp⟩ := h
  obtain ⟨hes, hs⟩ := Run.last_concat hes hs he
  exact ⟨before, since ++ [e], hes, hs, hp⟩

theorem jobPosts_of_exec (h : Run.exec (step v) {} es = some s) : s.table.jobPosts = delivered v es :=
  (Table.traced_of_exec (exec_toTable h)).jobPosts

/-- What the events say of the cells. -/
structure Traced (v : Env) (es : List Event) (s : State) : Prop where
  cells : ∀ cell, s.cells cell = v.look (lastAnswer v es cell)
  shown : s.table.trapped = false → ∀ row cell r, s.shown row = some cell → s.table.rows row = some r →
    DrawnWith v es row cell r.jobPost

theorem Change.traced_cells (h : Change v s e s') (ht : Traced v es s) (cell : Nat) :
    s'.cells cell = v.look (lastAnswer v (es ++ [e]) cell) := by
  rw [lastAnswer_concat]
  cases h with
  | table | drawn | drawnNone => exact ht.cells cell
  | @replied f error hf =>
    rw [fetchUserReply_cells]
    cases v.answer cell (.fetchUserReply f error) with
    | none => exact ht.cells cell
    | some u => rfl

theorem Traced.change (ht : Traced v es s) (hj : s.table.jobPosts = delivered v es) (hs : s.table.trapped = false)
    (h : Change v s e s') : Traced v (es ++ [e]) s' where
  cells := h.traced_cells ht
  shown := by
    intro hs' row cell r hsh hrow
    by_cases hd : Redraws row e
    · obtain ⟨t, he, hd⟩ := hd
      cases h with
      | table hc hn =>
        -- the row has left the screen
        cases he
        rcases hd with rfl | rfl | rfl
        · cases (hc.rows_gone (.inl rfl)).symm.trans hrow
        · exact absurd rfl (hn row)
        · cases (hc.rows_gone (.inr rfl)).symm.trans hrow
      | @drawn row' cell' p pc hr hfree hp =>
        cases he
        rcases hd with hd | hd | hd <;> cases hd
        obtain rfl : cell' = cell := Option.some.inj ((Function.update_self row _ s.shown).symm.trans hsh)
        obtain rfl : ⟨p, pc⟩ = r := Option.some.inj ((Function.update_self row _ s.table.rows).symm.trans hrow)
        exact ⟨es, [], rfl, by simp, hj ▸ hp⟩
      | drawnNone => cases hs'
      | replied => cases he
    · obtain ⟨hrows, hshown⟩ := h.frame hd
      rw [hrows] at hrow
      rw [hshown (by rw [hrow]; rfl)] at hsh
      exact (ht.shown hs row cell r hsh hrow).concat hd

theorem traced_of_exec (h : Run.exec (step v) {} es = some s) : Traced v es s :=
  Run.exec_trace ⟨fun _ => rfl, nofun⟩
    (fun _ _ _ _ hx ht he => ht.change (jobPosts_of_exec hx) (step_change he).1 (step_change he).2) h

/-- A row that has been drawn and not taken off the screen since is on screen, with its cell. -/
theorem shown_of_drawn (h : Run.exec (step v) {} es = some s) (hd : DrawnWith v es row cell p) :
    ∃ r, s.shown row = some cell ∧ s.table.rows row = some r ∧ r.jobPost = p := by
  obtain ⟨before, since, rfl, hn, hp⟩ := hd
  obtain ⟨s₀, h₀, h⟩ := Run.exec_append.1 h
  obtain ⟨s₁, h₁, h⟩ := Run.exec_cons.1 h
  have hdrawn : ∃ r, s₁.shown row = some cell ∧ s₁.table.rows row = some r ∧ r.jobPost = p := by
    replace hp : s₀.table.jobPosts[row]? = some p := jobPosts_of_exec h₀ ▸ hp
    cases (step_change h₁).2 with
    | drawn pc hr hfree hp' =>
      rw [hp] at hp'
      cases hp'
      exact ⟨_, Function.update_self .., Function.update_self .., rfl⟩
    | drawnNone hr hp' => rw [hp] at hp'; cases hp'
  refine Run.exec_guarded (I := fun s => ∃ r, s.shown row = some cell ∧ s.table.rows row = some r ∧ r.jobPost = p)
    (G := fun _ e => ¬ Redraws row e) (fun s e s' hi hg he => ?_) hdrawn
    (Run.guarded_iff.2 fun pre e post _ _ hes _ _ => hn e (by simp [hes])) h
  obtain ⟨r, hsh, hrow, hp⟩ := hi
  obtain ⟨hrows, hshown⟩ := (step_change he).2.frame hg
  exact ⟨r, by rw [hshown (by rw [hrow]; rfl), hsh], by rw [hrows, hrow], hp⟩

/-! ## Descriptions -/

/-- Every row on screen describes the post it was drawn from. -/
def Described (t : Table.State) : Prop :=
  ∀ row r, t.rows row = some r → r.cell.jobDescription = r.jobPost.jobDescription

theorem described_step {t t' : Table.State} {e : Table.Event} (hi : Described t)
    (h : Table.step .jobList v.pf t e = some t') : Described t' := by
  intro row r hr
  have hc := (Table.step_change h).2
  by_cases hd : Table.Redraws row e
  · rcases hd with rfl | rfl | rfl
    · rw [hc.rows_gone (.inl rfl)] at hr; cases hr
    · obtain ⟨-, h⟩ := Run.guard_bind.1 h
      obtain ⟨-, h⟩ := Run.guard_bind.1 h
      cases h
      replace hr : (JobListViewController.cellForRowAt v.pf t row).rows row = some r := hr
      unfold JobListViewController.cellForRowAt Table.cellForRowAt at hr
      split at hr
      · exact hi row r hr
      · obtain rfl := Option.some.inj ((Function.update_self row _ t.rows).symm.trans hr)
        rfl
    · rw [hc.rows_gone (.inr rfl)] at hr; cases hr
  · rw [hc.rows_frame hd] at hr
    exact hi row r hr

theorem described_init : Described Table.State.init := fun _ _ h => by cases h

theorem step_described (hi : Described s.table) (h : step v s e = some s') : Described s'.table := by
  have ht := step_toTable h
  cases htable : e.toTable with
  | none =>
    rw [htable] at ht
    rw [show s'.table = s.table from ht]
    exact hi
  | some t =>
    rw [htable] at ht
    exact described_step hi ht

theorem described_of_exec (h : Run.exec (step v) {} es = some s) : Described s.table :=
  Run.exec_inv (fun _ _ _ => step_described) described_init h

/-- The cells on screen show the owners of their posts exactly when the last users brought to them look like them. -/
theorem showsOwners_iff (h : Run.exec (step v) {} es = some s) :
    ShowsOwners v s ↔ (s.table.trapped = false → s.inFlight = [] → AnsweredLast v es) := by
  have ht := traced_of_exec h
  constructor
  · intro hs htr hf before row cell since p hes hn hp
    obtain ⟨r, hsh, hrow, rfl⟩ := shown_of_drawn h ⟨before, since, hes, hn, hp⟩
    obtain ⟨cell', hsh', -, hlook⟩ := hs htr hf row r hrow
    rw [hsh] at hsh'
    cases hsh'
    rw [← ht.cells, hlook]
  · intro ha htr hf row r hrow
    obtain ⟨cell, hsh⟩ := Option.isSome_iff_exists.1 ((handed_of_exec h).handed row (by rw [hrow]; rfl))
    obtain ⟨before, since, hes, hn, hp⟩ := ht.shown htr row cell r hsh hrow
    refine ⟨cell, hsh, described_of_exec h row r hrow, ?_⟩
    rw [ht.cells, ha htr hf before row cell since r.jobPost hes hn hp]

/-! ## Replies in order -/

/-- A reply brings a user, and no earlier fetch for its cell is still in flight. -/
def InOrder (v : Env) (s : State) : Event → Prop
  | .fetchUserReply f error =>
    error = none ∧ (v.owner f.userId).isSome ∧ s.inFlight.find? (fun g => g.cell = f.cell) = some f
  | _ => True

/-- The fetches in flight for a cell, in the order they were started. -/
def State.fetches (s : State) (cell : Nat) : List Fetch := s.inFlight.filter fun f => f.cell = cell

/-- A cell on screen waits for the owner of its post, or shows them. -/
structure Waiting (v : Env) (s : State) : Prop extends Handed s where
  last : ∀ row cell r, s.shown row = some cell → s.table.rows row = some r →
    match (s.fetches cell).getLast? with
    | some f => f.userId = r.jobPost.ownerId
    | none => s.cells cell = v.look (v.owner r.jobPost.ownerId)

theorem Waiting.init : Waiting v {} := ⟨Handed.init, nofun⟩

theorem fetches_erase_of_ne {f : Fetch} (h : f.cell ≠ cell) :
    (s.inFlight.erase f).filter (fun g => g.cell = cell) = s.fetches cell := by
  rw [← List.erase_filter, State.fetches, List.erase_of_not_mem]
  simp [h]

/-- The first fetch of a cell leaves the later ones. -/
theorem fetches_erase_self {f : Fetch} (h : s.inFlight.find? (fun g => g.cell = f.cell) = some f) :
    s.fetches f.cell = f :: (s.inFlight.erase f).filter (fun g => g.cell = f.cell) := by
  rw [← List.head?_filter] at h
  obtain ⟨rest, hrest⟩ := List.head?_eq_some_iff.1 h
  rw [← List.erase_filter, State.fetches, hrest, List.erase_cons_head]

/-- A cell that is drawn waits for the owner it was drawn for. -/
theorem Waiting.drawn {pc : PostCell} (hi : Waiting v s) (hfree : ∀ i < s.table.rowCount, s.shown i ≠ some cell)
    {i c : Nat} {r : Row} (hc : Function.update s.shown row (some cell) i = some c)
    (hr : Function.update s.table.rows row (some ⟨p, pc⟩) i = some r) :
    match ((s.inFlight ++ [(⟨cell, p.ownerId⟩ : Fetch)]).filter fun f => f.cell = c).getLast? with
    | some f => f.userId = r.jobPost.ownerId
    | none => s.cells c = v.look (v.owner r.jobPost.ownerId) := by
  rw [List.filter_append]
  rcases hi.drawn_cases hfree hc with ⟨rfl, rfl⟩ | ⟨hne, hcell, hc⟩
  · rw [Function.update_self] at hr
    cases hr
    simp
  · rw [Function.update_of_ne hne] at hr
    simpa [Ne.symm hcell, State.fetches] using hi.last i c r hc hr

/-- A reply in order leaves a cell waiting for its last fetch, or is the reply of that fetch. -/
theorem Waiting.replied {f : Fetch} {error : Option String} {r : Row} (hi : Waiting v s)
    (ho : InOrder v s (.fetchUserReply f error)) (hsh : s.shown row = some cell) (hr : s.table.rows row = some r) :
    match ((s.inFlight.erase f).filter fun g => g.cell = cell).getLast? with
    | some g => g.userId = r.jobPost.ownerId
    | none => (fetchUserReply v s f error).cells cell = v.look (v.owner r.jobPost.ownerId) := by
  obtain ⟨rfl, hsome, hfirst⟩ := ho
  obtain ⟨u, hu⟩ := Option.isSome_iff_exists.1 hsome
  have hlast := hi.last row cell r hsh hr
  rw [fetchUserReply_cells]
  by_cases hc : f.cell = cell
  · subst hc
    have hans : v.answer f.cell (.fetchUserReply f none) = some u := by rw [Env.answer, if_pos rfl, hu]
    rw [hans]
    rw [fetches_erase_self hfirst] at hlast
    -- the fetches behind the first, if there are any, have the same last one
    cases hrest : (s.inFlight.erase f).filter (fun g => g.cell = f.cell) with
    | nil =>
      rw [hrest] at hlast
      replace hlast : f.userId = r.jobPost.ownerId := hlast
      show v.look (some u) = v.look (v.owner r.jobPost.ownerId)
      rw [← hlast, hu]
    | cons g rest =>
      rw [hrest, List.getLast?_cons_cons] at hlast
      cases hg : (g :: rest).getLast? with
      | none => simp at hg
      | some x => rw [hg] at hlast; exact hlast
  · have hans : v.answer cell (.fetchUserReply f none) = none := by rw [Env.answer, if_neg hc]
    rw [hans, fetches_erase_of_ne hc]
    exact hlast

theorem Waiting.change (hi : Waiting v s) (ho : InOrder v s e) (h : Change v s e s') : Waiting v s' where
  toHanded := hi.toHanded.change h
  last row cell r hsh hr := by
    cases h with
    | table hc hn => exact hi.last row cell r (follow_shown.1 hsh).2 (rows_of_change hc hn hr).1
    | drawn pc hlt hfree hp => exact hi.drawn hfree hsh hr
    | drawnNone => exact hi.last row cell r hsh hr
    | replied hf => exact hi.replied ho hsh hr

/-- When every reply brings a user and comes before those of later fetches for its cell, the cells on screen show the
owners of their posts. -/
theorem showsOwners_of_inOrder (h : Run.Guarded (step v) (InOrder v) {} es) :
    Run.Always (step v) (ShowsOwners v) {} es := by
  refine Run.always_of_guarded (I := fun s => Waiting v s ∧ Described s.table) (fun s hi _ hf row r hrow => ?_)
    (fun s e s' hi ho he => ⟨hi.1.change ho (step_change he).2, step_described hi.2 he⟩)
    ⟨Waiting.init, described_init⟩ h
  obtain ⟨cell, hsh⟩ := Option.isSome_iff_exists.1 (hi.1.handed row (by rw [hrow]; rfl))
  have hlast := hi.1.last row cell r hsh hrow
  rw [State.fetches, hf] at hlast
  exact ⟨cell, hsh, hi.2 row r hrow, hlast⟩

/-! ## Cells and owners -/

/-- In every run of the Job List, the cells on screen show the owners of their posts whenever no fetch is in flight
exactly when, whenever none is, the last user brought to each of them looks like its owner. -/
theorem cells_show_owners (v : Env) (es : List Event) :
    Run.Always (step v) (ShowsOwners v) {} es ↔
      ∀ fs s, fs <+: es → Run.exec (step v) {} fs = some s → s.table.trapped = false → s.inFlight = [] →
        AnsweredLast v fs := by
  rw [Run.always_iff]
  constructor
  · intro h fs s hfs hs
    exact (showsOwners_iff hs).1 (h fs s hfs hs)
  · intro h fs s hfs hs
    exact (showsOwners_iff hs).2 (h fs s hfs hs)

/-- A post of the owner. -/
def samplePostOf (owner date : String) : Document :=
  JobPost.postJob ⟨date, owner ++ "'s", owner, none, "", "Walk the dog", "Loves water", "3pm", "10", 0, 0, "PENDING"⟩

/-- The user's document. -/
def sampleUser (userId name : String) : Document :=
  UserModel.createUser ⟨userId, name, "", some (name ++ ".jpg"), none, "", none, none, none, none, none, none⟩

/-- Ann and Bob have a document, Carl has none. -/
def sampleEnv : Env where
  pf := samplePlatform
  url := some
  users := ((∅ : Store.Collection String String Value).setData "ann" (sampleUser "ann" "Ann")).setData "bob"
    (sampleUser "bob" "Bob")

/-- The list has a post of Ann's and below it one of the owner's; both are shown by cell 0, one after the other. -/
def sampleScroll (owner : String) (between : List Event) : List Event := [
  .table (.snapshot 0 (.ok [samplePostOf "ann" "2019-03-28T10:00:00Z", samplePostOf owner "2019-03-27T10:00:00Z"])),
  .table .reload, .cellForRowAt 0 0] ++ between ++ [.table (.didEndDisplaying 0), .cellForRowAt 1 0]

/-- What cell 0 shows in row 1, and for whose post. -/
def sampleRow (s : State) : Bool × List Fetch × Option Nat × Option String × Cell :=
  (s.table.trapped, s.inFlight, s.shown 1, (s.table.rows 1).map (·.jobPost.ownerId), s.cells 0)

theorem not_showsOwners_of_sampleRow {owner : String} {c : Cell} (h : sampleRow s = (false, [], some 0, some owner, c))
    (hc : c ≠ v.look (v.owner owner)) : ¬ ShowsOwners v s := by
  simp only [sampleRow, Prod.mk.injEq, Option.map_eq_some_iff] at h
  obtain ⟨ht, hf, hsh, ⟨r, hrow, rfl⟩, rfl⟩ := h
  intro hs
  obtain ⟨cell, hsh', -, hlook⟩ := hs ht hf 1 r hrow
  rw [hsh] at hsh'
  cases hsh'
  exact hc hlook

/-- In the first run Ann's reply comes after Bob's and his post gets her name; in the second Carl's reply brings no
user and his post keeps hers. -/
theorem not_cells_show_owners :
    ¬ Run.Always (step sampleEnv) (ShowsOwners sampleEnv) {}
        (sampleScroll "bob" [] ++ [.fetchUserReply ⟨0, "bob"⟩ none, .fetchUserReply ⟨0, "ann"⟩ none]) ∧
      ¬ Run.Always (step sampleEnv) (ShowsOwners sampleEnv) {}
        (sampleScroll "carl" [.fetchUserReply ⟨0, "ann"⟩ none] ++ [.fetchUserReply ⟨0, "carl"⟩ none]) := by
  constructor
  · intro h
    have hx : (Run.exec (step sampleEnv) {} (sampleScroll "bob" [] ++
        [.fetchUserReply ⟨0, "bob"⟩ none, .fetchUserReply ⟨0, "ann"⟩ none])).map sampleRow =
          some (false, [], some 0, some "bob", ⟨"Ann", some "Ann.jpg"⟩) := by
      decide
    obtain ⟨s, hs, hrow⟩ := Option.map_eq_some_iff.1 hx
    exact not_showsOwners_of_sampleRow hrow (by decide) (h.final hs)
  · intro h
    have hx : (Run.exec (step sampleEnv) {} (sampleScroll "carl" [.fetchUserReply ⟨0, "ann"⟩ none] ++
        [.fetchUserReply ⟨0, "carl"⟩ none])).map sampleRow =
          some (false, [], some 0, some "carl", ⟨"Ann", some "Ann.jpg"⟩) := by
      decide
    obtain ⟨s, hs, hrow⟩ := Option.map_eq_some_iff.1 hx
    exact not_showsOwners_of_sampleRow hrow (by decide) (h.final hs)

end PetIT.Table.Reuse
