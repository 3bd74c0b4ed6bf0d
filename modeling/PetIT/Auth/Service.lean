/-
`AuthService` over Firebase Auth and the `users` collection: the accounts, the signed-in user, and the
sign-ups and sign-ins in flight. A sign-up is three requests: the account, then its display name and its
document side by side. What a reply makes the service tell its delegates is what `handle` returns with
the new state.
-/
import PetIT.Model.Document
import PetIT.Model.Request
import PetIT.Run.Basic
import PetIT.Run.Slots

namespace PetIT.Auth

/-! ## Requests and callbacks -/

/-- The delegate methods of `AuthService`. -/
inductive Callback where
  | didRecieveErrorCreatingAccount (error : String)
  | didCreateNewAccount (user : UserModel)
  | didRecieveErrorSigningToExistingAccount (error : String)
  | didSignInToExistingAccount (uid : String)
  | didSignOutWithError (error : String)
  | didSignOut
  deriving DecidableEq, Repr

/-- A user of Firebase Auth. -/
structure Account where
  uid : String
  email : String
  password : String
  displayName : Option String
  deriving DecidableEq, Repr

/-- How far a sign-up has come: `writing` once it has its account and has sent both of its writes. -/
inductive AttemptPhase where
  | creating
  | rejected
  | writing (user : UserModel) (commit document : Half)
  deriving DecidableEq, Repr

/-- A press of the Create Account button: what was entered, and how far its requests have come. -/
structure Attempt where
  username : String
  email : String
  password : String
  phase : AttemptPhase
  /-- What the delegate has been told of the attempt. -/
  callbacks : List Callback
  deriving DecidableEq, Repr

/-- Every request of the attempt is over. -/
def Attempt.Settled (a : Attempt) : Prop :=
  match a.phase with
  | .creating => False
  | .rejected => True
  | .writing _ commit document => commit ≠ .inFlight ∧ document ≠ .inFlight

instance (a : Attempt) : Decidable a.Settled := by
  unfold Attempt.Settled
  split <;> infer_instance

/-- A sign-in that Auth has not answered yet. -/
structure SignIn where
  email : String
  password : String
  deriving DecidableEq, Repr

/-- Firebase Auth with its accounts and the signed-in user, the requests of `AuthService` and the `users` collection. -/
structure State where
  accounts : List Account
  currentUser : Option String
  attempts : List Attempt
  /-- The sign-ins in flight. -/
  signIns : List SignIn
  users : Store.Collection String String Value

/-- Nobody has signed up. -/
def State.init : State := ⟨[], none, [], [], ∅⟩

/-- A call of `AuthService`, or the reply to one of its requests. -/
inductive Event where
  | createNewAccount (username email password : String)
  | createUserReply (k : Nat) (result : Except String String) (joinedDate : String)
  | commitReply (k : Nat) (error : Option String)
  | documentReply (k : Nat) (error : Option String)
  | signInExistingAccount (email password : String)
  | signInReply (i : Nat) (result : Except String String)
  | signOutAccount (error : Option String)

/-! ## Sign-up -/

/-- The user `createNewAccount` writes the document of. -/
def newUser (uid username email joinedDate : String) : UserModel where
  userId := uid
  displayName := username
  email := email
  photoURL := none
  petPhotoURL := none
  joinedDate := joinedDate
  firstName := none
  lastName := none
  bio := none
  petBio := none
  rating := none
  qualifications := none

/-- The attempt moves to a phase, on which its delegate is told something or nothing. -/
def State.report (s : State) (k : Nat) (a : Attempt) (phase : AttemptPhase) (callback : Option Callback) :
    State × Option Callback :=
  ({ s with attempts := s.attempts.set k { a with phase := phase, callbacks := a.callbacks ++ callback.toList } },
    callback)

/-- The reply to `createUser`: Auth gives an account to an email that has none, and signs it in. -/
def createUserReply (s : State) (k : Nat) (result : Except String String) (joinedDate : String) :
    Option (State × Option Callback) := do
  let a ← s.attempts[k]?
  guard (a.phase = .creating)
  match result with
  | .error error => some (s.report k a .rejected (some (.didRecieveErrorCreatingAccount error)))
  | .ok uid =>
    guard (∀ x ∈ s.accounts, x.uid ≠ uid ∧ x.email ≠ a.email)
    let s : State := { s with accounts := s.accounts ++ [⟨uid, a.email, a.password, none⟩], currentUser := some uid }
    some (s.report k a (.writing (newUser uid a.username a.email joinedDate) .inFlight .inFlight) none)

/-- The change request of a sign-up, applied. -/
def State.commitDisplayName (s : State) (user : UserModel) : State :=
  { s with accounts := s.accounts.map fun x : Account =>
      if x.uid = user.userId then { x with displayName := some user.displayName } else x }

/-- The reply to `commitChanges`. Its closure's `return` leaves only the closure. -/
def commitReply (s : State) (k : Nat) (error : Option String) : Option (State × Option Callback) := do
  let a ← s.attempts[k]?
  match a.phase with
  | .writing user .inFlight document =>
    match error with
    -- whatever the write of the document comes to, it is reported too
    | some error => some (s.report k a (.writing user .failed document) (some (.didRecieveErrorCreatingAccount error)))
    | none =>
      some ((s.commitDisplayName user).report k a (.writing user .applied document) none)
  | _ => none

/-- The reply to `DBService.createUser`. -/
def documentReply (s : State) (k : Nat) (error : Option String) : Option (State × Option Callback) := do
  let a ← s.attempts[k]?
  match a.phase with
  | .writing user commit .inFlight =>
    match error with
    | some error => some (s.report k a (.writing user commit .failed) (some (.didRecieveErrorCreatingAccount error)))
    | none =>
      let s : State := { s with users := s.users.setData user.userId user.createUser }
      some (s.report k a (.writing user commit .applied) (some (.didCreateNewAccount user)))
  | _ => none

/-! ## Sign-in and sign-out -/

/-- The reply to `signIn`, which takes an account with that email and password. -/
def signInReply (s : State) (i : Nat) (result : Except String String) : Option (State × Option Callback) := do
  let r ← s.signIns[i]?
  let s : State := { s with signIns := s.signIns.eraseIdx i }
  match result with
  | .error error => some (s, some (.didRecieveErrorSigningToExistingAccount error))
  | .ok uid =>
    guard (∃ x ∈ s.accounts, x.uid = uid ∧ x.email = r.email ∧ x.password = r.password)
    some ({ s with currentUser := some uid }, some (.didSignInToExistingAccount uid))

/-- `signOutAccount`: Auth signs out, or throws and leaves the user signed in. -/
def signOutAccount (s : State) : Option String → State × Option Callback
  | none => ({ s with currentUser := none }, some .didSignOut)
  | some error => (s, some (.didSignOutWithError error))

/-! ## The service -/

/-- What the service makes of an event, and what it tells its delegate. -/
def handle (s : State) : Event → Option (State × Option Callback)
  | .createNewAccount username email password =>
    some ({ s with attempts := s.attempts ++ [⟨username, email, password, .creating, []⟩] }, none)
  | .createUserReply k result joinedDate => createUserReply s k result joinedDate
  | .commitReply k error => commitReply s k error
  | .documentReply k error => documentReply s k error
  | .signInExistingAccount email password =>
    some ({ s with signIns := s.signIns ++ [⟨email, password⟩] }, none)
  | .signInReply i result => signInReply s i result
  | .signOutAccount error => some (signOutAccount s error)

/-- The service by itself, whoever its delegate is. -/
def step (s : State) (e : Event) : Option State := (handle s e).map (·.1)

/-! ## Reading the handlers -/

variable {s s' : State} {c : Option Callback}

theorem step_some {e : Event} : step s e = some s' ↔ ∃ c, handle s e = some (s', c) := by
  unfold step
  rw [Option.map_eq_some_iff]
  constructor
  · rintro ⟨⟨t, c⟩, h, rfl⟩; exact ⟨c, h⟩
  · rintro ⟨c, h⟩; exact ⟨_, h, rfl⟩

theorem createUserReply_some {k : Nat} {result : Except String String} {date : String}
    (h : createUserReply s k result date = some (s', c)) :
    ∃ a, s.attempts[k]? = some a ∧ a.phase = .creating ∧
      ((∃ error, result = .error error ∧
          (s', c) = s.report k a .rejected (some (.didRecieveErrorCreatingAccount error))) ∨
       (∃ uid, result = .ok uid ∧ (∀ x ∈ s.accounts, x.uid ≠ uid ∧ x.email ≠ a.email) ∧
          (s', c) = State.report
            { s with accounts := s.accounts ++ [⟨uid, a.email, a.password, none⟩], currentUser := some uid }
            k a (.writing (newUser uid a.username a.email date) .inFlight .inFlight) none)) := by
  unfold createUserReply at h
  obtain ⟨a, ha, h⟩ := Option.bind_eq_some_iff.1 h
  obtain ⟨hg, h⟩ := Run.guard_bind.1 h
  refine ⟨a, ha, hg, ?_⟩
  rcases result with error | uid
  · exact Or.inl ⟨error, rfl, (Option.some.inj h).symm⟩
  · obtain ⟨hg, h⟩ := Run.guard_bind.1 h
    exact Or.inr ⟨uid, rfl, hg, (Option.some.inj h).symm⟩

theorem commitReply_some {k : Nat} {error : Option String} (h : commitReply s k error = some (s', c)) :
    ∃ a user document, s.attempts[k]? = some a ∧ a.phase = .writing user .inFlight document ∧
      ((∃ message, error = some message ∧ (s', c) = s.report k a (.writing user .failed document)
          (some (.didRecieveErrorCreatingAccount message))) ∨
       (error = none ∧ (s', c) = (s.commitDisplayName user).report k a (.writing user .applied document) none)) := by
  unfold commitReply at h
  obtain ⟨a, ha, h⟩ := Option.bind_eq_some_iff.1 h
  split at h
  · rename_i user document hp
    refine ⟨a, user, document, ha, hp, ?_⟩
    rcases error with _ | message
    · exact Or.inr ⟨rfl, (Option.some.inj h).symm⟩
    · exact Or.inl ⟨message, rfl, (Option.some.inj h).symm⟩
  · cases h

theorem documentReply_some {k : Nat} {error : Option String} (h : documentReply s k error = some (s', c)) :
    ∃ a user commit, s.attempts[k]? = some a ∧ a.phase = .writing user commit .inFlight ∧
      ((∃ message, error = some message ∧ (s', c) = s.report k a (.writing user commit .failed)
          (some (.didRecieveErrorCreatingAccount message))) ∨
       (error = none ∧ (s', c) = State.report { s with users := s.users.setData user.userId user.createUser } k a
          (.writing user commit .applied) (some (.didCreateNewAccount user)))) := by
  unfold documentReply at h
  obtain ⟨a, ha, h⟩ := Option.bind_eq_some_iff.1 h
  split at h
  · rename_i user commit hp
    refine ⟨a, user, commit, ha, hp, ?_⟩
    rcases error with _ | message
    · exact Or.inr ⟨rfl, (Option.some.inj h).symm⟩
    · exact Or.inl ⟨message, rfl, (Option.some.inj h).symm⟩
  · cases h

theorem signInReply_some {i : Nat} {result : Except String String} (h : signInReply s i result = some (s', c)) :
    (∃ error, result = .error error ∧ s' = { s with signIns := s.signIns.eraseIdx i } ∧
        c = some (.didRecieveErrorSigningToExistingAccount error)) ∨
      (∃ uid, result = .ok uid ∧ s' = { s with signIns := s.signIns.eraseIdx i, currentUser := some uid } ∧
        c = some (.didSignInToExistingAccount uid)) := by
  unfold signInReply at h
  obtain ⟨r, hr, h⟩ := Option.bind_eq_some_iff.1 h
  dsimp only at h
  rcases result with error | uid
  · cases h; exact Or.inl ⟨error, rfl, rfl, rfl⟩
  · obtain ⟨hg, h⟩ := Run.guard_bind.1 h
    cases h; exact Or.inr ⟨uid, rfl, rfl, rfl⟩

end PetIT.Auth
