/-
The screens of a session: the app's window and what stands on it, driven by the user's taps and by what
`AuthService` tells its delegates. The main tab bar is the window's root, or presented over the log-in
screens by one of them. Of UIKit it is taken that `present` does nothing on a screen that is not on top, or
that has already presented something.
-/
import PetIT.Auth.Service

namespace PetIT.Session

open Auth

/-! ## The window -/

/-- The window's root: the main tab bar, or the log-in navigation with or without the Create Account screen
pushed on it. -/
inductive Root where
  | main
  | login (createAccount : Bool)
  deriving DecidableEq, Repr

/-- What a log-in screen has presented. -/
inductive Modal where
  | mainTabBar
  | alert (a : Alert)
  deriving DecidableEq, Repr

/-- The window's root, and what is presented over it. -/
structure Window where
  root : Root
  presented : Option Modal
  deriving DecidableEq, Repr

/-- The main tab bar is the visible screen. -/
def Window.MainVisible (w : Window) : Prop := w.root = .main ∨ w.presented = some .mainTabBar

/-- The log-in or the create-account screen is the visible screen. -/
def Window.LoginVisible (w : Window) : Prop := (∃ create, w.root = .login create) ∧ w.presented ≠ some .mainTabBar

/-- The log-in screen, or the Create Account screen, is on top and has presented nothing. -/
def Window.Ready (w : Window) (createAccount : Bool) : Prop := w = ⟨.login createAccount, none⟩

instance (w : Window) : Decidable w.MainVisible := inferInstanceAs (Decidable (_ ∨ _))
instance (w : Window) (createAccount : Bool) : Decidable (w.Ready createAccount) := inferInstanceAs (Decidable (_ = _))

/-- `AuthService` with Auth and the store behind it, and the window. -/
structure State where
  service : Auth.State
  window : Window

/-- A launch of the app, a tap, or a reply to a request of `AuthService`. -/
inductive Event where
  | launch
  | loginButtonPressed (email password : String)
  | createAccountTapped
  | showLoginViewTapped
  | createAccountButtonPressed (username email password : String)
  | okTapped
  | signOutButtonPressed (error : Option String)
  | createUserReply (k : Nat) (result : Except String String) (joinedDate : String)
  | commitReply (k : Nat) (error : Option String)
  | documentReply (k : Nat) (error : Option String)
  | signInReply (i : Nat) (result : Except String String)

/-! ## Showing screens -/

/-- `present` on one of the two log-in screens. -/
def Window.present (w : Window) (createAccount : Bool) (m : Modal) : Window :=
  if w.Ready createAccount then { w with presented := some m } else w

/-- `UIViewController.showLoginView`, from a screen of the main storyboard: the window gets a new log-in
navigation, and the screens it showed are gone. -/
def Window.showLoginView (_ : Window) : Window := ⟨.login false, none⟩

/-- What the delegates do: `CreateAccountViewController`, `LoginViewController` and `JobListViewController`.
They are held weakly, and one that is gone is not on top either. -/
def Window.deliver (w : Window) : Callback → Window
  | .didRecieveErrorCreatingAccount error => w.present true (.alert ⟨"Account Creation Error", error⟩)
  | .didCreateNewAccount _ => w.present true .mainTabBar
  | .didRecieveErrorSigningToExistingAccount error => w.present false (.alert ⟨"Signin Error", error⟩)
  | .didSignInToExistingAccount _ => w.present false .mainTabBar
  | .didSignOut => w.showLoginView
  | .didSignOutWithError _ => w

/-- The window after its screens have been told, if there is something to tell. -/
def Window.told (w : Window) : Option Callback → Window
  | none => w
  | some callback => w.deliver callback

/-- The service handles an event, and its delegate is told. -/
def State.handle (s : State) (e : Auth.Event) : Option State :=
  (Auth.handle s.service e).map fun r => ⟨r.1, s.window.told r.2⟩

/-! ## The app delegate -/

/-- `application(_:didFinishLaunchingWithOptions:)`: the requests of the process before are lost, the
signed-in user is not. -/
def launch (service : Auth.State) : State where
  service := { service with attempts := [], signIns := [] }
  window := ⟨if service.currentUser.isSome then .main else .login false, none⟩

/-! ## Taps -/

/-- `loginButtonPressed`; with a field left empty it does nothing. -/
def loginButtonPressed (s : State) (email password : String) : Option State := do
  guard (s.window.Ready false)
  if email.isEmpty || password.isEmpty then some s else s.handle (.signInExistingAccount email password)

/-- `createAccountButtonPressed`; with a field left empty it does nothing. -/
def createAccountButtonPressed (s : State) (username email password : String) : Option State := do
  guard (s.window.Ready true)
  if username.isEmpty || email.isEmpty || password.isEmpty then some s
  else s.handle (.createNewAccount username email password)

/-- The Create Account screen is pushed, or popped. -/
def showScreen (s : State) (createAccount : Bool) : Option State := do
  guard (s.window.Ready !createAccount)
  some { s with window := ⟨.login createAccount, none⟩ }

/-- The alert is dismissed. -/
def okTapped (s : State) : Option State :=
  match s.window.presented with
  | some (.alert _) => some { s with window := { s.window with presented := none } }
  | _ => none

/-- `willSignOut`: signs out and shows the log-in screen, whether or not Auth has signed out. -/
def signOutButtonPressed (s : State) (error : Option String) : Option State := do
  guard s.window.MainVisible
  let s ← s.handle (.signOutAccount error)
  -- shown after `didSignOutWithError` as after `didSignOut`
  some { s with window := s.window.showLoginView }

/-! ## The session -/

/-- The session, one event at a time. -/
def step (s : State) : Event → Option State
  | .launch => some (launch s.service)
  | .loginButtonPressed email password => loginButtonPressed s email password
  | .createAccountTapped => showScreen s true
  | .showLoginViewTapped => showScreen s false
  | .createAccountButtonPressed username email password => createAccountButtonPressed s username email password
  | .okTapped => okTapped s
  | .signOutButtonPressed error => signOutButtonPressed s error
  | .createUserReply k result joinedDate => s.handle (.createUserReply k result joinedDate)
  | .commitReply k error => s.handle (.commitReply k error)
  | .documentReply k error => s.handle (.documentReply k error)
  | .signInReply i result => s.handle (.signInReply i result)

end PetIT.Session
