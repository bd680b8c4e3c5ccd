import NewsApp.Lib.Run
import NewsApp.Login.Handlers

/-!
# The protocol of signing in and out

The steps of the app: a button of a login page or of the drawer is tapped, a call answers, a `signOut` takes
effect, a replaced login page is disposed. An answer and the code it resumes are one step, as nothing else
runs between them on the event loop.
-/

namespace NewsApp.Login

/-! ## Forms -/

/-- The validator of a text field, with its message for an empty field. -/
def validator (message text : String) : Option String := if text.isEmpty then some message else none

def validate (fields : List (String × String)) : Bool :=
  fields.all fun field => (validator field.1 field.2).isNone

def validateSignUp (nameSurname email password : String) : Bool :=
  validate [("Adınızı Soyadınızı giriniz", nameSurname), ("Emailinizi yazınız", email),
    ("Lütfen bir şifre yazın", password)]

def validateLogin (email password : String) : Bool :=
  validate [("Lütfen bir mail yazınız", email), ("Lütfen bir şifre yazın", password)]

/-! ## Events -/

inductive Event
  | tapSignUp (page : Nat) (nameSurname email password : String)
  | tapLogin (page : Nat) (email password : String)
  | tapGoogle (page : Nat)
  | answer (task : Nat) (answer : Answer)
  | tapSignOut
  | signOutDone
  | dispose (page : Nat)

namespace World

/-- The first login page, with the session that the device keeps. -/
def init (currentUser : Option User) : World :=
  { currentUser
    signOuts := 0
    current := .login 0
    pages := [LoginPage.initState]
    pending := []
    snackBars := []
    touches := []
    unhandled := [] }

def start (w : World) (page : Nat) (await : Await) : World :=
  { w with pending := w.pending ++ [⟨page, await⟩] }

/-- A credential sets `currentUser` to its user, which may be null, before the call completes. -/
def authenticate (w : World) (answer : Answer) : World :=
  { w with
    currentUser := match answer with
      | .user (.ok user) => user
      | _ => w.currentUser }

/-- Runs a handler of a page. What it throws is not handled. -/
def runHandler (w : World) (page : Nat) (handler : Handler (Option Await)) : World :=
  match handler.run w with
  | .ok (some await) w' => w'.start page await
  | .ok none w' => w'
  | .error e w' => { w' with unhandled := w'.unhandled ++ [e] }

/-- `onTap` of sign-out: `signOut` is called, and not awaited. -/
def signOut (w : World) : World :=
  { w with
    signOuts := w.signOuts + 1
    current := .login w.pages.length
    pages := w.pages ++ [LoginPage.initState] }

def step (env : Env) (w : World) : Event → Option World
  | .tapSignUp page nameSurname email password =>
      if w.mounted page then
        some (if validateSignUp nameSurname email password then
          w.start page (.createUserWithEmailAndPassword email password) else w)
      else none
  | .tapLogin page email password =>
      if w.mounted page then
        some (if validateLogin email password then
          w.start page (.signInWithEmailAndPassword email password) else w)
      else none
  | .tapGoogle page => if w.mounted page then some (w.start page .googleSignIn) else none
  | .answer i answer =>
      match w.pending[i]? with
      | none => none
      | some task =>
          (resume env task.page task.await answer).map fun handler =>
            runHandler { w.authenticate answer with pending := w.pending.eraseIdx i } task.page handler
  | .tapSignOut => if w.current = .home then some w.signOut else none
  | .signOutDone =>
      if 0 < w.signOuts then some { w with currentUser := none, signOuts := w.signOuts - 1 } else none
  | .dispose page =>
      if w.mounted page ∧ w.current ≠ .login page then
        some { w with pages := w.pages.modify page fun p => { p with mounted := false } }
      else none

/-! ## The home page belongs to a user -/

def drawerEmail (w : World) : Dart (Option String) := (deref w.currentUser).map (·.email)

def HomeSignedIn (w : World) : Prop := w.current = .home → w.currentUser ≠ none

/-- The session is only lost away from the home page: `signOut` takes effect and a credential comes without
a user while it is not on top, and no such credential of Google finds its page mounted. -/
def SessionKept (w : World) : Event → Prop
  | .signOutDone => w.current ≠ .home
  | .answer i (.user (.ok none)) =>
      w.current ≠ .home ∧
        ∀ page tokens, w.pending[i]? = some ⟨page, .signInWithCredential tokens⟩ → w.mounted page = false
  | _ => True

/-! ## Disposed pages are left alone -/

/-- No handler has used the context of a disposed State or ended with an error. -/
def Undisturbed (w : World) : Prop := (∀ t ∈ w.touches, t.mounted = true) ∧ w.unhandled = []

/-- The handler awaits another call after this answer. -/
def awaitsNext (env : Env) : Await → Answer → Prop
  | .googleSignIn, .account (.ok (some _)) => True
  | .authentication _, .authentication (.ok tokens) => env.credential tokens = .ok ()
  | .signInWithCredential _, .user (.ok (some user)) => env.asserts = true ∧ user.isAnonymous = false
  | _, _ => False

/-- Calls answer while the State is mounted, or in the middle of the sign-in with Google. -/
def AnswersInTime (env : Env) (w : World) : Event → Prop
  | .answer i answer =>
      ∀ task, w.pending[i]? = some task → w.mounted task.page = true ∨ awaitsNext env task.await answer
  | _ => True

end World

end NewsApp.Login
