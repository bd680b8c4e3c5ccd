import NewsApp.Dart.Basic
import NewsApp.Lib.Effect

/-!
# The handlers of `lib/login_page.dart`

An asynchronous handler runs from one `await` to the next. The code after an `await` gets the answer of the
call, and returns the next call it awaits, or `none` at its end. The answer of a call is its value or the
error it throws.
-/

namespace NewsApp.Login

/-! ## The calls and their answers -/

/-- The fields of a Firebase `User` that the app reads. -/
structure User where
  uid : String
  email : Option String
  displayName : Option String
  isAnonymous : Bool
  deriving DecidableEq, Repr

/-- The app only passes the account on, to await its `authentication`. -/
structure GoogleSignInAccount where
  deriving DecidableEq, Repr

structure GoogleSignInAuthentication where
  accessToken : Option String
  idToken : Option String
  deriving DecidableEq, Repr

inductive Await
  | createUserWithEmailAndPassword (email password : String)
  | signInWithEmailAndPassword (email password : String)
  | googleSignIn
  | authentication (account : GoogleSignInAccount)
  | signInWithCredential (tokens : GoogleSignInAuthentication)
  /-- Awaited inside an `assert`. -/
  | getIdToken (user : User)
  deriving DecidableEq, Repr

inductive Answer
  | user (result : Dart (Option User))
  | account (result : Dart (Option GoogleSignInAccount))
  | authentication (result : Dart GoogleSignInAuthentication)
  | idToken (result : Dart (Option String))

/-- What the handlers are run with: assertions, `GoogleAuthProvider.credential`, and the texts of errors. -/
structure Env where
  asserts : Bool
  credential : GoogleSignInAuthentication → Dart Unit
  toString : DartError → String

/-! ## Pages -/

/-- The States of one login page: whether they are mounted, and the fields of `_FormUpFieldState`. -/
structure LoginPage where
  mounted : Bool
  success : Option Bool
  message : Option String
  deriving Repr

def LoginPage.initState : LoginPage := ⟨true, some true, none⟩

def LoginPage.resultText (p : LoginPage) : String :=
  match p.success with
  | none => ""
  | some _ => p.message.getD ""

/-- The login or home page on top; an article above the home page does not count. Login pages are numbered in
the order in which they are opened. -/
inductive Route
  | login (page : Nat)
  | home
  deriving DecidableEq, Repr

inductive ContextUse
  | setState
  | scaffoldOf
  | navigator
  deriving DecidableEq, Repr

structure Touch where
  page : Nat
  use : ContextUse
  mounted : Bool
  deriving DecidableEq, Repr

structure Task where
  page : Nat
  await : Await
  deriving DecidableEq, Repr

/-- The app: the session of Firebase, the pages, the calls under way, and what the handlers have done. -/
structure World where
  currentUser : Option User
  /-- The calls of `signOut` that have not taken effect. -/
  signOuts : Nat
  current : Route
  pages : List LoginPage
  pending : List Task
  snackBars : List String
  touches : List Touch
  unhandled : List DartError

def World.mounted (w : World) (page : Nat) : Bool :=
  match w.pages[page]? with
  | some p => p.mounted
  | none => false

def World.touch (w : World) (page : Nat) (use : ContextUse) : World :=
  { w with touches := w.touches ++ [⟨page, use, w.mounted page⟩] }

/-! ## Steps of handlers -/

abbrev Handler (α : Type) := EStateM DartError World α

def ofDart {α : Type} : Dart α → Handler α
  | .ok a => pure a
  | .error e => throw e

/-- Every use of the context of a disposed State raises: a `FlutterError`, or without assertions an error of
the null element. -/
def useContext (page : Nat) (use : ContextUse) : Handler Unit := do
  let w ← get
  set (w.touch page use)
  if w.mounted page then pure () else throw .disposedError

/-- With assertions, a disposed State raises before the callback `f` runs. Without them `f` runs first, and
the element that should be marked dirty is null. -/
def setState (asserts : Bool) (page : Nat) (f : LoginPage → LoginPage) : Handler Unit := do
  let callback : Handler Unit := modify fun w => { w with pages := w.pages.modify page f }
  if asserts then
    useContext page .setState
    callback
  else
    callback
    useContext page .setState

def scaffoldOf (page : Nat) : Handler Unit := useContext page .scaffoldOf

def showSnackBar (text : String) : Handler Unit :=
  modify fun w => { w with snackBars := w.snackBars ++ [text] }

/-- `Navigator.pushReplacement` of a new home page, which replaces the route on top. -/
def pushHomePage (page : Nat) : Handler Unit := do
  useContext page .navigator
  modify fun w => { w with current := .home }

def interpolate : Option String → String
  | some s => s
  | none => "null"

/-! ## The handlers -/

/-- The clauses `on FirebaseAuthException catch (e)` and `catch (e)` of both sign-ins. -/
def catchSignIn (page : Nat) (text : String) : DartError → Handler (Option Await)
  | .firebaseAuthException message => do
      scaffoldOf page
      showSnackBar (interpolate message)
      return none
  | _ => do
      scaffoldOf page
      showSnackBar text
      return none

/-- `_register`, after its call. -/
def register (env : Env) (page : Nat) (credential : Dart (Option User)) : Handler (Option Await) :=
  tryCatch (do
    let user ← ofDart credential
    match user with
    | some user =>
        setState env.asserts page fun p =>
          { p with success := some true, message := some ("Kayıt başarılı " ++ interpolate user.email) }
    | none =>
        setState env.asserts page fun p => { p with success := some false, message := some "Kayıt başarısız." }
    return none)
  fun e => do
    setState env.asserts page fun p =>
      { p with success := some false, message := some ("Kyıt başarısız. \n\n" ++ env.toString e) }
    return none

/-- `_signInWithEmailAndPassword`, after its call. The context is used before the user is read. -/
def signInWithEmailAndPassword (page : Nat) (credential : Dart (Option User)) : Handler (Option Await) :=
  tryCatch (do
    let user ← ofDart credential
    scaffoldOf page
    let user ← ofDart (deref user)
    showSnackBar (interpolate user.email ++ " ile giriş yapıldı.")
    pushHomePage page
    return none)
  (catchSignIn page "Email ve Şifre ile giriş yaparken bir sorun oluştu")

def signInWithGoogle (page : Nat) (body : Handler (Option Await)) : Handler (Option Await) :=
  tryCatch body (catchSignIn page "Google ile giriş yaparken bir hata oluştu.")

def assertCurrentUser (asserts : Bool) (user : User) : Handler Unit :=
  if asserts then do
    let w ← get
    let currentUser ← ofDart (deref w.currentUser)
    ofDart (assert true (user.uid == currentUser.uid))
  else pure ()

/-- The code from `final User currentUser` on, with the user of the credential. -/
def googleSignedIn (asserts : Bool) (page : Nat) (user : User) : Handler (Option Await) := do
  assertCurrentUser asserts user
  scaffoldOf page
  showSnackBar (interpolate user.displayName ++ ", Google ile giriş yaptı")
  pushHomePage page
  return none

/-- The code from `final User user` on. Without a user, nothing is checked before the home page. -/
def googleCredential (env : Env) (page : Nat) : Option User → Handler (Option Await)
  | some user => do
      ofDart (assert env.asserts (!user.isAnonymous))
      if env.asserts then return some (.getIdToken user)
      else googleSignedIn false page user
  | none => do
      pushHomePage page
      return none

/-- The code that the answer of a call resumes, when the call can have such an answer. -/
def resume (env : Env) (page : Nat) : Await → Answer → Option (Handler (Option Await))
  | .createUserWithEmailAndPassword _ _, .user credential => some (register env page credential)
  | .signInWithEmailAndPassword _ _, .user credential => some (signInWithEmailAndPassword page credential)
  | .googleSignIn, .account account =>
      some (signInWithGoogle page do
        let account ← ofDart account
        let account ← ofDart (deref account)
        return some (.authentication account))
  | .authentication _, .authentication tokens =>
      some (signInWithGoogle page do
        let tokens ← ofDart tokens
        ofDart (env.credential tokens)
        return some (.signInWithCredential tokens))
  | .signInWithCredential _, .user credential =>
      some (signInWithGoogle page do
        let user ← ofDart credential
        googleCredential env page user)
  | .getIdToken user, .idToken token =>
      some (signInWithGoogle page do
        let token ← ofDart token
        ofDart (assert true token.isSome)
        googleSignedIn true page user)
  | _, _ => none

end NewsApp.Login
