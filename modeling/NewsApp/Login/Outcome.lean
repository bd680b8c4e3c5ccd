import NewsApp.Login.Session

/-!
# The protocol without its code

How the code after an answer ends, as a table of the calls and their answers, and the app that follows the
table. Of the app only the log of the touches is left out.
-/

namespace NewsApp.Login

/-- What the code after an answer does on a mounted page. The late message of a report is the one that its
clause `catch (e)` puts into the fields of a disposed page, when the app runs without assertions. -/
inductive Outcome
  | await (next : Await)
  | report (success : Bool) (message late : String)
  | snackBar (text : String)
  | welcome (snackBar : Option String)
  deriving DecidableEq, Repr

def Outcome.next : Outcome → Option Await
  | .await next => some next
  | _ => none

/-! ## The table -/

def registerFailure (env : Env) (e : DartError) : String := "Kyıt başarısız. \n\n" ++ env.toString e

def failureText (text : String) : DartError → String
  | .firebaseAuthException message => interpolate message
  | _ => text

def emailFailure (e : DartError) : Outcome :=
  .snackBar (failureText "Email ve Şifre ile giriş yaparken bir sorun oluştu" e)

def googleFailure (e : DartError) : Outcome :=
  .snackBar (failureText "Google ile giriş yaparken bir hata oluştu." e)

def googleWelcome (user : User) : Outcome :=
  .welcome (some (interpolate user.displayName ++ ", Google ile giriş yaptı"))

/-- How the answer of a call is met, when `currentUser` is signed in after it. -/
def outcome (env : Env) (currentUser : Option User) : Await → Answer → Option Outcome
  | .createUserWithEmailAndPassword _ _, .user (.ok (some user)) =>
      some (.report true ("Kayıt başarılı " ++ interpolate user.email) (registerFailure env .disposedError))
  | .createUserWithEmailAndPassword _ _, .user (.ok none) =>
      some (.report false "Kayıt başarısız." (registerFailure env .disposedError))
  | .createUserWithEmailAndPassword _ _, .user (.error e) =>
      some (.report false (registerFailure env e) (registerFailure env e))
  | .signInWithEmailAndPassword _ _, .user (.ok (some user)) =>
      some (.welcome (some (interpolate user.email ++ " ile giriş yapıldı.")))
  | .signInWithEmailAndPassword _ _, .user (.ok none) => some (emailFailure .noSuchMethodError)
  | .signInWithEmailAndPassword _ _, .user (.error e) => some (emailFailure e)
  | .googleSignIn, .account (.ok (some account)) => some (.await (.authentication account))
  | .googleSignIn, .account (.ok none) => some (googleFailure .noSuchMethodError)
  | .googleSignIn, .account (.error e) => some (googleFailure e)
  | .authentication _, .authentication (.ok tokens) =>
      match env.credential tokens with
      | .ok _ => some (.await (.signInWithCredential tokens))
      | .error e => some (googleFailure e)
  | .authentication _, .authentication (.error e) => some (googleFailure e)
  | .signInWithCredential _, .user (.ok (some user)) =>
      if env.asserts then
        if user.isAnonymous then some (googleFailure .assertionError) else some (.await (.getIdToken user))
      else some (googleWelcome user)
  | .signInWithCredential _, .user (.ok none) => some (.welcome none)
  | .signInWithCredential _, .user (.error e) => some (googleFailure e)
  | .getIdToken user, .idToken (.ok (some _)) =>
      match currentUser with
      | some currentUser =>
          if user.uid = currentUser.uid then some (googleWelcome user)
          else some (googleFailure .assertionError)
      | none => some (googleFailure .noSuchMethodError)
  | .getIdToken _, .idToken (.ok none) => some (googleFailure .assertionError)
  | .getIdToken _, .idToken (.error e) => some (googleFailure e)
  | _, _ => none

/-! ## The app that follows the table -/

namespace World

def effect (w : World) (page : Nat) : Outcome → World
  | .await _ => w
  | .report success message _ =>
      { w with pages := w.pages.modify page fun p =>
          { p with success := some success, message := some message } }
  | .snackBar text => { w with snackBars := w.snackBars ++ [text] }
  | .welcome text => { w with current := .home, snackBars := w.snackBars ++ text.toList }

/-- What a disposed page keeps of the effect. -/
def lateEffect (asserts : Bool) (w : World) (page : Nat) : Outcome → World
  | .report _ _ late => if asserts then w else w.effect page (.report false late late)
  | _ => w

/-- On a disposed page the effect ends in an error that nobody handles. -/
def perform (asserts : Bool) (w : World) (page : Nat) (o : Outcome) : World :=
  match o.next with
  | some next => w.start page next
  | none =>
      if w.mounted page then w.effect page o
      else { w.lateEffect asserts page o with unhandled := w.unhandled ++ [.disposedError] }

def protocolStep (env : Env) (w : World) : Event → Option World
  | .answer i answer =>
      match w.pending[i]? with
      | none => none
      | some task =>
          (outcome env (w.authenticate answer).currentUser task.await answer).map
            (perform env.asserts { w.authenticate answer with pending := w.pending.eraseIdx i } task.page)
  | e => step env w e

def withoutTouches (w : World) : World := { w with touches := [] }

end World

end NewsApp.Login
