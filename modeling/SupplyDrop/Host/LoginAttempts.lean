import Mathlib
import SupplyDrop.Host.Auth

namespace SupplyDrop.Host
open Library Store

/-! ## Two ways to log in, up to each wait -/

inductive LoginPath where
  -- `handle_login_oneshot`
  | oneShot
  -- the reply to `Workflow::Login`
  | interactive
deriving DecidableEq

/-- What an attempt does next. -/
inductive LoginStage where
  | checkThrottle
  | findUser
  | verifyPassword (user : User)
  | resolveSuspension (user : User)
  | clearFailures
  | recordFailure
  | done

structure LoginAttempt where
  path : LoginPath
  username : Username
  password : String
  stage : LoginStage

namespace LoginAttempt

def started (path : LoginPath) (username : Username) (password : String) : LoginAttempt where
  path := path
  username := username
  password := password
  stage := match path with
    | .oneShot => .checkThrottle
    | .interactive => .findUser

def mayGoOn : LoginPath → Option User → Option User
  | .oneShot, user => mayLogIn user
  | .interactive, user => user

/-- A right password, before the suspension of the account is looked at. -/
def afterVerified (user : User) : LoginStage :=
  if user.status = .banned then .resolveSuspension user else .clearFailures

def proceed (a : LoginAttempt) (h : BbsHost) : LoginStage × BbsHost :=
  match a.stage with
  | .checkThrottle =>
      match checkLoginThrottle a.username.text h with
      | (.ok none, h') => (.findUser, h')
      | (_, h') => (.done, h')
  | .findUser =>
      match db StoreError.display (UserStore.getByUsername a.username) h with
      | (.ok user, h') =>
          match mayGoOn a.path user with
          | some user => (.verifyPassword user, h')
          | none => (.done, h')
      | (.error _, h') => (.done, h')
  | .verifyPassword user =>
      match db (failed "verify password")
        (CredentialStore.verifyPassword user.id a.password h.store.now) h with
      | (.ok true, h') => (afterVerified user, h')
      | (.ok false, h') => (.recordFailure, h')
      | (.error _, h') => (.done, h')
  | .resolveSuspension user =>
      match resolveSuspension user h with
      | (.ok (.allowed _), h') => (.clearFailures, h')
      | (_, h') => (.done, h')
  | .clearFailures => (.done, (clearLoginFailures a.username.text h).2)
  | .recordFailure => (.done, (recordLoginFailure a.username.text h).2)
  | .done => (.done, h)

end LoginAttempt
end SupplyDrop.Host
