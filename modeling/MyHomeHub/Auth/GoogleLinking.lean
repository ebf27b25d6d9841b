import MyHomeHub.Auth.Service
import MyHomeHub.Library.Runs

/-!
# Overlapping auth calls

Registrations, password changes, Google logins and the linking and unlinking of Google
accounts overlap: a call waits at each read and each save, and others proceed meanwhile.
A control point says what a call does next, with the values it has read. Every user keeps
a password or a Google account, and no account has two users, however the calls overlap.
That a linked account is not replaced needs more: the check that a user has no account
comes before the user is read again and saved, so two linking calls for one user must not
overlap unless they bring the same account.
-/

namespace MyHomeHub.AuthService

open JavaScript Library UsersService RegistrationRequests

/-! ## Calls in flight -/

/-- The next operation of a call, with the values it has read. -/
inductive Control where
  /-- The first read of `linkAccount`, and the check of the user. -/
  | linkAccount (userExternalId : String) (profile : GoogleProfile)
  /-- The check that no user has the Google account. -/
  | findByGoogleIdHash (userExternalId : String) (profile : GoogleProfile)
  /-- The read of `linkGoogleAccount`. -/
  | linkGoogleAccount (userExternalId : String) (profile : GoogleProfile)
  /-- The save of `linkGoogleAccount`. -/
  | saveLinked (user : User) (profile : GoogleProfile)
  /-- The first read of `unlinkAccount`, and the checks of the user. -/
  | unlinkAccount (userExternalId : String)
  /-- The read of `unlinkGoogleAccount`. -/
  | unlinkGoogleAccount (userExternalId : String)
  /-- The save of `unlinkGoogleAccount`. -/
  | saveUnlinked (user : User)
  /-- The first read of `resolveUserByGoogleEmail`. -/
  | resolveUserByGoogleEmail (profile : GoogleProfile)
  /-- The read of the user with the email of the Google account, and the check of that user. -/
  | findByEmail (profile : GoogleProfile)
  /-- The read of the registration request of a Google account. -/
  | getApprovedRequest (profile : GoogleProfile)
  /-- The read of the registration request of `register`. -/
  | register (email password : String)
  /-- The read of `create`. -/
  | create (data : CreateUserData)
  /-- The save of `create`. -/
  | saveNew (data : CreateUserData)
  /-- The read of `changePassword`. -/
  | changePassword (userExternalId newPassword : String)
  /-- The read of `updatePassword`. -/
  | updatePassword (userExternalId passwordHash : String)
  /-- The save of `updatePassword`. -/
  | savePassword (user : User) (passwordHash : String)
  | finished

/-- The requests of the clients. -/
inductive AuthRequest where
  | linkAccount (userExternalId idToken : String)
  | unlinkAccount (userExternalId : String)
  | login (idToken : String)
  | changePassword (userExternalId newPassword : String)
  | register (email password : String) (totp : Option String)

/-- The stored users and the calls in flight. -/
structure AuthSystem where
  users : UserStore
  calls : Nat → Control

/-- No user is stored, and no call is in flight. -/
def noUsers : AuthSystem :=
  ⟨.empty, fun _ => .finished⟩

/-- A call starts, or it takes its next step. A step meets the stored registration requests, and
the external id that the schema generates for a new user comes with it. -/
inductive AuthAction where
  | start (call : Nat) (request : AuthRequest)
  | advance (call : Nat) (requests : RequestStore) (externalId : String)

/-- What a write leaves: a call ends whether or not it was accepted. -/
def storeAfter (users : UserStore) : Except AccountError (UserStore × User) → UserStore
  | .ok (users, _) => users
  | .error _ => users

section

variable [LetterCase] [AuthCalls]

omit [LetterCase] in
/-- The data of a user who registers with a password. -/
def passwordUserData (email password : String) (role : Option UserRole) : CreateUserData where
  email := email
  role := role
  password := some (generateUserPasswordHash password)
  googleIdHash := none
  googleEmail := none

/-- The control point at which a request starts. -/
def begin : AuthRequest → Control
  | .linkAccount userExternalId idToken =>
      match verifyIdToken idToken with
      | .ok profile => .linkAccount userExternalId profile
      | .error _ => .finished
  | .unlinkAccount userExternalId => .unlinkAccount userExternalId
  | .login idToken =>
      match verifyIdToken idToken with
      | .ok profile => .resolveUserByGoogleEmail profile
      | .error _ => .finished
  | .changePassword userExternalId newPassword => .changePassword userExternalId newPassword
  | .register email password totp =>
      if isSet totp then
        if AuthCalls.verifyTotp (totp.getD "") then
          .create (passwordUserData email password (some totpRegisteredUserRole))
        else .finished
      else .register email password

/-- The next step of a call. -/
def next (users : UserStore) (requests : RequestStore) (externalId : String) :
    Control → UserStore × Control
  | .linkAccount userExternalId profile =>
      match findStrict users userExternalId with
      | .error _ => (users, .finished)
      | .ok user =>
          match mayLink user profile with
          | .ok true => (users, .findByGoogleIdHash user.externalId profile)
          | _ => (users, .finished)
  | .findByGoogleIdHash userExternalId profile =>
      match mustBeFree users profile with
      | .ok () => (users, .linkGoogleAccount userExternalId profile)
      | .error _ => (users, .finished)
  | .linkGoogleAccount userExternalId profile =>
      match findStrict users userExternalId with
      | .ok user => (users, .saveLinked user profile)
      | .error _ => (users, .finished)
  | .saveLinked user profile =>
      (storeAfter users (UsersService.save users user (linked user profile)), .finished)
  | .unlinkAccount userExternalId =>
      match findStrict users userExternalId with
      | .error _ => (users, .finished)
      | .ok user =>
          match mayUnlink user with
          | .ok () => (users, .unlinkGoogleAccount user.externalId)
          | .error _ => (users, .finished)
  | .unlinkGoogleAccount userExternalId =>
      match findStrict users userExternalId with
      | .ok user => (users, .saveUnlinked user)
      | .error _ => (users, .finished)
  | .saveUnlinked user =>
      (storeAfter users (UsersService.save users user (unlinked user)), .finished)
  | .resolveUserByGoogleEmail profile =>
      match UsersService.findByGoogleIdHash users profile.googleIdHash with
      | some _ => (users, .finished)
      | none => (users, .findByEmail profile)
  | .findByEmail profile =>
      match UsersService.findByEmail users profile.email with
      | none => (users, .getApprovedRequest profile)
      | some existingUser =>
          if isSet existingUser.googleIdHash then (users, .finished)
          else (users, .linkGoogleAccount existingUser.externalId profile)
  | .getApprovedRequest profile =>
      match getApprovedRequestByEmail requests profile.email with
      | .ok request => (users, .create (googleUserData profile request.role))
      | .error _ => (users, .finished)
  | .register email password =>
      match getApprovedRequestByEmail requests email with
      | .ok request => (users, .create (passwordUserData email password request.role))
      | .error _ => (users, .finished)
  | .create data =>
      match UsersService.findByEmail users data.email with
      | some _ => (users, .finished)
      | none => (users, .saveNew data)
  | .saveNew data =>
      (storeAfter users (UsersService.saveNew users (newUser externalId data)), .finished)
  | .changePassword userExternalId newPassword =>
      match findByExternalId users userExternalId with
      | none => (users, .finished)
      | some user =>
          (users, .updatePassword user.externalId (generateUserPasswordHash newPassword))
  | .updatePassword userExternalId passwordHash =>
      match findStrict users userExternalId with
      | .ok user => (users, .savePassword user passwordHash)
      | .error _ => (users, .finished)
  | .savePassword user passwordHash =>
      (storeAfter users (UsersService.save users user (withPassword user passwordHash)), .finished)
  | .finished => (users, .finished)

/-- A step of the system. -/
inductive AuthStep : AuthSystem → AuthAction → AuthSystem → Prop where
  | start {system : AuthSystem} {call : Nat} {request : AuthRequest}
      (hfree : system.calls call = .finished) :
      AuthStep system (.start call request)
        { system with calls := Function.update system.calls call (begin request) }
  | advance {system : AuthSystem} {call : Nat} {requests : RequestStore} {externalId : String} :
      AuthStep system (.advance call requests externalId)
        ⟨(next system.users requests externalId (system.calls call)).1,
          Function.update system.calls call
            (next system.users requests externalId (system.calls call)).2⟩

/-! ## Calls that do not overlap -/

/-- Some steps of one call while no other call proceeds. -/
def runAlone (requests : RequestStore) (externalId : String) :
    Nat → UserStore × Control → UserStore × Control
  | 0, state => state
  | n + 1, state => runAlone requests externalId n (next state.1 requests externalId state.2)

attribute [local simp] next runAlone

variable {users users' : UserStore} {requests : RequestStore} {externalId : String}

theorem run_alone_finished (n : Nat) :
    runAlone requests externalId n (users, .finished) = (users, .finished) := by
  induction n with
  | zero => rfl
  | succ n ih => simpa using ih

/-- Running `m + n` steps is running `m` steps and then `n` more. -/
theorem run_alone_add (m n : Nat) (state : UserStore × Control) :
    runAlone requests externalId (m + n) state =
      runAlone requests externalId n (runAlone requests externalId m state) := by
  induction m generalizing state with
  | zero => rw [Nat.zero_add, runAlone]
  | succ m ih => rw [Nat.succ_add, runAlone, ih, runAlone]

theorem link_google_account_alone (userExternalId : String) (profile : GoogleProfile) :
    runAlone requests externalId 2 (users, .linkGoogleAccount userExternalId profile) =
      (storeAfter users (linkGoogleAccount users userExternalId profile), .finished) := by
  rw [runAlone, next, linkGoogleAccount]
  cases findStrict users userExternalId with
  | error error => exact run_alone_finished 1
  | ok user => rfl

/-- Without overlap, `linkAccount` takes the steps of the service. -/
theorem link_account_alone (userExternalId : String) (profile : GoogleProfile) :
    runAlone requests externalId 4 (users, .linkAccount userExternalId profile) =
      (storeAfter users (linkAccount users userExternalId profile), .finished) := by
  rw [runAlone, next, linkAccount]
  cases findStrict users userExternalId with
  | error error => exact run_alone_finished 3
  | ok user =>
      dsimp only
      rw [ok_bind]
      cases mayLink user profile with
      | error error => exact run_alone_finished 3
      | ok free =>
          cases free with
          | false => exact run_alone_finished 3
          | true =>
              rw [ok_bind, if_pos rfl, runAlone]
              dsimp only [next]
              cases mustBeFree users profile with
              | error error => exact run_alone_finished 2
              | ok checked => exact link_google_account_alone user.externalId profile

/-- Without overlap, `unlinkAccount` takes the steps of the service. -/
theorem unlink_account_alone (userExternalId : String) :
    runAlone requests externalId 3 (users, .unlinkAccount userExternalId) =
      (storeAfter users (unlinkAccount users userExternalId), .finished) := by
  rw [runAlone, next, unlinkAccount]
  cases findStrict users userExternalId with
  | error error => exact run_alone_finished 2
  | ok user =>
      dsimp only
      rw [ok_bind]
      cases mayUnlink user with
      | error error => exact run_alone_finished 2
      | ok checked =>
          rw [ok_bind, unlinkGoogleAccount, runAlone]
          dsimp only [next]
          cases findStrict users user.externalId with
          | error error => exact run_alone_finished 1
          | ok user => rfl

/-- Without overlap, `changePassword` takes the steps of the service. -/
theorem change_password_alone (userExternalId newPassword : String) :
    runAlone requests externalId 3 (users, .changePassword userExternalId newPassword) =
      (storeAfter users (changePassword users userExternalId newPassword), .finished) := by
  rw [runAlone, next, changePassword]
  cases findByExternalId users userExternalId with
  | none => exact run_alone_finished 2
  | some user =>
      dsimp only
      rw [updatePassword, runAlone]
      dsimp only [next]
      cases findStrict users user.externalId with
      | error error => exact run_alone_finished 1
      | ok user => rfl

theorem create_alone (data : CreateUserData) :
    runAlone requests externalId 2 (users, .create data) =
      (storeAfter users (create users externalId data), .finished) := by
  rw [runAlone, next, UsersService.create]
  cases UsersService.findByEmail users data.email with
  | some user => exact run_alone_finished 1
  | none => rfl

/-- Without overlap, `register` takes the steps of the service. -/
theorem register_alone (email password : String) :
    runAlone requests externalId 3 (users, .register email password) =
      (storeAfter users (registerWithRequest users requests externalId email password),
        .finished) := by
  rw [runAlone, next, registerWithRequest]
  cases getApprovedRequestByEmail requests email with
  | error error => exact run_alone_finished 2
  | ok request => exact create_alone (passwordUserData email password request.role)

/-- Without overlap, `resolveUserByGoogleEmail` takes the steps of the service. -/
theorem resolve_user_alone (profile : GoogleProfile) :
    runAlone requests externalId 5 (users, .resolveUserByGoogleEmail profile) =
      (storeAfter users (resolveUserByGoogleEmail users requests externalId profile),
        .finished) := by
  rw [runAlone, next, resolveUserByGoogleEmail]
  cases UsersService.findByGoogleIdHash users profile.googleIdHash with
  | some user => exact run_alone_finished 4
  | none =>
      dsimp only
      rw [runAlone]
      dsimp only [next]
      cases UsersService.findByEmail users profile.email with
      | some user =>
          dsimp only
          split
          · exact run_alone_finished 3
          · -- linking takes one step less than registering
            rw [run_alone_add 2 1, link_google_account_alone]
            exact run_alone_finished 1
      | none =>
          dsimp only
          rw [runAlone]
          dsimp only [next]
          cases getApprovedRequestByEmail requests profile.email with
          | error error => exact run_alone_finished 2
          | ok request => exact create_alone (googleUserData profile request.role)

end

end MyHomeHub.AuthService
