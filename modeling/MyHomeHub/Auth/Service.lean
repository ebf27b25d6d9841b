import MyHomeHub.Users.RegistrationRequests
import MyHomeHub.Users.Service

/-!
# The auth services

The calls of `auth.service` and `google-auth.service` that read or write users: the
registration with a password, the change of a password, and the login, the linking and the
unlinking of a Google account. The packages that check one-time passwords and ID tokens and
that compute hashes are external calls.
-/

namespace MyHomeHub.AuthService

open JavaScript Library UsersService RegistrationRequests

/-- The payload of a verified ID token. -/
structure TokenPayload where
  sub : Option String
  email : Option String
  emailVerified : Bool
  deriving DecidableEq, Repr

/-- The third-party functions of the auth services. -/
class AuthCalls where
  /-- `speakeasy.totp.verify` with the configured secret -/
  verifyTotp : String → Bool
  /-- `argon2.hash` with the configured secret and salt -/
  argon2Hash : String → String
  /-- The SHA-256 hash of a text as hexadecimal digits -/
  sha256 : String → String
  /-- `client.verifyIdToken` and `getPayload`, or none when the verification fails -/
  verifyIdToken : String → Option TokenPayload
  /-- `getGoogleClientIds` -/
  googleClientIds : List String

variable [LetterCase] [AuthCalls]

/-- What an auth call leaves, and what it returned. -/
structure AuthOutcome where
  users : UserStore
  requests : RequestStore
  result : Except AccountError User

omit [LetterCase] in
/-- `generateUserPasswordHash` -/
def generateUserPasswordHash (password : String) : String :=
  AuthCalls.argon2Hash password

/-- `register` with a one-time password. The external ids of the new user and of the new request
come with the call. -/
def registerWithTotp (users : UserStore) (requests : RequestStore)
    (userExternalId requestExternalId email password totp : String) : AuthOutcome :=
  if AuthCalls.verifyTotp totp then
    match create users userExternalId {
        email := email
        role := some totpRegisteredUserRole
        password := some (generateUserPasswordHash password)
        googleIdHash := none
        googleEmail := none } with
    | .error error => ⟨users, requests, .error error⟩
    | .ok (users, newUser) =>
        match createAutoApprovedRequest requests requestExternalId email with
        | .error error => ⟨users, requests, .error error⟩
        | .ok (requests, _) => ⟨users, requests, .ok newUser⟩
  else ⟨users, requests, .error (.forbidden "Forbidden")⟩

/-- `register` without a one-time password. -/
def registerWithRequest (users : UserStore) (requests : RequestStore)
    (externalId email password : String) : Except AccountError (UserStore × User) := do
  let registrationRequest ← getApprovedRequestByEmail requests email
  create users externalId {
    email := email
    role := registrationRequest.role
    password := some (generateUserPasswordHash password)
    googleIdHash := none
    googleEmail := none }

/-- `register` -/
def register (users : UserStore) (requests : RequestStore)
    (userExternalId requestExternalId email password : String) (totp : Option String) :
    AuthOutcome :=
  if isSet totp then
    registerWithTotp users requests userExternalId requestExternalId email password (totp.getD "")
  else
    match registerWithRequest users requests userExternalId email password with
    | .error error => ⟨users, requests, .error error⟩
    | .ok (users, newUser) => ⟨users, requests, .ok newUser⟩

/-- `changePassword` from the point where the reset token was consumed. -/
def changePassword (users : UserStore) (userExternalId newPassword : String) :
    Except AccountError (UserStore × User) :=
  match findByExternalId users userExternalId with
  | none => .error (.unauthorized "Unauthorized")
  | some user => updatePassword users user.externalId (generateUserPasswordHash newPassword)

/-! ## Google accounts -/

omit [LetterCase] in
/-- `hashGoogleId` -/
def hashGoogleId (googleId : String) : String :=
  AuthCalls.sha256 googleId

/-- `verifyIdToken` -/
def verifyIdToken (idToken : String) : Except AccountError GoogleProfile :=
  if AuthCalls.googleClientIds.isEmpty then
    .error (.serviceUnavailable "Google authentication is not configured on this server")
  else
    match AuthCalls.verifyIdToken idToken with
    | none => .error (.unauthorized "The provided Google ID token is not valid")
    | some payload =>
        if isSet payload.sub && isSet payload.email then
          if payload.emailVerified then
            .ok {
              googleIdHash := hashGoogleId (payload.sub.getD "")
              email := LetterCase.toLowerCase (payload.email.getD "") }
          else .error (.unauthorized "The email of the provided Google account is not verified")
        else .error (.unauthorized
          "The provided Google ID token does not contain the account details")

omit [LetterCase] [AuthCalls] in
/-- The first checks of `linkAccount`: whether a Google account is still to be linked. -/
def mayLink (user : User) (profile : GoogleProfile) : Except AccountError Bool :=
  if user.googleIdHash = some profile.googleIdHash then .ok false
  else if isSet user.googleIdHash then
    .error (.fieldConflict "This user is already linked to another Google account" "idToken")
  else .ok true

omit [LetterCase] [AuthCalls] in
/-- The last check of `linkAccount`: no user has the Google account. -/
def mustBeFree (users : UserStore) (profile : GoogleProfile) : Except AccountError Unit :=
  match findByGoogleIdHash users profile.googleIdHash with
  | some _ => .error
      (.fieldConflict "This Google account is already linked to another user" "idToken")
  | none => .ok ()

/-- `linkAccount` from the point where the ID token was verified. -/
def linkAccount (users : UserStore) (userExternalId : String) (profile : GoogleProfile) :
    Except AccountError (UserStore × User) := do
  let user ← findStrict users userExternalId
  if ← mayLink user profile then
    mustBeFree users profile
    linkGoogleAccount users user.externalId profile
  else return (users, user)

omit [LetterCase] [AuthCalls] in
/-- The checks of `unlinkAccount`. -/
def mayUnlink (user : User) : Except AccountError Unit :=
  if !isSet user.googleIdHash then
    .error (.fieldValidation "There is no Google account linked to this user" "googleId")
  else if !isSet user.password then
    .error (.fieldValidation
      ("Cannot unlink the Google account because the user has no password set. " ++
        "Please set a password first.") "password")
  else .ok ()

omit [LetterCase] [AuthCalls] in
/-- `unlinkAccount` -/
def unlinkAccount (users : UserStore) (userExternalId : String) :
    Except AccountError (UserStore × User) := do
  let user ← findStrict users userExternalId
  mayUnlink user
  unlinkGoogleAccount users user.externalId

omit [LetterCase] [AuthCalls] in
/-- The data of a user who registers with a Google account. -/
def googleUserData (profile : GoogleProfile) (role : Option UserRole) : CreateUserData where
  email := profile.email
  role := role
  password := none
  googleIdHash := some profile.googleIdHash
  googleEmail := some profile.email

/-- `resolveUserByGoogleEmail` -/
def resolveUserByGoogleEmail (users : UserStore) (requests : RequestStore) (externalId : String)
    (profile : GoogleProfile) : Except AccountError (UserStore × User) :=
  match findByGoogleIdHash users profile.googleIdHash with
  | some linkedUser => .ok (users, linkedUser)
  | none =>
      match findByEmail users profile.email with
      | some existingUser =>
          if isSet existingUser.googleIdHash then
            .error (.fieldConflict "This user is already linked to another Google account"
              "idToken")
          else linkGoogleAccount users existingUser.externalId profile
      | none => do
          let registrationRequest ← getApprovedRequestByEmail requests profile.email
          create users externalId (googleUserData profile registrationRequest.role)

/-- `login` of a Google account, up to the tokens of the user. -/
def loginWithGoogle (users : UserStore) (requests : RequestStore) (externalId idToken : String) :
    Except AccountError (UserStore × User) := do
  let profile ← verifyIdToken idToken
  resolveUserByGoogleEmail users requests externalId profile

end MyHomeHub.AuthService
