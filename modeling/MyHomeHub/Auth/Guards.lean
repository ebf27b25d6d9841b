import MyHomeHub.Auth.Service
import MyHomeHub.Library.SignedTokens

/-!
# The guards of the REST API

Three guards look at each request before its handler: `LocalNetworkGuard`, `JwtAuthGuard` and
`RolesGuard`, in this order. The decorators of the handler and of its class say whether the
endpoint is public and which roles may use it. The packages that check signatures, that read
the header and that classify addresses are external calls.
-/

namespace MyHomeHub.AuthService

open JavaScript Library UsersService

/-- The third-party functions behind the guards and the login. -/
class SessionCalls where
  /-- `sign` and `verify` of the JWT service -/
  jwt : Signer String (Claims String) String
  /-- `argon2.verify` with the configured secret -/
  argon2Verify : String → String → Bool
  /-- `ExtractJwt.fromAuthHeaderAsBearerToken` -/
  bearerToken : String → Option String
  /-- `range` of `ipaddr.process`, or none when it throws -/
  ipRange : String → Option String

/-- `AuthConfigService` -/
class AuthConfig where
  nodeEnv : Option String
  enableLocalAuth : Option String
  jwtSecret : String
  jwtRefreshSecret : String
  /-- `getJwtExpTimeout` in seconds, or none if it is not a number -/
  jwtExpTimeout : Option Nat
  /-- `getJwtRefreshExpTimeout` in seconds, or none if it is not a number -/
  jwtRefreshExpTimeout : Option Nat

/-- Why a request is refused. -/
inductive AuthRefusal where
  /-- `UnauthorizedException`. -/
  | unauthorized
  /-- `ForbiddenException`. -/
  | forbidden (message : String)
  /-- `BadRequestException`. -/
  | badRequest (message : String)
  /-- What the JWT service throws when it cannot sign. -/
  | signFailed
  deriving DecidableEq, Repr

/-- `PublicOptions` -/
structure PublicOptions where
  localOnly : Bool
  deriving DecidableEq, Repr

/-- The metadata that `Public` and `ForRoles` have set on a handler and on its class. -/
structure Endpoint where
  handlerPublic : Option PublicOptions
  classPublic : Option PublicOptions
  handlerRoles : Option (List UserRole)
  classRoles : Option (List UserRole)
  deriving DecidableEq, Repr

/-- What the guards read of a request. -/
structure RequestContext where
  /-- `getType` is `http` -/
  isHttp : Bool
  ip : Option String
  remoteAddress : Option String
  authorization : Option String
  deriving DecidableEq, Repr

/-- `AuthenticatedUser` -/
structure AuthenticatedUser where
  userId : String
  email : String
  role : Option UserRole
  deriving DecidableEq, Repr

/-- `LOCAL_IP_RANGES` -/
def localIpRanges : List String :=
  ["loopback", "private", "linkLocal", "uniqueLocal"]

/-- `getPublicOptions` -/
def Endpoint.publicOptions (endpoint : Endpoint) : Option PublicOptions :=
  endpoint.handlerPublic.or endpoint.classPublic

/-- `isPublicEndpoint` -/
def Endpoint.isPublic (endpoint : Endpoint) : Bool :=
  endpoint.publicOptions.isSome

/-- `isLocalNetworkOnlyEndpoint` -/
def Endpoint.isLocalOnly (endpoint : Endpoint) : Bool :=
  endpoint.publicOptions.any (·.localOnly)

/-- The roles that `RolesGuard` finds. -/
def Endpoint.requiredRoles (endpoint : Endpoint) : Option (List UserRole) :=
  endpoint.handlerRoles.or endpoint.classRoles

/-- The user that `validate` of `JwtStrategy` makes of a stored one. -/
def authenticatedUser (user : User) : AuthenticatedUser :=
  ⟨user.externalId, user.email, user.role⟩

/-- Whether the role of a user opens an endpoint. -/
def Endpoint.opensFor (endpoint : Endpoint) (role : Option UserRole) : Bool :=
  role = some .admin ||
    endpoint.requiredRoles.any fun roles => role.any fun role => roles.contains role

section

variable [SessionCalls] [AuthConfig]

/-- `isProdEnv` -/
def isProdEnv : Bool :=
  AuthConfig.nodeEnv = some "prod"

/-- `isAuthEnabled` -/
def isAuthEnabled : Bool :=
  isProdEnv || AuthConfig.enableLocalAuth = some "true"

/-- `isLocalAddress` -/
def isLocalAddress (ip : Option String) : Bool :=
  match ip with
  | none => false
  | some ip =>
      trim ip ≠ "" && (SessionCalls.ipRange (trim ip)).any fun range => localIpRanges.contains range

/-- `canActivate` of `LocalNetworkGuard` -/
def localNetworkGuard (endpoint : Endpoint) (request : RequestContext) : Except AuthRefusal Unit :=
  if !request.isHttp || !endpoint.isLocalOnly ||
      isLocalAddress (request.ip.or request.remoteAddress) then .ok ()
  else .error (.forbidden "This endpoint is only accessible from the local network")

/-- `JwtStrategy`: the token is verified, and `validate` loads its user. -/
def jwtStrategy (users : UserStore) (now : Nat) (request : RequestContext) :
    Except AuthRefusal AuthenticatedUser :=
  match request.authorization.bind SessionCalls.bearerToken with
  | none => .error .unauthorized
  | some token =>
      match SessionCalls.jwt.verify now AuthConfig.jwtSecret token with
      | none => .error .unauthorized
      | some payload =>
          match findByExternalId users payload.subject with
          | none => .error .unauthorized
          | some user => .ok (authenticatedUser user)

/-- `canActivate` of `JwtAuthGuard`, with the user that it leaves in the request. -/
def jwtAuthGuard (users : UserStore) (now : Nat) (endpoint : Endpoint) (request : RequestContext) :
    Except AuthRefusal (Option AuthenticatedUser) :=
  if !request.isHttp || endpoint.isPublic || !isAuthEnabled then .ok none
  else (jwtStrategy users now request).map some

/-- `canActivate` of `RolesGuard` -/
def rolesGuard (endpoint : Endpoint) (request : RequestContext) (user : Option AuthenticatedUser) :
    Except AuthRefusal Unit :=
  if !request.isHttp || endpoint.isPublic || !isAuthEnabled then .ok ()
  else
    match user with
    | none => .error (.forbidden "Forbidden")
    | some user =>
        if endpoint.opensFor user.role then .ok () else .error (.forbidden "Forbidden")

/-- The three guards of a request. It reaches its handler with a user, or without one. -/
def guards (users : UserStore) (now : Nat) (endpoint : Endpoint) (request : RequestContext) :
    Except AuthRefusal (Option AuthenticatedUser) := do
  localNetworkGuard endpoint request
  let user ← jwtAuthGuard users now endpoint request
  rolesGuard endpoint request user
  return user

/-! ## Who passes -/

variable {users : UserStore} {now : Nat} {endpoint : Endpoint} {request : RequestContext}
  {authUser : AuthenticatedUser}

/-- A request to this endpoint needs a token. -/
def IsProtected (endpoint : Endpoint) (request : RequestContext) : Prop :=
  request.isHttp = true ∧ endpoint.isPublic = false ∧ isAuthEnabled = true

/-- The token of a request. -/
def RequestContext.token (request : RequestContext) : Option String :=
  request.authorization.bind SessionCalls.bearerToken

theorem jwt_strategy_ok_iff :
    jwtStrategy users now request = .ok authUser ↔
      ∃ token payload user, request.token = some token ∧
        SessionCalls.jwt.verify now AuthConfig.jwtSecret token = some payload ∧
        user ∈ users ∧ user.externalId = payload.subject ∧ authUser = authenticatedUser user := by
  unfold jwtStrategy
  rw [← RequestContext.token]
  constructor
  · intro h
    split at h
    · cases h
    · rename_i token htoken
      split at h
      · cases h
      · rename_i payload hpayload
        split at h
        · cases h
        · rename_i user huser
          cases h
          obtain ⟨hmem, hid⟩ := find_by_external_id_iff.mp huser
          exact ⟨token, payload, user, htoken, hpayload, hmem, hid, rfl⟩
  · rintro ⟨token, payload, user, htoken, hpayload, huser, hid, rfl⟩
    have hfound : findByExternalId users payload.subject = some user :=
      Collection.find_of_mem external_id_key_mem huser (congrArg some hid)
    rw [htoken]
    dsimp only
    rw [hpayload]
    dsimp only
    rw [hfound]

omit [SessionCalls] in
/-- The two tests that open an endpoint without a token. -/
theorem is_open_iff :
    (!request.isHttp || endpoint.isPublic || !isAuthEnabled) = true ↔
      ¬ IsProtected endpoint request := by
  unfold IsProtected
  cases request.isHttp <;> cases endpoint.isPublic <;> cases isAuthEnabled <;> decide

omit [SessionCalls] [AuthConfig] in
/-- Only public endpoints are restricted to the local network. -/
theorem public_of_local_only (h : endpoint.isLocalOnly = true) : endpoint.isPublic = true := by
  unfold Endpoint.isLocalOnly at h
  unfold Endpoint.isPublic
  cases hoptions : endpoint.publicOptions with
  | none =>
      rw [hoptions] at h
      cases h
  | some options => rfl

omit [AuthConfig] in
theorem local_network_guard_ok_iff :
    localNetworkGuard endpoint request = .ok () ↔
      (request.isHttp = true → endpoint.isLocalOnly = true →
        isLocalAddress (request.ip.or request.remoteAddress) = true) := by
  unfold localNetworkGuard
  cases request.isHttp <;> cases endpoint.isLocalOnly <;>
    cases isLocalAddress (request.ip.or request.remoteAddress) <;> simp

/-- The user that `JwtAuthGuard` leaves in a request. -/
theorem jwt_auth_guard_ok_iff {found : Option AuthenticatedUser} :
    jwtAuthGuard users now endpoint request = .ok found ↔
      (¬ IsProtected endpoint request ∧ found = none) ∨
        (IsProtected endpoint request ∧ ∃ authUser,
          jwtStrategy users now request = .ok authUser ∧ found = some authUser) := by
  unfold jwtAuthGuard
  split
  · rename_i hopen
    have hunprotected := is_open_iff.mp hopen
    simp only [hunprotected, not_false_eq_true, true_and, false_and, or_false, Except.ok.injEq]
    exact eq_comm
  · rename_i hclosed
    have hprotected := not_not.mp (mt is_open_iff.mpr hclosed)
    simp only [hprotected, not_true_eq_false, false_and, true_and, false_or]
    cases jwtStrategy users now request with
    | error refusal => exact iff_of_false nofun fun ⟨_, h, _⟩ => nomatch h
    | ok authUser =>
        simp only [Except.map, Except.ok.injEq, exists_eq_left']
        exact eq_comm

omit [SessionCalls] in
/-- A user passes `RolesGuard` if the endpoint is open, or opens for the role. -/
theorem roles_guard_ok_iff {found : Option AuthenticatedUser} :
    rolesGuard endpoint request found = .ok () ↔
      (IsProtected endpoint request →
        ∃ authUser, found = some authUser ∧ endpoint.opensFor authUser.role = true) := by
  unfold rolesGuard
  split
  · rename_i hopen
    exact iff_of_true rfl fun hprotected => absurd hprotected (is_open_iff.mp hopen)
  · rename_i hclosed
    have hprotected := not_not.mp (mt is_open_iff.mpr hclosed)
    cases found with
    | none => simp [hprotected]
    | some authUser => simp [hprotected]

/-- Who reaches a handler: everybody if the endpoint needs no token, and otherwise the user of the
token of the request, if the role of the user opens the endpoint. -/
theorem guards_ok_iff {found : Option AuthenticatedUser} :
    guards users now endpoint request = .ok found ↔
      localNetworkGuard endpoint request = .ok () ∧
        (¬ IsProtected endpoint request ∧ found = none ∨
          IsProtected endpoint request ∧ ∃ authUser, found = some authUser ∧
            jwtStrategy users now request = .ok authUser ∧
            endpoint.opensFor authUser.role = true) := by
  unfold guards
  rw [bind_ok_iff]
  constructor
  · rintro ⟨_, hlocal, h⟩
    obtain ⟨user, huser, h⟩ := bind_ok_iff.mp h
    obtain ⟨_, hroles, h⟩ := bind_ok_iff.mp h
    cases h
    refine ⟨hlocal, ?_⟩
    rcases jwt_auth_guard_ok_iff.mp huser with ⟨hopen, rfl⟩ | ⟨hprotected, authUser, hok, rfl⟩
    · exact .inl ⟨hopen, rfl⟩
    · obtain ⟨_, hsame, hrole⟩ := roles_guard_ok_iff.mp hroles hprotected
      cases hsame
      exact .inr ⟨hprotected, authUser, rfl, hok, hrole⟩
  · rintro ⟨hlocal, h⟩
    have huser : jwtAuthGuard users now endpoint request = .ok found := by
      rw [jwt_auth_guard_ok_iff]
      rcases h with hopen | ⟨hprotected, authUser, rfl, hok, -⟩
      · exact .inl hopen
      · exact .inr ⟨hprotected, authUser, hok, rfl⟩
    have hroles : rolesGuard endpoint request found = .ok () := by
      rw [roles_guard_ok_iff]
      rcases h with ⟨hopen, -⟩ | ⟨-, authUser, hfound, -, hrole⟩
      · exact fun hprotected => absurd hprotected hopen
      · exact fun _ => ⟨authUser, hfound, hrole⟩
    refine ⟨(), hlocal, bind_ok_iff.mpr ⟨found, huser, bind_ok_iff.mpr ⟨(), hroles, rfl⟩⟩⟩

end

end MyHomeHub.AuthService
