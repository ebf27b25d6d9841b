import MyHomeHub.Auth.Identities
import MyHomeHub.Auth.Sessions

/-!
# What session tokens open

A request with a token that was not forged reaches a protected handler exactly if the token was
signed as an access token, is in time, and its user is stored then with a role that opens the
endpoint (`requests_descend_from_logins`). A refresh token in time gets its user two new tokens,
whatever has become of the password (`refresh_alone`).
-/

namespace MyHomeHub.AuthService

open JavaScript Library UsersService RegistrationRequests

section

variable [LetterCase] [AuthCalls] [SessionCalls] [AuthConfig]

variable {users : UserStore} {user : User} {grant : Grant} {s : SessionSystem} {call : Nat}

/-! ## Requests -/

/-- A token opens an endpoint for a user who is stored. -/
structure Opens (s : SessionSystem) (endpoint : Endpoint) (token : IssuedToken)
    (authUser : AuthenticatedUser) : Prop where
  secret : token.signed.secret = AuthConfig.jwtSecret
  unexpired : s.now < token.signed.claims.expiresAt
  stored : ∃ user ∈ s.users, user.externalId = token.user.externalId ∧
    authUser = authenticatedUser user
  role : endpoint.opensFor authUser.role = true

/-- The strategy accepts the issued tokens of the access secret, for the user as stored now. -/
theorem jwt_strategy_iff_issued (laws : SessionCalls.jwt.Lawful) (hinvariant : SessionInvariant s)
    {request : RequestContext} (hunforged : ∀ token, request.token = some token →
      s.IsUnforged token) {authUser : AuthenticatedUser} :
    jwtStrategy s.users s.now request = .ok authUser ↔
      ∃ token ∈ s.issued, request.token = some (SessionCalls.jwt.text token.signed) ∧
        token.signed.secret = AuthConfig.jwtSecret ∧ s.now < token.signed.claims.expiresAt ∧
        ∃ user ∈ s.users, user.externalId = token.user.externalId ∧
          authUser = authenticatedUser user := by
  rw [jwt_strategy_ok_iff]
  constructor
  · rintro ⟨text, payload, user, htoken, hverified, huser, hid, rfl⟩
    obtain ⟨hissued, htext, hnow⟩ := (laws.verify_iff (hunforged text htoken)).mp hverified
    obtain ⟨token, hmem, hsigned⟩ := List.mem_map.mp hissued
    have hsubject := (hinvariant.signed token hmem).subject
    rw [hsigned] at hsubject
    refine ⟨token, hmem, ?_, ?_, ?_, user, huser, hid.trans hsubject, rfl⟩
    · rw [htoken, hsigned, htext]
    · rw [hsigned]
    · rw [hsigned]
      exact hnow
  · rintro ⟨token, hmem, htoken, hsecret, hnow, user, huser, hid, rfl⟩
    have hsigned : token.signed = ⟨AuthConfig.jwtSecret, token.signed.claims⟩ := by
      rw [← hsecret]
    refine ⟨_, token.signed.claims, user, htoken, ?_, huser,
      hid.trans (hinvariant.signed token hmem).subject.symm, rfl⟩
    rw [laws.verify_iff (hunforged _ htoken), ← hsigned]
    exact ⟨List.mem_map_of_mem hmem, rfl, hnow⟩

/-- However the calls overlap and whoever writes users: a request with a token that was not forged
reaches a protected handler exactly if the token was signed with the access secret, has not expired,
and its user is stored now with a role that opens the endpoint. Every signed token goes back to a
login of its user, and a token that passes is an access token if the two secrets differ. -/
theorem requests_descend_from_logins (laws : SessionCalls.jwt.Lawful) {now : Nat}
    (hrun : Reaches SessionStep PresentsUnforged (noSessions users now) s) {endpoint : Endpoint}
    {request : RequestContext} (hprotected : IsProtected endpoint request)
    (hunforged : ∀ token, request.token = some token → s.IsUnforged token)
    (found : Option AuthenticatedUser) :
    (guards s.users s.now endpoint request = .ok found ↔
      ∃ token ∈ s.issued, request.token = some (SessionCalls.jwt.text token.signed) ∧
        ∃ authUser, found = some authUser ∧ Opens s endpoint token authUser) ∧
    ∀ token ∈ s.issued, IsSigned s.now token ∧ Descends s.issued token.user token.grant ∧
      (AuthConfig.jwtSecret ≠ AuthConfig.jwtRefreshSecret →
        token.signed.secret = AuthConfig.jwtSecret → token.kind = .access) := by
  have hinvariant := session_invariant_of_run laws hrun
  constructor
  · have hlocal : localNetworkGuard endpoint request = .ok () := by
      rw [local_network_guard_ok_iff]
      intro _ hlocalOnly
      have hopen := public_of_local_only hlocalOnly
      rw [hprotected.2.1] at hopen
      cases hopen
    rw [guards_ok_iff]
    simp only [hlocal, hprotected, not_true_eq_false, false_and, true_and, false_or,
      jwt_strategy_iff_issued laws hinvariant hunforged]
    constructor
    · rintro ⟨authUser, rfl, ⟨token, hmem, htoken, hsecret, hnow, hstored⟩, hrole⟩
      exact ⟨token, hmem, htoken, authUser, rfl, hsecret, hnow, hstored, hrole⟩
    · rintro ⟨token, hmem, htoken, authUser, rfl, hopens⟩
      exact ⟨authUser, rfl, ⟨token, hmem, htoken, hopens.secret, hopens.unexpired, hopens.stored⟩,
        hopens.role⟩
  · intro token hmem
    refine ⟨hinvariant.signed token hmem, hinvariant.descends token hmem, fun hdiffer hsecret => ?_⟩
    have hkind := (hinvariant.signed token hmem).secret
    cases hcase : token.kind with
    | access => rfl
    | refresh =>
        rw [hcase] at hkind
        exact absurd (hsecret.symm.trans hkind) hdiffer

/-! ## A refresh that goes on alone -/

/-- The system after a step of a call. -/
def SessionSystem.advanced (s : SessionSystem) (call : Nat) (requests : RequestStore)
    (externalId : String) : SessionSystem :=
  let outcome := s.next requests externalId (s.calls call)
  { s with
    users := outcome.users
    calls := Function.update s.calls call outcome.control
    issued := outcome.signed ++ s.issued }

/-- Some steps of a call while no other call proceeds. -/
def SessionSystem.alone (call : Nat) (requests : RequestStore) (externalId : String) :
    Nat → SessionSystem → SessionSystem
  | 0, s => s
  | n + 1, s => alone call requests externalId n (s.advanced call requests externalId)

variable {requests : RequestStore} {externalId : String}

theorem steps_alone (n : Nat) : (List.replicate n (.advance call requests externalId)).foldlM
    SessionSystem.step s = some (s.alone call requests externalId n) := by
  induction n generalizing s with
  | zero => rfl
  | succ n ih =>
      rw [List.replicate_succ, List.foldlM_cons]
      exact ih

omit [AuthCalls] in
/-- A call that has ended does nothing. -/
theorem alone_finished (hended : s.calls call = .finished) (n : Nat) :
    s.alone call requests externalId n = s := by
  induction n with
  | zero => rfl
  | succ n ih =>
      have hstay : s.advanced call requests externalId = s := by
        rw [SessionSystem.advanced, hended, SessionSystem.next]
        dsimp only
        rw [← hended, Function.update_eq_self]
        rfl
      rw [SessionSystem.alone, hstay, ih]

/-- The tokens of a user that are signed at a time. -/
def tokensAt (now accessTimeout refreshTimeout : Nat) (user : User) (grant : Grant) :
    List IssuedToken :=
  [⟨⟨AuthConfig.jwtRefreshSecret, user.externalId, now, now + refreshTimeout⟩, .refresh, user,
      grant⟩,
    ⟨⟨AuthConfig.jwtSecret, user.externalId, now, now + accessTimeout⟩, .access, user, grant⟩]

/-- A refresh token is good for a user: it was signed for the user as a refresh token, and it has
not expired. -/
def Refreshes (s : SessionSystem) (refreshToken : String) (user : User) : Prop :=
  ∃ token ∈ s.issued, SessionCalls.jwt.text token.signed = refreshToken ∧
    token.signed.secret = AuthConfig.jwtRefreshSecret ∧ s.now < token.signed.claims.expiresAt ∧
    user.externalId = token.user.externalId

theorem refreshes_iff (laws : SessionCalls.jwt.Lawful) (hinvariant : SessionInvariant s)
    {refreshToken : String} (hunforged : s.IsUnforged refreshToken) :
    Refreshes s refreshToken user ↔ ∃ payload,
      SessionCalls.jwt.verify s.now AuthConfig.jwtRefreshSecret refreshToken = some payload ∧
        user.externalId = payload.subject := by
  constructor
  · rintro ⟨token, hmem, rfl, hsecret, hnow, hid⟩
    have hsigned : token.signed = ⟨AuthConfig.jwtRefreshSecret, token.signed.claims⟩ := by
      rw [← hsecret]
    refine ⟨token.signed.claims, ?_, hid.trans (hinvariant.signed token hmem).subject.symm⟩
    rw [laws.verify_iff hunforged, ← hsigned]
    exact ⟨List.mem_map_of_mem hmem, rfl, hnow⟩
  · rintro ⟨payload, hverified, hid⟩
    obtain ⟨hissued, rfl, hnow⟩ := (laws.verify_iff hunforged).mp hverified
    obtain ⟨token, hmem, hsigned⟩ := List.mem_map.mp hissued
    have hsubject := (hinvariant.signed token hmem).subject
    rw [hsigned] at hsubject
    refine ⟨token, hmem, by rw [hsigned], by rw [hsigned], ?_, hid.trans hsubject⟩
    rw [hsigned]
    exact hnow

omit [AuthCalls] in
/-- `generateTokens` without overlap. -/
theorem generate_tokens_alone {accessTimeout refreshTimeout : Nat}
    (haccess : AuthConfig.jwtExpTimeout = some accessTimeout)
    (hrefresh : AuthConfig.jwtRefreshExpTimeout = some refreshTimeout)
    (hcall : s.calls call = .signAccess user grant) :
    (s.alone call requests externalId 2).calls call = .finished ∧
      (s.alone call requests externalId 2).users = s.users ∧
      (s.alone call requests externalId 2).issued =
        tokensAt s.now accessTimeout refreshTimeout user grant ++ s.issued := by
  have hfirst : s.next requests externalId (s.calls call) = ⟨s.users, .signRefresh user grant,
      [⟨⟨AuthConfig.jwtSecret, user.externalId, s.now, s.now + accessTimeout⟩, .access, user,
        grant⟩]⟩ := by
    rw [hcall, SessionSystem.next, signAsync, TokenKind.timeout, haccess]
    rfl
  rw [SessionSystem.alone, SessionSystem.advanced, hfirst, SessionSystem.alone,
    SessionSystem.advanced]
  dsimp only
  rw [Function.update_self, SessionSystem.next, signAsync, TokenKind.timeout, hrefresh]
  exact ⟨Function.update_self .., rfl, rfl⟩

omit [AuthCalls] in
/-- A call that ends in its next step leaves no token. -/
theorem alone_of_silent {n : Nat}
    (h : s.next requests externalId (s.calls call) = ⟨s.users, .finished, []⟩) :
    (s.alone call requests externalId (n + 1)).calls call = .finished ∧
      (s.alone call requests externalId (n + 1)).users = s.users ∧
      (s.alone call requests externalId (n + 1)).issued = s.issued := by
  have hended : (s.advanced call requests externalId).calls call = .finished := by
    rw [SessionSystem.advanced, h]
    exact Function.update_self ..
  rw [SessionSystem.alone, alone_finished hended]
  refine ⟨hended, ?_, ?_⟩
  all_goals rw [SessionSystem.advanced, h]
  rfl

/-- Whatever the other calls have done, also to the password of the user: a refresh that goes on
alone signs two new tokens for the user of its token, if the token is good and the user is stored,
and none if not. -/
theorem refresh_alone (laws : SessionCalls.jwt.Lawful) {accessTimeout refreshTimeout : Nat}
    (haccess : AuthConfig.jwtExpTimeout = some accessTimeout)
    (hrefresh : AuthConfig.jwtRefreshExpTimeout = some refreshTimeout) {now : Nat}
    (hrun : Reaches SessionStep PresentsUnforged (noSessions users now) s) {refreshToken : String}
    (hcall : s.calls call = .refreshToken refreshToken) :
    (s.alone call requests externalId 4).calls call = .finished ∧
      (s.alone call requests externalId 4).users = s.users ∧
      ((∃ user ∈ s.users, Refreshes s refreshToken user ∧
          (s.alone call requests externalId 4).issued =
            tokensAt s.now accessTimeout refreshTimeout user (.refresh refreshToken s.now) ++
              s.issued) ∨
        (∀ user ∈ s.users, ¬ Refreshes s refreshToken user) ∧
          (s.alone call requests externalId 4).issued = s.issued) := by
  have hinvariant := session_invariant_of_run laws hrun
  have hunforged : SessionSound s (.refreshToken refreshToken) := hcall ▸ hinvariant.calls call
  have hrefreshes := fun user => @refreshes_iff _ _ _ _ user s laws hinvariant _ hunforged
  cases hverified : SessionCalls.jwt.verify s.now AuthConfig.jwtRefreshSecret refreshToken with
  | none =>
      obtain ⟨hended, husers, hissued⟩ := @alone_of_silent _ _ _ s call requests externalId 3 (by
        rw [hcall, SessionSystem.next, hverified])
      refine ⟨hended, husers, .inr ⟨fun user _ hgood => ?_, hissued⟩⟩
      obtain ⟨payload, hpayload, -⟩ := (hrefreshes user).mp hgood
      exact nomatch hverified.symm.trans hpayload
  | some payload =>
      -- the state in which the call reads the user
      have hread : (s.advanced call requests externalId).calls call =
          .findByExternalId payload.subject (.refresh refreshToken s.now) := by
        rw [SessionSystem.advanced, hcall, SessionSystem.next, hverified]
        exact Function.update_self ..
      have hsame : (s.advanced call requests externalId).users = s.users ∧
          (s.advanced call requests externalId).issued = s.issued ∧
          (s.advanced call requests externalId).now = s.now := by
        rw [SessionSystem.advanced, hcall, SessionSystem.next, hverified]
        exact ⟨rfl, rfl, rfl⟩
      rw [SessionSystem.alone]
      generalize s.advanced call requests externalId = middle at hread hsame
      obtain ⟨husers, hissued, hnow⟩ := hsame
      cases hfound : findByExternalId s.users payload.subject with
      | none =>
          obtain ⟨hended, husers', hissued'⟩ := @alone_of_silent _ _ _ middle call requests
            externalId 2 (by rw [hread, SessionSystem.next, husers, hfound])
          refine ⟨hended, husers'.trans husers, .inr ⟨fun user huser hgood => ?_,
            hissued'.trans hissued⟩⟩
          obtain ⟨payload', hpayload, hid⟩ := (hrefreshes user).mp hgood
          cases hverified.symm.trans hpayload
          exact nomatch hfound.symm.trans
            (Collection.find_of_mem UsersService.external_id_key_mem huser (congrArg some hid))
      | some user =>
          obtain ⟨huser, hid⟩ := find_by_external_id_iff.mp hfound
          have hnext : middle.next requests externalId (middle.calls call) =
              ⟨s.users, .signAccess user (.refresh refreshToken s.now), []⟩ := by
            rw [hread, SessionSystem.next, husers, hfound]
          rw [SessionSystem.alone, SessionSystem.advanced, hnext]
          obtain ⟨hended, husers', hissued'⟩ := @generate_tokens_alone _ _ _ user
            (.refresh refreshToken s.now) { middle with
              users := s.users
              calls := Function.update middle.calls call
                (.signAccess user (.refresh refreshToken s.now)) } call requests externalId _ _
            haccess hrefresh (Function.update_self ..)
          have hgood := (hrefreshes user).mpr ⟨payload, hverified, hid⟩
          refine ⟨hended, husers', .inl ⟨user, huser, hgood, ?_⟩⟩
          refine hissued'.trans ?_
          dsimp only
          rw [hissued, hnow]

end

/-! ## A session of the owner -/

/-- A number, written with as many ones. -/
def unary (n : Nat) : List Char :=
  List.replicate n '1' ++ ['.']

/-- The number at the front of a text, and the rest. -/
def readUnary (chars : List Char) : Nat × List Char :=
  ((chars.takeWhile (· = '1')).length, (chars.dropWhile (· = '1')).tail)

theorem read_unary (n : Nat) (rest : List Char) : readUnary (unary n ++ rest) = (n, rest) := by
  simp [readUnary, unary]

/-- A signer whose texts hold the secret and the claims as they are. -/
def plainSigner : Signer String (Claims String) String where
  sign secret claims := String.ofList (unary secret.toList.length ++ (secret.toList ++
    (unary claims.issuedAt ++ (unary claims.expiresAt ++ claims.subject.toList))))
  check secret text :=
    let (n, rest) := readUnary text.toList
    if rest.take n = secret.toList then
      let (issuedAt, rest) := readUnary (rest.drop n)
      let (expiresAt, rest) := readUnary rest
      some ⟨String.ofList rest, issuedAt, expiresAt⟩
    else none

theorem plain_signer_check (secret other : String) (claims : Claims String) :
    plainSigner.check other (plainSigner.sign secret claims) =
      if secret = other then some claims else none := by
  have hsecret : secret.toList = other.toList ↔ secret = other := String.toList_inj
  simp [plainSigner, read_unary, hsecret]

theorem plain_signer_lawful : plainSigner.Lawful where
  check_sign secret claims := by rw [plain_signer_check, if_pos rfl]
  check_other secret other claims hne := by rw [plain_signer_check, if_neg hne]

/-- Calls that know the password of the owner. -/
@[reducible] def ownerCalls : SessionCalls where
  jwt := plainSigner
  argon2Verify hash password := hash = ownerHash && password = "secret"
  bearerToken header :=
    if header.toList.take 7 = "Bearer ".toList then some (String.ofList (header.toList.drop 7))
    else none
  ipRange ip := if ip = "192.168.1.20" then some "private" else none

/-- Access tokens are good for a minute and refresh tokens for an hour. -/
@[reducible] def minuteAndHour : AuthConfig where
  nodeEnv := some "prod"
  enableLocalAuth := none
  jwtSecret := "access"
  jwtRefreshSecret := "refresh"
  jwtExpTimeout := some 60
  jwtRefreshExpTimeout := some 3600

/-- The owner is stored. -/
def ownerStore : UserStore :=
  ⟨[owner], List.pairwise_singleton _ _⟩

/-- The text of a token of the owner that was signed at the start. -/
def ownerToken (secret : String) (expiresAt : Nat) : String :=
  plainSigner.sign secret ⟨ownerId, 0, expiresAt⟩

/-- The owner logs in, and presents the refresh token half a minute later. -/
def loginAndRefresh : List SessionAction :=
  [.login 0 "owner@example.com" "secret", .advance 0 .empty "", .advance 0 .empty "",
    .advance 0 .empty "", .wait 30, .refreshToken 1 (ownerToken "refresh" 3600)]

/-- The system after some of these actions. -/
def ownerSession (n : Nat) : SessionSystem :=
  ((loginAndRefresh.take n).foldlM (@SessionSystem.step .ascii tokenCalls ownerCalls minuteAndHour)
    (noSessions ownerStore 0)).getD (noSessions ownerStore 0)

/-- The tokens that the login has signed. -/
theorem owner_session_issued : (ownerSession 5).issued =
    @tokensAt minuteAndHour 0 60 3600 owner (.password "secret") := by
  rfl

theorem owner_session_step (n : Nat) (action : SessionAction)
    (hrun : Reaches (@SessionStep .ascii tokenCalls ownerCalls minuteAndHour)
      (@PresentsUnforged ownerCalls) (noSessions ownerStore 0) (ownerSession n))
    (hallowed : @PresentsUnforged ownerCalls (ownerSession n) action)
    (hstep : @SessionSystem.step .ascii tokenCalls ownerCalls minuteAndHour (ownerSession n)
      action = some (ownerSession (n + 1))) :
    Reaches (@SessionStep .ascii tokenCalls ownerCalls minuteAndHour)
      (@PresentsUnforged ownerCalls) (noSessions ownerStore 0) (ownerSession (n + 1)) :=
  hrun.tail ⟨action, hallowed, hstep⟩

theorem owner_logged_in : Reaches (@SessionStep .ascii tokenCalls ownerCalls minuteAndHour)
    (@PresentsUnforged ownerCalls) (noSessions ownerStore 0) (ownerSession 5) := by
  have hlogin := owner_session_step 0 (.login 0 "owner@example.com" "secret") .refl trivial rfl
  have hread := owner_session_step 1 (.advance 0 .empty "") hlogin trivial rfl
  have haccess := owner_session_step 2 (.advance 0 .empty "") hread trivial rfl
  have hrefresh := owner_session_step 3 (.advance 0 .empty "") haccess trivial rfl
  exact owner_session_step 4 (.wait 30) hrefresh trivial rfl

/-- The tokens of the owner were not forged. -/
theorem owner_token_unforged {secret : String} {expiresAt : Nat}
    (h : ⟨secret, ownerId, 0, expiresAt⟩ ∈ (ownerSession 5).issued.map (·.signed)) :
    @SessionSystem.IsUnforged ownerCalls (ownerSession 5) (ownerToken secret expiresAt) :=
  fun _ _ _ => ⟨⟨secret, ownerId, 0, expiresAt⟩, h, rfl⟩

theorem owner_refreshing : Reaches (@SessionStep .ascii tokenCalls ownerCalls minuteAndHour)
    (@PresentsUnforged ownerCalls) (noSessions ownerStore 0) (ownerSession 6) := by
  refine owner_session_step 5 (.refreshToken 1 (ownerToken "refresh" 3600)) owner_logged_in ?_ rfl
  exact owner_token_unforged (by rw [owner_session_issued]; exact List.mem_cons_self)

/-- An endpoint for admins, and a request to it with the access token of the owner. -/
def ownerRequest : RequestContext where
  isHttp := true
  ip := some "203.0.113.7"
  remoteAddress := none
  authorization := some ("Bearer " ++ ownerToken "access" 60)

theorem owner_bearer_token (token : String) :
    ownerCalls.bearerToken ("Bearer " ++ token) = some token := by
  have hfront : "Bearer ".toList = ['B', 'e', 'a', 'r', 'e', 'r', ' '] := by
    decide
  show (if ("Bearer " ++ token).toList.take 7 = "Bearer ".toList then
    some (String.ofList (("Bearer " ++ token).toList.drop 7)) else none) = some token
  rw [String.toList_append, hfront]
  simp

theorem owner_request_token : @RequestContext.token ownerCalls ownerRequest =
    some (ownerToken "access" 60) :=
  owner_bearer_token (ownerToken "access" 60)

theorem requests_descend_from_logins_owner :
    @guards ownerCalls minuteAndHour (ownerSession 5).users (ownerSession 5).now
      ⟨none, none, none, none⟩ ownerRequest = .ok (some (authenticatedUser owner)) := by
  have hissued : (⟨"access", ownerId, 0, 60⟩ : Signed String String) ∈
      (ownerSession 5).issued.map (·.signed) := by
    rw [owner_session_issued]
    decide +kernel
  obtain ⟨token, hmem, hsigned⟩ := List.mem_map.mp hissued
  refine ((@requests_descend_from_logins .ascii tokenCalls ownerCalls minuteAndHour ownerStore
    (ownerSession 5) plain_signer_lawful 0 owner_logged_in ⟨none, none, none, none⟩ ownerRequest
    ⟨rfl, rfl, by decide +kernel⟩ ?_ (some (authenticatedUser owner))).1).mpr ?_
  · intro text htext
    obtain rfl : ownerToken "access" 60 = text := by
      rw [owner_request_token] at htext
      exact Option.some.inj htext
    exact owner_token_unforged hissued
  · have hid : token.user = owner := by
      rw [owner_session_issued] at hmem
      rcases List.mem_cons.mp hmem with rfl | hmem
      · rfl
      · rw [List.mem_singleton.mp hmem]
    refine ⟨token, hmem, ?_, authenticatedUser owner, rfl, @Opens.mk minuteAndHour _ _ _ _
      ?_ ?_ ⟨owner, List.mem_cons_self, ?_, rfl⟩ rfl⟩
    · rw [hsigned]
      exact owner_request_token
    · rw [hsigned]
      rfl
    · rw [hsigned]
      show (ownerSession 5).now < 60
      decide +kernel
    · rw [hid]

theorem refresh_alone_owner :
    (@SessionSystem.alone .ascii ownerCalls minuteAndHour 1 .empty "" 4 (ownerSession 6)).calls 1 =
        .finished ∧
      (@SessionSystem.alone .ascii ownerCalls minuteAndHour 1 .empty "" 4
        (ownerSession 6)).issued.length = 4 := by
  obtain ⟨hended, -, ⟨user, -, -, hissued⟩ | ⟨hnone, -⟩⟩ := @refresh_alone .ascii tokenCalls
    ownerCalls minuteAndHour ownerStore (ownerSession 6) 1 .empty "" plain_signer_lawful 60 3600 rfl
    rfl 0 owner_refreshing (ownerToken "refresh" 3600) rfl
  · refine ⟨hended, ?_⟩
    rw [hissued]
    rfl
  · exact absurd (⟨_, List.mem_cons_self, rfl, rfl, by decide +kernel, rfl⟩ :
      @Refreshes ownerCalls minuteAndHour (ownerSession 6) (ownerToken "refresh" 3600) owner)
      (hnone owner List.mem_cons_self)

end MyHomeHub.AuthService
