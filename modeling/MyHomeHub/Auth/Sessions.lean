import MyHomeHub.Auth.Guards
import MyHomeHub.Library.Runs

/-!
# Sessions

A login checks a password or the ID token of a Google account, and a refresh checks a refresh
token. All three end in `generateTokens`, which signs an access token and a refresh token. The
calls overlap with each other and with whatever else writes users, time passes between their
steps, and anybody may present any text as a token.

Every signed token descends from a login (`Descends`): from one refresh to the one before, each
with a token that had not expired.

`resolveUserByGoogleEmail` takes one step here; how its reads and writes overlap with others is
followed in the `AuthSystem`.
-/

namespace MyHomeHub.AuthService

open JavaScript Library UsersService RegistrationRequests

/-! ## Calls in flight -/

/-- The tokens that `generateTokens` signs. -/
inductive TokenKind where
  | access
  | refresh
  deriving DecidableEq, Repr

/-- What a call has checked before it generates tokens. -/
inductive Grant where
  | password (password : String)
  | google (profile : GoogleProfile)
  | refresh (refreshToken : String) (verifiedAt : Nat)
  deriving DecidableEq, Repr

/-- A token that was signed, with the user and the check of the call that has signed it. -/
structure IssuedToken where
  signed : Signed String String
  kind : TokenKind
  user : User
  grant : Grant
  deriving DecidableEq, Repr

/-- Where a call is, with the values it has read. -/
inductive SessionControl where
  /-- The read of `login`, and the check of the password. -/
  | login (email password : String)
  /-- The check of `refreshToken`. -/
  | refreshToken (refreshToken : String)
  /-- The read of `refreshToken`. -/
  | findByExternalId (externalId : String) (grant : Grant)
  | resolveUserByGoogleEmail (profile : GoogleProfile)
  /-- The first signature of `generateTokens`. -/
  | signAccess (user : User) (grant : Grant)
  /-- The second signature of `generateTokens`. -/
  | signRefresh (user : User) (grant : Grant)
  | finished
  deriving DecidableEq, Repr

/-- The users, the clock in seconds and the calls in flight. The last field is history, which no
step reads. -/
structure SessionSystem where
  users : UserStore
  now : Nat
  calls : Nat → SessionControl
  issued : List IssuedToken

/-- No token was signed, and no call is in flight. -/
def noSessions (users : UserStore) (now : Nat) : SessionSystem :=
  ⟨users, now, fun _ => .finished, []⟩

/-- What happens in a step. With a step of a call come the stored registration requests and the
external id of a new user, if the step needs them. -/
inductive SessionAction where
  | wait (duration : Nat)
  /-- Another call has written users. -/
  | write (users : UserStore)
  | login (call : Nat) (email password : String)
  | loginWithGoogle (call : Nat) (idToken : String)
  | refreshToken (call : Nat) (refreshToken : String)
  | advance (call : Nat) (requests : RequestStore) (externalId : String)

section

variable [LetterCase] [AuthCalls] [SessionCalls] [AuthConfig]

/-- `login` up to the tokens of the user. -/
def checkLogin (users : UserStore) (email password : String) : Except AuthRefusal User :=
  match findByEmail users email with
  | none => .error .unauthorized
  | some user =>
      if isSet user.googleIdHash && !isSet user.password then
        .error (.badRequest
          "You do not have a password set up yet. Please use Google login.")
      else if isSet user.password &&
          SessionCalls.argon2Verify (user.password.getD "") password then .ok user
      else .error .unauthorized

/-- The secret of a kind of tokens. -/
def TokenKind.secret : TokenKind → String
  | .access => AuthConfig.jwtSecret
  | .refresh => AuthConfig.jwtRefreshSecret

/-- The lifetime of a kind of tokens. -/
def TokenKind.timeout : TokenKind → Option Nat
  | .access => AuthConfig.jwtExpTimeout
  | .refresh => AuthConfig.jwtRefreshExpTimeout

/-- `signAsync`, which fails without a lifetime. -/
def signAsync (now : Nat) (kind : TokenKind) (user : User) :
    Except AuthRefusal (Signed String String) :=
  match kind.timeout with
  | none => .error .signFailed
  | some timeout => .ok ⟨kind.secret, user.externalId, now, now + timeout⟩

/-- What a step of a call leaves. -/
structure SessionOutcome where
  users : UserStore
  control : SessionControl
  signed : List IssuedToken

/-- The next step of a call. -/
def SessionSystem.next (s : SessionSystem) (requests : RequestStore) (externalId : String) :
    SessionControl → SessionOutcome
  | .login email password =>
      match checkLogin s.users email password with
      | .error _ => ⟨s.users, .finished, []⟩
      | .ok user => ⟨s.users, .signAccess user (.password password), []⟩
  | .refreshToken refreshToken =>
      match SessionCalls.jwt.verify s.now AuthConfig.jwtRefreshSecret refreshToken with
      | none => ⟨s.users, .finished, []⟩
      | some payload =>
          ⟨s.users, .findByExternalId payload.subject (.refresh refreshToken s.now), []⟩
  | .findByExternalId externalId grant =>
      match UsersService.findByExternalId s.users externalId with
      | none => ⟨s.users, .finished, []⟩
      | some user => ⟨s.users, .signAccess user grant, []⟩
  | .resolveUserByGoogleEmail profile =>
      match AuthService.resolveUserByGoogleEmail s.users requests externalId profile with
      | .error _ => ⟨s.users, .finished, []⟩
      | .ok (users, user) => ⟨users, .signAccess user (.google profile), []⟩
  | .signAccess user grant =>
      match signAsync s.now .access user with
      | .error _ => ⟨s.users, .finished, []⟩
      | .ok signed => ⟨s.users, .signRefresh user grant, [⟨signed, .access, user, grant⟩]⟩
  | .signRefresh user grant =>
      match signAsync s.now .refresh user with
      | .error _ => ⟨s.users, .finished, []⟩
      | .ok signed => ⟨s.users, .finished, [⟨signed, .refresh, user, grant⟩]⟩
  | .finished => ⟨s.users, .finished, []⟩

/-- A call starts, if its number is free. -/
def SessionSystem.start (s : SessionSystem) (call : Nat) (control : SessionControl) :
    Option SessionSystem :=
  if s.calls call = .finished then
    some { s with calls := Function.update s.calls call control }
  else none

/-- The system after an action, if the action can be taken. -/
def SessionSystem.step (s : SessionSystem) : SessionAction → Option SessionSystem
  | .wait duration => some { s with now := s.now + duration }
  | .write users => some { s with users := users }
  | .login call email password => s.start call (.login email password)
  | .loginWithGoogle call idToken =>
      match verifyIdToken idToken with
      | .error _ => s.start call .finished
      | .ok profile => s.start call (.resolveUserByGoogleEmail profile)
  | .refreshToken call refreshToken => s.start call (.refreshToken refreshToken)
  | .advance call requests externalId =>
      let outcome := s.next requests externalId (s.calls call)
      some { s with
        users := outcome.users
        calls := Function.update s.calls call outcome.control
        issued := outcome.signed ++ s.issued }

/-- The step relation of the system. -/
def SessionStep (s : SessionSystem) (action : SessionAction) (t : SessionSystem) : Prop :=
  s.step action = some t

/-- The text of a token was not forged. -/
def SessionSystem.IsUnforged (s : SessionSystem) (token : String) : Prop :=
  SessionCalls.jwt.IsUnforged (s.issued.map (·.signed)) token

/-- The refresh tokens that are presented were not forged. -/
def PresentsUnforged (s : SessionSystem) : SessionAction → Prop
  | .refreshToken _ refreshToken => s.IsUnforged refreshToken
  | _ => True

/-! ## Where tokens come from -/

/-- The user as loaded passes the check of a login. -/
def LogsIn (user : User) : Grant → Prop
  | .password password => ∃ hash, user.password = some hash ∧ hash ≠ "" ∧
      SessionCalls.argon2Verify hash password = true
  | .google profile => user.googleIdHash = some (trim profile.googleIdHash) ∧
      ∃ idToken, verifyIdToken idToken = .ok profile
  | .refresh _ _ => False

/-- The tokens of a call go back to a login of the user: the call is the login, or it has refreshed
a token that goes back to it, and that had not expired. -/
inductive Descends (issued : List IssuedToken) : User → Grant → Prop where
  | login {user : User} {grant : Grant} (h : LogsIn user grant) : Descends issued user grant
  | refresh {user : User} {verifiedAt : Nat} {parent : IssuedToken} (hparent : parent ∈ issued)
      (hdescends : Descends issued parent.user parent.grant)
      (hid : parent.user.externalId = user.externalId)
      (hsecret : parent.signed.secret = AuthConfig.jwtRefreshSecret)
      (hfrom : parent.signed.claims.issuedAt ≤ verifiedAt)
      (htill : verifiedAt < parent.signed.claims.expiresAt) :
      Descends issued user (.refresh (SessionCalls.jwt.text parent.signed) verifiedAt)

/-- A token is signed for its user, from now on for the lifetime of its kind. -/
structure IsSigned (now : Nat) (token : IssuedToken) : Prop where
  secret : token.signed.secret = token.kind.secret
  subject : token.signed.claims.subject = token.user.externalId
  issuedAt : token.signed.claims.issuedAt ≤ now
  expiresAt : ∃ timeout, token.kind.timeout = some timeout ∧
    token.signed.claims.expiresAt = token.signed.claims.issuedAt + timeout

/-- What is true of a call at each of its control points. -/
def SessionSound (s : SessionSystem) : SessionControl → Prop
  | .refreshToken refreshToken => s.IsUnforged refreshToken
  | .findByExternalId externalId grant =>
      ∀ user, user.externalId = externalId → Descends s.issued user grant
  | .resolveUserByGoogleEmail profile => ∃ idToken, verifyIdToken idToken = .ok profile
  | .signAccess user grant | .signRefresh user grant => Descends s.issued user grant
  | .login _ _ | .finished => True

/-- Every token is signed for its user and descends from a login, and so does every call. -/
structure SessionInvariant (s : SessionSystem) : Prop where
  signed : ∀ token ∈ s.issued, IsSigned s.now token
  descends : ∀ token ∈ s.issued, Descends s.issued token.user token.grant
  calls : ∀ call, SessionSound s (s.calls call)

/-! ## What the checks say -/

variable {users users' : UserStore} {user : User} {issued later : List IssuedToken} {grant : Grant}
  {s t : SessionSystem} {call : Nat}

omit [AuthConfig] in
theorem check_login_ok {email password : String} (h : checkLogin users email password = .ok user) :
    LogsIn user (.password password) := by
  unfold checkLogin at h
  split at h
  · cases h
  · rename_i found hfound
    split at h
    · cases h
    · split at h
      · rename_i hchecked
        cases h
        obtain ⟨hset, hverified⟩ := Bool.and_eq_true_iff.mp hchecked
        cases hpassword : user.password with
        | none =>
            rw [hpassword] at hset
            cases hset
        | some hash =>
            rw [hpassword] at hset hverified
            exact ⟨hash, hpassword, by simpa [isSet] using hset, hverified⟩
      · cases h

omit [LetterCase] [AuthCalls] [SessionCalls] [AuthConfig] in
/-- A save answers with the document in memory. -/
theorem saved_of_save {loaded saved : User} (h : UsersService.save users loaded user =
    .ok (users', saved)) : saved = user := by
  unfold UsersService.save at h
  split at h
  · cases h
  · split at h
    · cases h
      rfl
    · cases h
    · cases h

omit [LetterCase] [AuthCalls] [SessionCalls] [AuthConfig] in
theorem saved_of_save_new {saved : User}
    (h : UsersService.saveNew users user = .ok (users', saved)) : saved = user := by
  unfold UsersService.saveNew at h
  split at h
  · split at h
    · cases h
      rfl
    · cases h
  · cases h

omit [AuthCalls] [SessionCalls] [AuthConfig] in
theorem linked_google_id_hash {externalId : String} {profile : GoogleProfile}
    (h : linkGoogleAccount users externalId profile = .ok (users', user)) :
    user.googleIdHash = some (trim profile.googleIdHash) := by
  obtain ⟨loaded, -, hsave⟩ := bind_ok_iff.mp h
  rw [saved_of_save hsave]
  rfl

omit [AuthCalls] [SessionCalls] [AuthConfig] in
/-- A Google login ends with a user who has the Google account. -/
theorem resolved_google_id_hash {requests : RequestStore} {externalId : String}
    {profile : GoogleProfile}
    (h : resolveUserByGoogleEmail users requests externalId profile = .ok (users', user)) :
    user.googleIdHash = some (trim profile.googleIdHash) := by
  unfold resolveUserByGoogleEmail at h
  split at h
  · rename_i linkedUser hlinked
    cases h
    have hkey := List.find?_some hlinked
    rw [decide_eq_true_eq] at hkey
    exact hkey
  · split at h
    · split at h
      · cases h
      · exact linked_google_id_hash h
    · obtain ⟨request, -, hcreate⟩ := bind_ok_iff.mp h
      unfold UsersService.create at hcreate
      split at hcreate
      · cases hcreate
      · rw [saved_of_save_new hcreate]
        rfl

theorem Descends.mono (h : Descends issued user grant) (hlater : ∀ token ∈ issued, token ∈ later) :
    Descends later user grant := by
  induction h with
  | login hlogin => exact .login hlogin
  | refresh hparent _ hid hsecret hfrom htill ih =>
      exact .refresh (hlater _ hparent) ih hid hsecret hfrom htill

theorem SessionSound.mono {control : SessionControl} (h : SessionSound s control)
    (hlater : ∀ token ∈ s.issued, token ∈ t.issued) : SessionSound t control := by
  cases control with
  | login email password => trivial
  | refreshToken refreshToken =>
      refine Signer.IsUnforged.mono h fun signed hsigned => ?_
      obtain ⟨token, htoken, rfl⟩ := List.mem_map.mp hsigned
      exact List.mem_map_of_mem (hlater token htoken)
  | findByExternalId externalId grant => exact fun user hid => (h user hid).mono hlater
  | resolveUserByGoogleEmail profile => exact h
  | signAccess user grant | signRefresh user grant => exact Descends.mono h hlater
  | finished => trivial

omit [LetterCase] [AuthCalls] [SessionCalls] in
theorem is_signed_of_sign {now : Nat} {kind : TokenKind} {signed : Signed String String}
    (h : signAsync now kind user = .ok signed) : IsSigned now ⟨signed, kind, user, grant⟩ := by
  unfold signAsync at h
  split at h
  · cases h
  · rename_i timeout htimeout
    cases h
    exact ⟨rfl, rfl, Nat.le_refl _, timeout, htimeout, rfl⟩

/-! ## What every run keeps -/

/-- What a step of a call leaves is sound. -/
structure OutcomeSound (s : SessionSystem) (outcome : SessionOutcome) : Prop where
  control : SessionSound { s with issued := outcome.signed ++ s.issued } outcome.control
  signed : ∀ token ∈ outcome.signed, IsSigned s.now token ∧ Descends s.issued token.user token.grant

theorem OutcomeSound.silent {control : SessionControl} (h : SessionSound s control) :
    OutcomeSound s ⟨users, control, []⟩ :=
  ⟨h, fun _ hmem => nomatch hmem⟩

theorem OutcomeSound.signs {token : IssuedToken} {control : SessionControl}
    (hsigned : IsSigned s.now token) (hdescends : Descends s.issued token.user token.grant)
    (hcontrol : SessionSound { s with issued := token :: s.issued } control) :
    OutcomeSound s ⟨users, control, [token]⟩ := by
  refine ⟨hcontrol, fun other hmem => ?_⟩
  rw [List.mem_singleton.mp hmem]
  exact ⟨hsigned, hdescends⟩

/-- A refresh token that is accepted was issued, and so the call goes back to its login. -/
theorem descends_of_verify (laws : SessionCalls.jwt.Lawful) (hinvariant : SessionInvariant s)
    {refreshToken : String} (hunforged : s.IsUnforged refreshToken) {payload : Claims String}
    (h : SessionCalls.jwt.verify s.now AuthConfig.jwtRefreshSecret refreshToken = some payload)
    (hid : user.externalId = payload.subject) :
    Descends s.issued user (.refresh refreshToken s.now) := by
  obtain ⟨hissued, rfl, hnow⟩ := (laws.verify_iff hunforged).mp h
  obtain ⟨parent, hparent, hsigned⟩ := List.mem_map.mp hissued
  obtain ⟨-, hsubject, hfrom, -⟩ := hinvariant.signed parent hparent
  rw [← hsigned]
  rw [hsigned] at hsubject hfrom
  refine .refresh hparent (hinvariant.descends parent hparent) (hsubject.symm.trans hid.symm)
    ?_ ?_ ?_
  all_goals rw [hsigned]
  · exact hfrom
  · exact hnow

theorem next_sound (laws : SessionCalls.jwt.Lawful) (hinvariant : SessionInvariant s)
    {requests : RequestStore} {externalId : String} {control : SessionControl}
    (hcontrol : SessionSound s control) : OutcomeSound s (s.next requests externalId control) := by
  cases control with
  | login email password =>
      dsimp only [SessionSystem.next]
      split
      · exact .silent trivial
      · rename_i user huser
        exact .silent (.login (check_login_ok huser))
  | refreshToken refreshToken =>
      dsimp only [SessionSystem.next]
      split
      · exact .silent trivial
      · rename_i payload hpayload
        exact .silent fun user hid => descends_of_verify laws hinvariant hcontrol hpayload hid
  | findByExternalId externalId grant =>
      dsimp only [SessionSystem.next]
      split
      · exact .silent trivial
      · rename_i user huser
        exact .silent (hcontrol user (find_by_external_id_iff.mp huser).2)
  | resolveUserByGoogleEmail profile =>
      dsimp only [SessionSystem.next]
      split
      · exact .silent trivial
      · rename_i users' user huser
        exact .silent (.login ⟨resolved_google_id_hash huser, hcontrol⟩)
  | signAccess user grant =>
      dsimp only [SessionSystem.next]
      split
      · exact .silent trivial
      · rename_i signed hsigned
        exact .signs (is_signed_of_sign hsigned) hcontrol
          (Descends.mono hcontrol fun _ => List.mem_cons_of_mem _)
  | signRefresh user grant =>
      dsimp only [SessionSystem.next]
      split
      · exact .silent trivial
      · rename_i signed hsigned
        exact .signs (is_signed_of_sign hsigned) hcontrol trivial
  | finished => exact .silent trivial

omit [LetterCase] [AuthCalls] [SessionCalls] in
theorem IsSigned.mono {now later : Nat} {token : IssuedToken} (h : IsSigned now token)
    (hlater : now ≤ later) : IsSigned later token :=
  { h with issuedAt := h.issuedAt.trans hlater }

/-- A call that starts keeps the invariant if it is sound where it starts. -/
theorem SessionInvariant.start (hinvariant : SessionInvariant s) {control : SessionControl}
    (hcontrol : SessionSound s control) (h : s.start call control = some t) :
    SessionInvariant t := by
  obtain ⟨-, h⟩ := Option.ite_none_right_eq_some.mp h
  cases h
  refine ⟨hinvariant.signed, hinvariant.descends, fun other => ?_⟩
  dsimp only
  rcases eq_or_ne other call with rfl | hne
  · rw [Function.update_self]
    exact hcontrol.mono fun _ => id
  · rw [Function.update_of_ne hne]
    exact (hinvariant.calls other).mono fun _ => id

/-- A step of a call keeps the invariant if what it leaves is sound. -/
theorem SessionInvariant.advance (hinvariant : SessionInvariant s) {outcome : SessionOutcome}
    (h : OutcomeSound s outcome) : SessionInvariant { s with
      users := outcome.users
      calls := Function.update s.calls call outcome.control
      issued := outcome.signed ++ s.issued } := by
  have hlater : ∀ token ∈ s.issued, token ∈ outcome.signed ++ s.issued :=
    fun _ => List.mem_append_right _
  refine ⟨fun token htoken => ?_, fun token htoken => ?_, fun other => ?_⟩
  · rcases List.mem_append.mp htoken with hnew | hold
    · exact (h.signed token hnew).1
    · exact hinvariant.signed token hold
  · rcases List.mem_append.mp htoken with hnew | hold
    · exact (h.signed token hnew).2.mono hlater
    · exact (hinvariant.descends token hold).mono hlater
  · dsimp only
    rcases eq_or_ne other call with rfl | hne
    · rw [Function.update_self]
      exact h.control.mono fun _ => id
    · rw [Function.update_of_ne hne]
      exact (hinvariant.calls other).mono hlater

theorem SessionInvariant.step (laws : SessionCalls.jwt.Lawful) (hinvariant : SessionInvariant s)
    {action : SessionAction} (hunforged : PresentsUnforged s action)
    (h : SessionStep s action t) : SessionInvariant t := by
  cases action with
  | wait duration =>
      cases h
      exact ⟨fun token htoken => (hinvariant.signed token htoken).mono (Nat.le_add_right _ _),
        hinvariant.descends, fun other => (hinvariant.calls other).mono fun _ => id⟩
  | write users =>
      cases h
      exact ⟨hinvariant.signed, hinvariant.descends,
        fun other => (hinvariant.calls other).mono fun _ => id⟩
  | login call email password =>
      have hcontrol : SessionSound s (.login email password) := trivial
      exact hinvariant.start hcontrol h
  | refreshToken call refreshToken =>
      have hcontrol : SessionSound s (.refreshToken refreshToken) := hunforged
      exact hinvariant.start hcontrol h
  | loginWithGoogle call idToken =>
      have hstep : s.step (.loginWithGoogle call idToken) = some t := h
      rw [SessionSystem.step] at hstep
      split at hstep
      · have hcontrol : SessionSound s .finished := trivial
        exact hinvariant.start hcontrol hstep
      · rename_i profile hprofile
        have hcontrol : SessionSound s (.resolveUserByGoogleEmail profile) := ⟨idToken, hprofile⟩
        exact hinvariant.start hcontrol hstep
  | advance call requests externalId =>
      cases h
      exact hinvariant.advance (next_sound laws hinvariant (hinvariant.calls call))

theorem session_invariant_of_run (laws : SessionCalls.jwt.Lawful) {now : Nat}
    (hrun : Reaches SessionStep PresentsUnforged (noSessions users now) s) :
    SessionInvariant s := by
  refine hrun.invariant ⟨fun token htoken => ?_, fun token htoken => ?_, fun call => trivial⟩
    fun _ _ _ hinvariant hunforged hstep => hinvariant.step laws hunforged hstep
  · cases htoken
  · cases htoken

end

end MyHomeHub.AuthService
