import MyHomeHub.Auth.Identities
import MyHomeHub.Library.Tickets

/-!
# Password resets

`requestPasswordReset` checks a one-time password and issues a reset token, of which Redis
keeps the hash for a limited time. `changePassword` consumes a token and saves a password
for the user that it was issued to. Calls of both kinds overlap with each other and with
the other auth calls, and anybody may present any text as a token.

The keys in Redis are the tickets of a `TicketOffice`. From the point where its token is
consumed, a call goes on in the `AuthSystem`. Every run keeps `ResetInvariant`: each call that
changes a password has redeemed a ticket of its own.
-/

namespace MyHomeHub.AuthService

open JavaScript Library UsersService RegistrationRequests

/-- The configuration of the reset tokens. -/
class ResetCalls where
  /-- `getPasswordResetTokenTtlSec`, or none if it is no time to live that Redis accepts -/
  passwordResetTokenTtlSec : Option Nat

/-! ## The token service -/

/-- A reset token: the key under which Redis stores it, and the external id of its user. -/
abbrev ResetTicket := Ticket String String

/-- The reset tokens in Redis. Times are in milliseconds. -/
abbrev ResetStore := TicketOffice String String

section

variable [AuthCalls]

/-- `buildKey` -/
def buildKey (rawToken : String) : String :=
  "pwreset:" ++ AuthCalls.sha256 rawToken

/-- `issue`: `set` with an expiry in seconds. -/
def issueToken (redis : ResetStore) (rawToken userExternalId : String) (ttlSec : Nat) :
    ResetStore :=
  redis.issue (buildKey rawToken) userExternalId (1000 * ttlSec)

/-- `consume`: what `getdel` has found, or none where the service throws. An empty id counts as
nothing. -/
def consumeToken (redis : ResetStore) (rawToken : String) : Option ResetTicket × ResetStore :=
  let (found, redis) := redis.redeem (buildKey rawToken)
  (found.filter fun ticket => ticket.owner ≠ "", redis)

end

/-! ## Calls in flight -/

deriving instance DecidableEq for Control

/-- Where a call of `requestPasswordReset` or `changePassword` is, with the values it has read. -/
inductive ResetControl where
  /-- The read of `requestPasswordReset`. -/
  | findByEmail (email totp : String)
  /-- The write of `issue`. -/
  | issue (email totp userExternalId : String)
  /-- The first step of `changePassword`. -/
  | consume (resetToken newPassword : String)
  /-- The rest of `changePassword`, which is a call of the `AuthSystem`. -/
  | changing (ticket : ResetTicket)
  | finished
  deriving DecidableEq, Repr

/-- A token that was issued, with the body of the request that has asked for it. -/
structure GrantedToken where
  ticket : ResetTicket
  email : String
  totp : String

/-- A password that was saved, with the token of the call that has saved it. -/
structure PasswordChange where
  ticket : ResetTicket
  userExternalId : String

/-- The users, Redis, and the calls in flight. The last two fields are history, which no step
reads. -/
structure ResetSystem where
  auth : AuthSystem
  redis : ResetStore
  resets : Nat → ResetControl
  granted : List GrantedToken
  changes : List PasswordChange

/-- No user and no token is stored, and no call is in flight. -/
def noTokens (now : Nat) : ResetSystem :=
  ⟨noUsers, .opened now, fun _ => .finished, [], []⟩

/-- What happens in a step. With a step of a call come the stored registration requests, the
external id of a new user and the random token, if the step needs them. -/
inductive ResetAction where
  | wait (duration : Nat)
  | requestPasswordReset (call : Nat) (email totp : String)
  | changePassword (call : Nat) (resetToken newPassword : String)
  /-- Another auth call starts. -/
  | start (call : Nat) (request : AuthRequest)
  | advance (call : Nat) (requests : RequestStore) (externalId rawToken : String)

/-- A call goes on at a control point. -/
def ResetSystem.goOn (s : ResetSystem) (call : Nat) (control : ResetControl) : ResetSystem :=
  { s with resets := Function.update s.resets call control }

/-- No call is in flight under this number. -/
def ResetSystem.IsFree (s : ResetSystem) (call : Nat) : Prop :=
  s.resets call = .finished ∧ s.auth.calls call = .finished

instance (s : ResetSystem) (call : Nat) : Decidable (s.IsFree call) :=
  inferInstanceAs (Decidable (_ ∧ _))

/-- The external id of the user whose password a step writes. -/
def writtenPassword (users : UserStore) : Control → Option String
  | .savePassword user passwordHash =>
      match UsersService.save users user (withPassword user passwordHash) with
      | .ok _ => some user.externalId
      | .error _ => none
  | _ => none

/-- The user whose password a call changes. -/
def changesOf : Control → Option String
  | .changePassword userExternalId _ | .updatePassword userExternalId _ => some userExternalId
  | .savePassword user _ => some user.externalId
  | _ => none

section

variable [LetterCase] [AuthCalls] [ResetCalls]

/-- A step of a call that is at a control point. -/
def ResetSystem.advance (s : ResetSystem) (call : Nat) (requests : RequestStore)
    (externalId rawToken : String) : Option ResetSystem :=
  match s.resets call with
  | .findByEmail email totp =>
      match UsersService.findByEmail s.auth.users email with
      | none => some (s.goOn call .finished)
      | some user => some (s.goOn call (.issue email totp user.externalId))
  | .issue email totp userExternalId =>
      match ResetCalls.passwordResetTokenTtlSec with
      | none => some (s.goOn call .finished)
      | some ttlSec =>
          some { s.goOn call .finished with
            redis := issueToken s.redis rawToken userExternalId ttlSec
            granted :=
              ⟨⟨buildKey rawToken, userExternalId, s.redis.now, 1000 * ttlSec⟩, email, totp⟩ ::
                s.granted }
  | .consume resetToken newPassword =>
      match consumeToken s.redis resetToken with
      | (none, redis) => some { s.goOn call .finished with redis }
      | (some ticket, redis) =>
          (act s.auth (.start call (.changePassword ticket.owner newPassword))).map fun auth =>
            { s.goOn call (.changing ticket) with auth, redis }
  | .changing ticket =>
      (act s.auth (.advance call requests externalId)).map fun auth =>
        { s.goOn call (if auth.calls call = .finished then .finished else .changing ticket) with
          auth
          changes := ((writtenPassword s.auth.users (s.auth.calls call)).map
            (PasswordChange.mk ticket)).toList ++ s.changes }
  | .finished => (act s.auth (.advance call requests externalId)).map fun auth => { s with auth }

/-- The system after an action, if the action can be taken. -/
def ResetSystem.step (s : ResetSystem) : ResetAction → Option ResetSystem
  | .wait duration => some { s with redis := s.redis.wait duration }
  | .requestPasswordReset call email totp =>
      if s.IsFree call then
        some (s.goOn call (if AuthCalls.verifyTotp totp then .findByEmail email totp
          else .finished))
      else none
  | .changePassword call resetToken newPassword =>
      if s.IsFree call then some (s.goOn call (.consume resetToken newPassword)) else none
  | .start call request =>
      if s.IsFree call ∧ changesOf (begin request) = none then
        (act s.auth (.start call request)).map fun auth => { s with auth }
      else none
  | .advance call requests externalId rawToken => s.advance call requests externalId rawToken

/-- The step relation of the system. -/
def ResetStep (s : ResetSystem) (action : ResetAction) (t : ResetSystem) : Prop :=
  s.step action = some t

/-- The random tokens differ from those of before, also after hashing. -/
def DrawsFresh (s : ResetSystem) : ResetAction → Prop
  | .advance call _ _ rawToken => ∀ email totp userExternalId,
      s.resets call = .issue email totp userExternalId → s.redis.IsFresh (buildKey rawToken)
  | _ => True

end

section

variable [LetterCase] [AuthCalls] [ResetCalls]

variable {s t : ResetSystem} {call : Nat}

/-! ## What a step does -/

/-- The steps by what they change. -/
inductive ResetMoves (s : ResetSystem) : ResetAction → ResetSystem → Prop where
  | waits {duration : Nat} :
      ResetMoves s (.wait duration) { s with redis := s.redis.wait duration }
  | asks {call : Nat} {email totp : String} (hfree : s.IsFree call)
      (hvalid : AuthCalls.verifyTotp totp = true) :
      ResetMoves s (.requestPasswordReset call email totp)
        (s.goOn call (.findByEmail email totp))
  | asksChange {call : Nat} {resetToken newPassword : String} (hfree : s.IsFree call) :
      ResetMoves s (.changePassword call resetToken newPassword)
        (s.goOn call (.consume resetToken newPassword))
  | ends {action : ResetAction} {call : Nat} (hidle : s.auth.calls call = .finished)
      (hcall : ∀ ticket, s.resets call ≠ .changing ticket) :
      ResetMoves s action (s.goOn call .finished)
  | finds {action : ResetAction} {call : Nat} {email totp : String} {user : User}
      (hcall : s.resets call = .findByEmail email totp) (huser : user ∈ s.auth.users)
      (hemail : user.email = castEmail email) :
      ResetMoves s action (s.goOn call (.issue email totp user.externalId))
  | issues {call : Nat} {requests : RequestStore}
      {externalId rawToken email totp userExternalId : String} {ttlSec : Nat}
      (hcall : s.resets call = .issue email totp userExternalId)
      (httl : ResetCalls.passwordResetTokenTtlSec = some ttlSec) :
      ResetMoves s (.advance call requests externalId rawToken)
        { s.goOn call .finished with
          redis := issueToken s.redis rawToken userExternalId ttlSec
          granted := ⟨⟨buildKey rawToken, userExternalId, s.redis.now, 1000 * ttlSec⟩,
            email, totp⟩ :: s.granted }
  | refuses {action : ResetAction} {call : Nat} {resetToken newPassword : String}
      {redis : ResetStore} (hcall : s.resets call = .consume resetToken newPassword)
      (hfound : consumeToken s.redis resetToken = (none, redis)) :
      ResetMoves s action { s.goOn call .finished with redis }
  | consumes {action : ResetAction} {call : Nat} {resetToken newPassword : String}
      {ticket : ResetTicket} {redis : ResetStore} {auth : AuthSystem}
      (hcall : s.resets call = .consume resetToken newPassword)
      (hfound : consumeToken s.redis resetToken = (some ticket, redis))
      (hauth : act s.auth (.start call (.changePassword ticket.owner newPassword)) = some auth) :
      ResetMoves s action { s.goOn call (.changing ticket) with auth, redis }
  | changes {action : ResetAction} {call : Nat} {requests : RequestStore} {externalId : String}
      {ticket : ResetTicket} {auth : AuthSystem} (hcall : s.resets call = .changing ticket)
      (hauth : act s.auth (.advance call requests externalId) = some auth) :
      ResetMoves s action
        { s.goOn call (if auth.calls call = .finished then .finished else .changing ticket) with
          auth
          changes := ((writtenPassword s.auth.users (s.auth.calls call)).map
            (PasswordChange.mk ticket)).toList ++ s.changes }
  | starts {action : ResetAction} {call : Nat} {request : AuthRequest} {auth : AuthSystem}
      (hfree : s.IsFree call) (hother : changesOf (begin request) = none)
      (hauth : act s.auth (.start call request) = some auth) :
      ResetMoves s action { s with auth }
  | advances {action : ResetAction} {call : Nat} {requests : RequestStore} {externalId : String}
      {auth : AuthSystem} (hcall : s.resets call = .finished)
      (hauth : act s.auth (.advance call requests externalId) = some auth) :
      ResetMoves s action { s with auth }

omit [AuthCalls] [ResetCalls] in
theorem find_by_email_some {users : UserStore} {email : String} {user : User}
    (h : UsersService.findByEmail users email = some user) :
    user ∈ users ∧ user.email = castEmail email := by
  have hkey := List.find?_some h
  rw [decide_eq_true_eq, emailKey, Option.some.injEq] at hkey
  exact ⟨List.mem_of_find?_eq_some h, hkey⟩

/-- No auth call is in flight under the number of a call that has not consumed its token. -/
def WaitsIdle (s : ResetSystem) : Prop :=
  ∀ call, s.resets call ≠ .finished → (∀ ticket, s.resets call ≠ .changing ticket) →
    s.auth.calls call = .finished

theorem step_moves (hidle : WaitsIdle s) {action : ResetAction} (h : ResetStep s action t) :
    ResetMoves s action t := by
  cases action with
  | wait duration =>
      cases h
      exact .waits
  | requestPasswordReset call email totp =>
      obtain ⟨hfree, h⟩ := Option.ite_none_right_eq_some.mp h
      cases h
      split
      · rename_i hvalid
        exact .asks hfree hvalid
      · exact .ends hfree.2 fun ticket hcall => by rw [hfree.1] at hcall; cases hcall
  | changePassword call resetToken newPassword =>
      obtain ⟨hfree, h⟩ := Option.ite_none_right_eq_some.mp h
      cases h
      exact .asksChange hfree
  | start call request =>
      obtain ⟨⟨hfree, hother⟩, h⟩ := Option.ite_none_right_eq_some.mp h
      obtain ⟨auth, hauth, rfl⟩ := Option.map_eq_some_iff.mp h
      exact .starts hfree hother hauth
  | advance call requests externalId rawToken =>
      have hadvance : s.advance call requests externalId rawToken = some t := h
      rw [ResetSystem.advance] at hadvance
      split at hadvance
      · rename_i email totp hcall
        split at hadvance
        · cases hadvance
          refine .ends (hidle call ?_ ?_) ?_ <;> simp [hcall]
        · rename_i user huser
          cases hadvance
          obtain ⟨hmem, hemail⟩ := find_by_email_some huser
          exact .finds hcall hmem hemail
      · rename_i email totp userExternalId hcall
        split at hadvance
        · cases hadvance
          refine .ends (hidle call ?_ ?_) ?_ <;> simp [hcall]
        · rename_i ttlSec httl
          cases hadvance
          exact .issues hcall httl
      · rename_i resetToken newPassword hcall
        split at hadvance
        · rename_i redis hfound
          cases hadvance
          exact .refuses hcall hfound
        · rename_i ticket redis hfound
          obtain ⟨auth, hauth, rfl⟩ := Option.map_eq_some_iff.mp hadvance
          exact .consumes hcall hfound hauth
      · rename_i ticket hcall
        obtain ⟨auth, hauth, rfl⟩ := Option.map_eq_some_iff.mp hadvance
        exact .changes hcall hauth
      · rename_i hcall
        obtain ⟨auth, hauth, rfl⟩ := Option.map_eq_some_iff.mp hadvance
        exact .advances hcall hauth

/-! ## What every run keeps -/

/-- Somebody has asked for a reset with a valid one-time password and the email of the user. -/
def IsAsked (users : UserStore) (email totp userExternalId : String) : Prop :=
  AuthCalls.verifyTotp totp = true ∧
    ∃ user ∈ users, user.externalId = userExternalId ∧ user.email = castEmail email

/-- What is true of a call at each of its control points. A call that changes a password has
redeemed its ticket, and it has not saved the password. -/
def CallSound (s : ResetSystem) (call : Nat) : Prop :=
  match s.resets call with
  | .findByEmail _ totp => s.auth.calls call = .finished ∧ AuthCalls.verifyTotp totp = true
  | .issue email totp userExternalId =>
      s.auth.calls call = .finished ∧ IsAsked s.auth.users email totp userExternalId
  | .consume _ _ => s.auth.calls call = .finished
  | .changing ticket => changesOf (s.auth.calls call) = some ticket.owner ∧
      s.redis.IsRedeemed ticket ∧ ∀ change ∈ s.changes, change.ticket ≠ ticket
  | .finished => changesOf (s.auth.calls call) = none

/-- The tickets are sound, and every call that changes a password or has changed one has redeemed a
ticket of its own. -/
structure ResetInvariant (s : ResetSystem) : Prop where
  redis : s.redis.Sound
  calls : ∀ call, CallSound s call
  apart : ∀ call other ticket, s.resets call = .changing ticket →
    s.resets other = .changing ticket → call = other
  changes : ∀ change ∈ s.changes, s.redis.IsRedeemed change.ticket ∧
    change.userExternalId = change.ticket.owner
  once : (s.changes.map (·.ticket)).Nodup
  granted : s.granted.map (·.ticket) = s.redis.issued
  asked : ∀ token ∈ s.granted,
    IsAsked s.auth.users token.email token.totp token.ticket.owner

omit [ResetCalls] in
theorem IsAsked.kept {users users' : UserStore} {email totp userExternalId : String}
    (h : IsAsked users email totp userExternalId) (hkept : SameAccounts users users') :
    IsAsked users' email totp userExternalId := by
  obtain ⟨hvalid, user, huser, hid, hemail⟩ := h
  obtain ⟨user', huser', hsame⟩ := hkept user huser
  exact ⟨hvalid, user', huser', hsame.externalId.trans hid, hsame.email.trans hemail⟩

/-- What a step leaves of everything but the call that takes it. -/
structure KeepsOthers (s t : ResetSystem) (call : Nat) : Prop where
  users : SameAccounts s.auth.users t.auth.users
  auth : ∀ other ≠ call, t.auth.calls other = s.auth.calls other
  resets : ∀ other ≠ call, t.resets other = s.resets other
  redeemed : ∀ ticket, s.redis.IsRedeemed ticket → t.redis.IsRedeemed ticket
  changes : ∀ change ∈ t.changes, change ∈ s.changes ∨ s.resets call = .changing change.ticket

omit [ResetCalls] in
/-- The other calls stay sound. -/
theorem CallSound.kept (hinvariant : ResetInvariant s) (hkeeps : KeepsOthers s t call) {other : Nat}
    (hother : other ≠ call) : CallSound t other := by
  have hbefore := hinvariant.calls other
  unfold CallSound at hbefore ⊢
  rw [hkeeps.resets other hother, hkeeps.auth other hother]
  cases hcontrol : s.resets other with
  | findByEmail email totp | consume resetToken newPassword | finished =>
      rw [hcontrol] at hbefore
      exact hbefore
  | issue email totp userExternalId =>
      rw [hcontrol] at hbefore
      exact ⟨hbefore.1, hbefore.2.kept hkeeps.users⟩
  | changing ticket =>
      rw [hcontrol] at hbefore
      refine ⟨hbefore.1, hkeeps.redeemed ticket hbefore.2.1, fun change hchange hticket => ?_⟩
      rcases hkeeps.changes change hchange with hold | hnew
      · exact hbefore.2.2 change hold hticket
      · -- the ticket of another call is a different one
        rw [hticket] at hnew
        exact hother (hinvariant.apart other call ticket hcontrol hnew)

omit [ResetCalls] in
/-- A step keeps the invariant if it keeps the others, its call stays sound, and what it adds to the
history is right. -/
theorem ResetInvariant.of_keeps (hinvariant : ResetInvariant s) (hkeeps : KeepsOthers s t call)
    (hredis : t.redis.Sound) (hcall : CallSound t call)
    (hapart : ∀ other ≠ call, ∀ ticket, t.resets call = .changing ticket →
      s.resets other ≠ .changing ticket)
    (hchanges : ∀ change ∈ t.changes, t.redis.IsRedeemed change.ticket ∧
      change.userExternalId = change.ticket.owner)
    (honce : (t.changes.map (·.ticket)).Nodup)
    (hgranted : t.granted.map (·.ticket) = t.redis.issued)
    (hasked : ∀ token ∈ t.granted,
      IsAsked t.auth.users token.email token.totp token.ticket.owner) : ResetInvariant t := by
  refine ⟨hredis, fun other => ?_, fun first second ticket hfirst hsecond => ?_, hchanges, honce,
    hgranted, hasked⟩
  · by_cases hother : other = call
    · exact hother ▸ hcall
    · exact .kept hinvariant hkeeps hother
  · by_cases hone : first = call <;> by_cases htwo : second = call
    · exact hone.trans htwo.symm
    · rw [hkeeps.resets second htwo] at hsecond
      exact absurd hsecond (hapart second htwo ticket (hone ▸ hfirst))
    · rw [hkeeps.resets first hone] at hfirst
      exact absurd hfirst (hapart first hone ticket (htwo ▸ hsecond))
    · rw [hkeeps.resets first hone] at hfirst
      rw [hkeeps.resets second htwo] at hsecond
      exact hinvariant.apart first second ticket hfirst hsecond

omit [LetterCase] [AuthCalls] [ResetCalls] in
@[simp] theorem ResetSystem.go_on_resets (control : ResetControl) :
    (s.goOn call control).resets call = control :=
  Function.update_self ..

omit [LetterCase] [AuthCalls] [ResetCalls] in
theorem ResetSystem.go_on_resets_ne (control : ResetControl) {other : Nat} (hother : other ≠ call) :
    (s.goOn call control).resets other = s.resets other :=
  Function.update_of_ne hother ..

omit [ResetCalls] in
/-- A call that goes on without touching the users, Redis or the history keeps the invariant. -/
theorem ResetInvariant.go_on (hinvariant : ResetInvariant s) {control : ResetControl}
    (hcall : CallSound (s.goOn call control) call)
    (hcontrol : ∀ ticket, control ≠ .changing ticket) : ResetInvariant (s.goOn call control) := by
  refine hinvariant.of_keeps ⟨.refl _, fun _ _ => rfl, fun _ => s.go_on_resets_ne control,
    fun _ => id, fun _ => .inl⟩ hinvariant.redis hcall ?_ hinvariant.changes hinvariant.once
    hinvariant.granted hinvariant.asked
  intro other hother ticket hchanging
  rw [s.go_on_resets] at hchanging
  exact absurd hchanging (hcontrol ticket)

omit [ResetCalls] in
/-- A call without a reset takes a step: the users may change, Redis and the history do not. -/
theorem ResetInvariant.act (hinvariant : ResetInvariant s) {action : AuthAction}
    {auth : AuthSystem} (hauth : AuthStep s.auth action auth)
    (hothers : ∀ other ≠ call, auth.calls other = s.auth.calls other)
    (hcall : s.resets call = .finished) (hnone : changesOf (auth.calls call) = none) :
    ResetInvariant { s with auth } := by
  have hkept : SameAccounts s.auth.users auth.users :=
    same_accounts_of_run (.of_step trivial hauth)
  refine hinvariant.of_keeps ⟨hkept, hothers, fun _ _ => rfl, fun _ => id, fun _ => .inl⟩
    hinvariant.redis ?_ ?_ hinvariant.changes hinvariant.once hinvariant.granted
    fun token htoken => (hinvariant.asked token htoken).kept hkept
  · unfold CallSound
    rw [hcall]
    exact hnone
  · intro other hother ticket hchanging
    rw [hcall] at hchanging
    cases hchanging

omit [ResetCalls] in
/-- A call goes on changing the password of the same user until it ends. -/
theorem changes_of_next {users : UserStore} {requests : RequestStore} {externalId : String}
    {control : Control} : (next users requests externalId control).2 = .finished ∨
      changesOf (next users requests externalId control).2 = changesOf control := by
  have hadvances : Advances users control (next users requests externalId control) := next_advances
  cases control with
  | changePassword userExternalId newPassword =>
      dsimp only [next]
      split
      · exact .inl rfl
      · rename_i user huser
        exact .inr (congrArg some (find_by_external_id_iff.mp huser).2)
  | updatePassword userExternalId passwordHash =>
      dsimp only [next]
      split
      · rename_i user huser
        exact .inr (congrArg some (find_strict_ok huser).2)
      · exact .inl rfl
  | _ =>
      revert hadvances
      generalize next users requests externalId _ = after
      intro hadvances
      cases hadvances with
      | ends => exact .inl rfl
      | writes => exact .inl rfl
      | moves hmoves => exact .inr (by cases hmoves <;> rfl)

omit [LetterCase] [AuthCalls] [ResetCalls] in
theorem written_password_some {users : UserStore} {control : Control} {userExternalId : String}
    (h : writtenPassword users control = some userExternalId) :
    ∃ loaded passwordHash, control = .savePassword loaded passwordHash ∧
      loaded.externalId = userExternalId := by
  cases control with
  | savePassword loaded passwordHash =>
      unfold writtenPassword at h
      dsimp only at h
      split at h
      · exact ⟨loaded, passwordHash, rfl, Option.some.inj h⟩
      · cases h
  | _ => cases h

omit [ResetCalls] in
theorem ResetInvariant.idle (hinvariant : ResetInvariant s) : WaitsIdle s := by
  intro call hbusy hwaiting
  have hcall := hinvariant.calls call
  unfold CallSound at hcall
  cases hcontrol : s.resets call with
  | findByEmail email totp | issue email totp userExternalId =>
      rw [hcontrol] at hcall
      exact hcall.1
  | consume resetToken newPassword =>
      rw [hcontrol] at hcall
      exact hcall
  | changing ticket => exact absurd hcontrol (hwaiting ticket)
  | finished => exact absurd hcontrol hbusy

omit [LetterCase] [ResetCalls] in
/-- What `consume` leaves in Redis: nothing changes there, or one ticket is redeemed. -/
theorem consume_token_redis (redis : ResetStore) (rawToken : String) :
    (consumeToken redis rawToken).2 = (redis.redeem (buildKey rawToken)).2 :=
  rfl

omit [LetterCase] [ResetCalls] in
theorem consume_token_some {redis redis' : ResetStore} {rawToken : String} {ticket : ResetTicket} :
    consumeToken redis rawToken = (some ticket, redis') ↔
      redis.valid (buildKey rawToken) = some ticket ∧ ticket.owner ≠ "" ∧
        redis' = (redis.redeem (buildKey rawToken)).2 := by
  rw [Prod.ext_iff, consume_token_redis]
  show (redis.redeem (buildKey rawToken)).1.filter _ = some ticket ∧ _ ↔ _
  rw [TicketOffice.redeem_fst, Option.filter_eq_some_iff, decide_eq_true_eq, and_assoc]
  exact and_congr_right fun _ => and_congr_right fun _ => eq_comm

omit [LetterCase] [AuthCalls] [ResetCalls] in
/-- Redeemed tickets stay redeemed. -/
theorem redeemed_of_redeem {redis : ResetStore} {key : String} {ticket : ResetTicket}
    (h : redis.IsRedeemed ticket) : (redis.redeem key).2.IsRedeemed ticket := by
  rcases TicketOffice.redeem_cases redis key with ⟨-, hsame⟩ |
    ⟨found, -, -, -, hredeemed⟩
  · rw [hsame]
    exact h
  · obtain ⟨redemption, hmem, hticket⟩ := h
    exact ⟨redemption, by rw [hredeemed]; exact List.mem_cons_of_mem _ hmem, hticket⟩

omit [LetterCase] [AuthCalls] [ResetCalls] in
theorem issued_of_redeem {redis : ResetStore} {key : String} :
    (redis.redeem key).2.issued = redis.issued := by
  rcases TicketOffice.redeem_cases redis key with ⟨-, hsame⟩ |
    ⟨found, -, -, hissued, -⟩
  · rw [hsame]
  · exact hissued

omit [ResetCalls] in
/-- A call that has ended without an auth call is sound. -/
theorem call_sound_of_idle (hresets : t.resets call = .finished)
    (hidle : t.auth.calls call = .finished) : CallSound t call := by
  unfold CallSound
  rw [hresets]
  show changesOf (t.auth.calls call) = none
  rw [hidle]
  rfl

omit [ResetCalls] in
theorem act_start_call {auth auth' : AuthSystem} {request : AuthRequest}
    (h : act auth (.start call request) = some auth') : auth'.calls call = begin request := by
  unfold act at h
  dsimp only at h
  split at h
  · cases h
    exact Function.update_self ..
  · cases h

omit [ResetCalls] in
theorem act_start_others {auth auth' : AuthSystem} {request : AuthRequest}
    (h : act auth (.start call request) = some auth') :
    ∀ other ≠ call, auth'.calls other = auth.calls other := by
  intro other hother
  unfold act at h
  dsimp only at h
  split at h
  · cases h
    exact Function.update_of_ne hother ..
  · cases h

omit [ResetCalls] in
/-- What an `advance` does to the calls. -/
theorem act_advance {auth auth' : AuthSystem} {requests : RequestStore} {externalId : String}
    (h : act auth (.advance call requests externalId) = some auth') :
    auth'.calls call = (next auth.users requests externalId (auth.calls call)).2 ∧
      ∀ other ≠ call, auth'.calls other = auth.calls other := by
  cases h
  exact ⟨Function.update_self .., fun other hother => Function.update_of_ne hother ..⟩

omit [ResetCalls] in
/-- A call that has saved a password has ended. -/
theorem ended_of_written {auth auth' : AuthSystem} {requests : RequestStore}
    {externalId userExternalId : String}
    (h : act auth (.advance call requests externalId) = some auth')
    (hwritten : writtenPassword auth.users (auth.calls call) = some userExternalId) :
    auth'.calls call = .finished ∧ changesOf (auth.calls call) = some userExternalId := by
  obtain ⟨loaded, passwordHash, hcontrol, rfl⟩ := written_password_some hwritten
  rw [(act_advance h).1, hcontrol]
  exact ⟨rfl, rfl⟩

omit [ResetCalls] in
/-- A step of a call that changes a password keeps the invariant. -/
theorem ResetInvariant.change (hinvariant : ResetInvariant s) {ticket : ResetTicket}
    {requests : RequestStore} {externalId : String} {auth : AuthSystem}
    (hcall : s.resets call = .changing ticket)
    (hauth : AuthService.act s.auth (.advance call requests externalId) = some auth) :
    ResetInvariant { s.goOn call (if auth.calls call = .finished then .finished
        else .changing ticket) with
      auth
      changes := ((writtenPassword s.auth.users (s.auth.calls call)).map
        (PasswordChange.mk ticket)).toList ++ s.changes } := by
  have hkept : SameAccounts s.auth.users auth.users :=
    same_accounts_of_run (.of_step trivial (act_step hauth))
  obtain ⟨hafter, hothers⟩ := act_advance hauth
  have hbefore := hinvariant.calls call
  unfold CallSound at hbefore
  rw [hcall] at hbefore
  obtain ⟨hchanges, hredeemed, hunsaved⟩ := hbefore
  cases hwritten : writtenPassword s.auth.users (s.auth.calls call) with
  | none =>
      refine hinvariant.of_keeps ⟨hkept, hothers, fun _ => s.go_on_resets_ne _, fun _ => id,
        fun _ => .inl⟩ hinvariant.redis ?_ ?_ hinvariant.changes hinvariant.once
        hinvariant.granted fun token htoken => (hinvariant.asked token htoken).kept hkept
      · unfold CallSound
        dsimp only
        rw [s.go_on_resets]
        split_ifs with hended
        · show changesOf (auth.calls call) = none
          rw [hended]
          rfl
        · refine ⟨?_, hredeemed, hunsaved⟩
          rw [hafter] at hended ⊢
          exact (changes_of_next.resolve_left hended).trans hchanges
      · intro other hother found hchanging hfound
        dsimp only at hchanging
        rw [s.go_on_resets] at hchanging
        split_ifs at hchanging
        cases hchanging
        exact hother (hinvariant.apart other call ticket hfound hcall)
  | some userExternalId =>
      obtain ⟨hended, hsaved⟩ := ended_of_written hauth hwritten
      obtain rfl : userExternalId = ticket.owner := Option.some.inj (hsaved.symm.trans hchanges)
      rw [if_pos hended]
      refine hinvariant.of_keeps ⟨hkept, hothers, fun _ => s.go_on_resets_ne _, fun _ => id,
        fun change hchange => ?_⟩ hinvariant.redis
        (call_sound_of_idle (s.go_on_resets _) hended) ?_ ?_ ?_ hinvariant.granted
        fun token htoken => (hinvariant.asked token htoken).kept hkept
      · rcases List.mem_cons.mp hchange with rfl | hold
        · exact .inr hcall
        · exact .inl hold
      · intro other hother found hchanging
        simp at hchanging
      · intro change hchange
        rcases List.mem_cons.mp hchange with rfl | hold
        · exact ⟨hredeemed, rfl⟩
        · exact hinvariant.changes change hold
      · refine List.nodup_cons.mpr ⟨fun hmem => ?_, hinvariant.once⟩
        obtain ⟨change, hchange, hticket⟩ := List.mem_map.mp hmem
        exact hunsaved change hchange hticket

omit [ResetCalls] in
/-- A token drawn afresh is issued: the invariant holds, and the new ticket was asked for. -/
theorem ResetInvariant.issue (hinvariant : ResetInvariant s)
    {rawToken email totp userExternalId : String} {ttlSec : Nat}
    (hcall : s.resets call = .issue email totp userExternalId)
    (hfresh : s.redis.IsFresh (buildKey rawToken)) :
    ResetInvariant { s.goOn call .finished with
      redis := issueToken s.redis rawToken userExternalId ttlSec
      granted := ⟨⟨buildKey rawToken, userExternalId, s.redis.now, 1000 * ttlSec⟩,
        email, totp⟩ :: s.granted } := by
  have hbefore := hinvariant.calls call
  unfold CallSound at hbefore
  rw [hcall] at hbefore
  refine hinvariant.of_keeps ⟨.refl _, fun _ _ => rfl, fun _ => s.go_on_resets_ne _,
    fun _ => id, fun _ => .inl⟩ (hinvariant.redis.issue hfresh _ _)
    (call_sound_of_idle (s.go_on_resets _) hbefore.1) ?_ hinvariant.changes hinvariant.once
    (congrArg (_ :: ·) hinvariant.granted) ?_
  · intro other hother ticket hchanging
    simp at hchanging
  · intro token htoken
    rcases List.mem_cons.mp htoken with rfl | hold
    · exact hbefore.2
    · exact hinvariant.asked token hold

omit [ResetCalls] in
/-- A call without a ticket redeems a key and ends, whether the key found a ticket or not. -/
theorem ResetInvariant.refuse (hinvariant : ResetInvariant s) {resetToken newPassword : String}
    (hcall : s.resets call = .consume resetToken newPassword) :
    ResetInvariant { s.goOn call .finished with
      redis := (s.redis.redeem (buildKey resetToken)).2 } := by
  have hbefore := hinvariant.calls call
  unfold CallSound at hbefore
  rw [hcall] at hbefore
  refine hinvariant.of_keeps ⟨.refl _, fun _ _ => rfl, fun _ => s.go_on_resets_ne _,
    fun _ => redeemed_of_redeem, fun _ => .inl⟩ (hinvariant.redis.redeem _)
    (call_sound_of_idle (s.go_on_resets _) hbefore) ?_ ?_ hinvariant.once
    (hinvariant.granted.trans issued_of_redeem.symm) hinvariant.asked
  · intro other hother ticket hchanging
    simp at hchanging
  · intro change hchange
    exact (hinvariant.changes change hchange).imp_left redeemed_of_redeem

omit [LetterCase] [AuthCalls] [ResetCalls] in
/-- A valid ticket is redeemed by its key. -/
theorem redeemed_of_valid {redis : ResetStore} {key : String} {ticket : ResetTicket}
    (hvalid : redis.valid key = some ticket) : (redis.redeem key).2.IsRedeemed ticket := by
  rcases TicketOffice.redeem_cases redis key with ⟨hnone, -⟩ | ⟨found, hfound, -, -, hredeemed⟩
  · rw [hvalid] at hnone
    cases hnone
  · obtain rfl : ticket = found := Option.some.inj (hvalid.symm.trans hfound)
    exact ⟨⟨ticket, redis.now⟩, hredeemed ▸ List.mem_cons_self, rfl⟩

omit [ResetCalls] in
/-- A call redeems its ticket and starts to change the password: no other call holds the ticket,
for it was not redeemed before. -/
theorem ResetInvariant.consume (hinvariant : ResetInvariant s) {resetToken newPassword : String}
    {ticket : ResetTicket} {auth : AuthSystem}
    (hvalid : s.redis.valid (buildKey resetToken) = some ticket)
    (hauth : AuthService.act s.auth (.start call (.changePassword ticket.owner newPassword)) =
      some auth) :
    ResetInvariant { s.goOn call (.changing ticket) with
      auth
      redis := (s.redis.redeem (buildKey resetToken)).2 } := by
  have hkept : SameAccounts s.auth.users auth.users :=
    same_accounts_of_run (.of_step trivial (act_step hauth))
  have hunused : ¬ s.redis.IsRedeemed ticket := (hinvariant.redis.valid_iff.mp hvalid).2.2.1
  have hredeemed : (s.redis.redeem (buildKey resetToken)).2.IsRedeemed ticket :=
    redeemed_of_valid hvalid
  refine hinvariant.of_keeps ⟨hkept, act_start_others hauth, fun _ => s.go_on_resets_ne _,
    fun _ => redeemed_of_redeem, fun _ => .inl⟩ (hinvariant.redis.redeem _) ?_ ?_ ?_
    hinvariant.once (hinvariant.granted.trans issued_of_redeem.symm)
    fun token htoken => (hinvariant.asked token htoken).kept hkept
  · unfold CallSound
    dsimp only
    rw [s.go_on_resets]
    refine ⟨?_, hredeemed, fun change hchange hticket => ?_⟩
    · rw [act_start_call hauth]
      rfl
    · exact hunused (hticket ▸ (hinvariant.changes change hchange).1)
  · intro other hother found hchanging hheld
    dsimp only at hchanging
    rw [s.go_on_resets] at hchanging
    cases hchanging
    have hholder := hinvariant.calls other
    unfold CallSound at hholder
    rw [hheld] at hholder
    exact hunused hholder.2.1
  · intro change hchange
    exact (hinvariant.changes change hchange).imp_left redeemed_of_redeem

/-- Every step with a fresh token keeps the invariant. -/
theorem ResetInvariant.step (hinvariant : ResetInvariant s) {action : ResetAction}
    (hfresh : DrawsFresh s action) (h : ResetMoves s action t) : ResetInvariant t := by
  cases h with
  | waits =>
      exact ⟨hinvariant.redis.wait _, hinvariant.calls, hinvariant.apart, hinvariant.changes,
        hinvariant.once, hinvariant.granted, hinvariant.asked⟩
  | asks hfree hvalid =>
      refine hinvariant.go_on ?_ fun _ => nofun
      unfold CallSound
      rw [s.go_on_resets]
      exact ⟨hfree.2, hvalid⟩
  | asksChange hfree =>
      refine hinvariant.go_on ?_ fun _ => nofun
      unfold CallSound
      rw [s.go_on_resets]
      exact hfree.2
  | ends hidle hcall =>
      exact hinvariant.go_on (call_sound_of_idle (s.go_on_resets _) hidle) fun _ => nofun
  | @finds _ call email totp user hcall huser hemail =>
      have hbefore := hinvariant.calls call
      unfold CallSound at hbefore
      rw [hcall] at hbefore
      refine hinvariant.go_on ?_ fun _ => nofun
      unfold CallSound
      rw [s.go_on_resets]
      exact ⟨hbefore.1, hbefore.2, user, huser, rfl, hemail⟩
  | @issues call requests externalId rawToken email totp userExternalId ttlSec hcall httl =>
      exact hinvariant.issue hcall (hfresh email totp userExternalId hcall)
  | refuses hcall hfound =>
      obtain rfl := congrArg Prod.snd hfound
      exact hinvariant.refuse hcall
  | consumes hcall hfound hauth =>
      obtain ⟨hvalid, -, rfl⟩ := consume_token_some.mp hfound
      exact hinvariant.consume hvalid hauth
  | changes hcall hauth => exact hinvariant.change hcall hauth
  | @starts _ call request auth hfree hother hauth =>
      refine hinvariant.act (act_step hauth) (act_start_others hauth) hfree.1 ?_
      rw [act_start_call hauth]
      exact hother
  | @advances _ call requests externalId auth hcall hauth =>
      obtain ⟨hafter, hothers⟩ := act_advance hauth
      refine hinvariant.act (act_step hauth) hothers hcall ?_
      have hbefore := hinvariant.calls call
      unfold CallSound at hbefore
      rw [hcall] at hbefore
      rw [hafter]
      rcases @changes_of_next _ _ s.auth.users requests externalId (s.auth.calls call) with
        hended | hsame
      · rw [hended]
        rfl
      · exact hsame.trans hbefore

omit [ResetCalls] in
theorem reset_invariant_start (now : Nat) : ResetInvariant (noTokens now) where
  redis := TicketOffice.sound_opened now
  calls _ := rfl
  apart _ _ _ h := by cases h
  changes _ h := by cases h
  once := .nil
  granted := rfl
  asked _ h := by cases h

theorem reset_invariant_of_run {now : Nat} (hrun : Reaches ResetStep DrawsFresh (noTokens now) s) :
    ResetInvariant s :=
  hrun.invariant (reset_invariant_start now) fun _ _ _ hinvariant hfresh hstep =>
    hinvariant.step hfresh (step_moves hinvariant.idle hstep)

end

end MyHomeHub.AuthService
