import MyHomeHub.Auth.PasswordResets

/-!
# What reset tokens are good for

Every change of a stored password uses up a token of its own, which was issued on a valid
one-time password (`password_changes_ticketed`). An issued token stays good until it is used
or expires, whatever the other calls do, and a call that goes on alone with a good token
changes the password of the user of the token (`reset_takes_effect`).
-/

namespace MyHomeHub.AuthService

open JavaScript Library UsersService RegistrationRequests

section

variable [LetterCase] [AuthCalls] [ResetCalls]

variable {s t : ResetSystem} {call : Nat}

/-! ## Changed passwords -/

omit [ResetCalls] in
/-- A step of an auth call keeps every account, and a password that it changes is one it writes. -/
theorem account_of_advance {auth auth' : AuthSystem} {requests : RequestStore}
    {externalId : String} (h : act auth (.advance call requests externalId) = some auth')
    {user : User} (huser : user ∈ auth.users) :
    ∃ user' ∈ auth'.users, SameAccount user user' ∧ (user'.password = user.password ∨
      writtenPassword auth.users (auth.calls call) = some user.externalId) := by
  obtain ⟨user', huser', hsame,
    hpassword | ⟨_, _, _, haction, loaded, passwordHash, hcontrol, hid⟩⟩ :=
    account_of_step (act_step h) huser
  · exact ⟨user', huser', hsame, .inl hpassword⟩
  · cases haction
    cases hsaved : UsersService.save auth.users loaded (withPassword loaded passwordHash) with
    | ok saved =>
        refine ⟨user', huser', hsame, .inr ?_⟩
        rw [hcontrol, writtenPassword, hsaved, hid]
    | error error =>
        -- a save that fails leaves the users
        cases h
        refine ⟨user, ?_, .refl user, .inl rfl⟩
        rw [hcontrol, next, hsaved]
        exact huser

/-- From `s` to `t`, every account is kept, and each password that has changed was saved with a
ticket since. -/
structure ChangesRecorded (s t : ResetSystem) : Prop where
  changes : ∀ change ∈ s.changes, change ∈ t.changes
  users : ∀ user ∈ s.auth.users, ∃ user' ∈ t.auth.users, SameAccount user user' ∧
    (user'.password = user.password ∨
      ∃ change ∈ t.changes, change ∉ s.changes ∧ change.userExternalId = user.externalId)

omit [AuthCalls] [ResetCalls] [LetterCase] in
theorem ChangesRecorded.of_eq (husers : t.auth.users = s.auth.users)
    (hchanges : t.changes = s.changes) : ChangesRecorded s t := by
  constructor
  · rw [hchanges]
    exact fun _ => id
  · rw [husers]
    exact fun user huser => ⟨user, huser, .refl user, .inl rfl⟩

omit [AuthCalls] [ResetCalls] [LetterCase] in
theorem ChangesRecorded.trans {u : ResetSystem} (h : ChangesRecorded s t)
    (hnext : ChangesRecorded t u) : ChangesRecorded s u := by
  refine ⟨fun change hchange => hnext.changes change (h.changes change hchange), ?_⟩
  intro user huser
  obtain ⟨user', huser', hsame, hpassword⟩ := h.users user huser
  obtain ⟨user'', huser'', hsame', hpassword'⟩ := hnext.users user' huser'
  refine ⟨user'', huser'', hsame.trans hsame', ?_⟩
  rcases hpassword' with hkept | ⟨change, hchange, hnew, hid⟩
  · rcases hpassword with hkept' | ⟨change, hchange, hnew, hid⟩
    · exact .inl (hkept.trans hkept')
    · exact .inr ⟨change, hnext.changes change hchange, hnew, hid⟩
  · exact .inr ⟨change, hchange, fun hold => hnew (h.changes change hold),
      hid.trans hsame.externalId⟩

omit [ResetCalls] in
theorem act_start_users {auth auth' : AuthSystem} {request : AuthRequest}
    (h : act auth (.start call request) = some auth') : auth'.users = auth.users := by
  unfold act at h
  dsimp only at h
  split at h
  · cases h
    rfl
  · cases h

theorem ResetInvariant.changes_recorded (hinvariant : ResetInvariant s) {action : ResetAction}
    (h : ResetMoves s action t) : ChangesRecorded s t := by
  cases h with
  | waits | asks | asksChange | ends | finds | issues | refuses => exact .of_eq rfl rfl
  | consumes hcall hfound hauth => exact .of_eq (act_start_users hauth) rfl
  | starts hfree hother hauth => exact .of_eq (act_start_users hauth) rfl
  | @changes _ call requests externalId ticket auth hcall hauth =>
      have hbefore := hinvariant.calls call
      unfold CallSound at hbefore
      rw [hcall] at hbefore
      refine ⟨fun change hchange => List.mem_append_right _ hchange, fun user huser => ?_⟩
      obtain ⟨user', huser', hsame, hpassword | hwritten⟩ := account_of_advance hauth huser
      · exact ⟨user', huser', hsame, .inl hpassword⟩
      · refine ⟨user', huser', hsame, .inr ⟨⟨ticket, user.externalId⟩, ?_, ?_, rfl⟩⟩
        · dsimp only
          rw [hwritten]
          exact List.mem_cons_self
        · exact fun hold => hbefore.2.2 _ hold rfl
  | @advances _ call requests externalId auth hcall hauth =>
      have hbefore := hinvariant.calls call
      unfold CallSound at hbefore
      rw [hcall] at hbefore
      refine ⟨fun _ => id, fun user huser => ?_⟩
      obtain ⟨user', huser', hsame, hpassword | hwritten⟩ := account_of_advance hauth huser
      · exact ⟨user', huser', hsame, .inl hpassword⟩
      · rw [(ended_of_written hauth hwritten).2] at hbefore
        cases hbefore

/-- From a state that a run has reached, every run records the passwords that it changes. -/
theorem changes_recorded_of_run (hinvariant : ResetInvariant s)
    (hrun : Reaches ResetStep DrawsFresh s t) : ResetInvariant t ∧ ChangesRecorded s t := by
  refine @Reaches.invariant _ _ _ _ _ _ (fun t => ResetInvariant t ∧ ChangesRecorded s t) hrun
    ⟨hinvariant, .of_eq rfl rfl⟩ fun before action after hbefore hfresh hstep => ?_
  have hmoves := step_moves hbefore.1.idle hstep
  exact ⟨hbefore.1.step hfresh hmoves, hbefore.2.trans (hbefore.1.changes_recorded hmoves)⟩

/-- The ticket was redeemed while it was valid, and it was issued to somebody who had asked for it
with a valid one-time password and the email of its user. -/
def IsEarned (s : ResetSystem) (ticket : ResetTicket) : Prop :=
  (∃ redemption ∈ s.redis.redeemed, redemption.ticket = ticket ∧
    ticket.issuedAt ≤ redemption.redeemedAt ∧ redemption.redeemedAt < ticket.expiresAt) ∧
  ∃ token ∈ s.granted, token.ticket = ticket ∧
    IsAsked s.auth.users token.email token.totp ticket.owner

omit [ResetCalls] in
theorem ResetInvariant.earned (hinvariant : ResetInvariant s) {ticket : ResetTicket}
    (h : s.redis.IsRedeemed ticket) : IsEarned s ticket := by
  obtain ⟨redemption, hmem, rfl⟩ := h
  obtain ⟨hissued, htimes⟩ := hinvariant.redis.redeemed_valid redemption hmem
  refine ⟨⟨redemption, hmem, rfl, htimes⟩, ?_⟩
  rw [← hinvariant.granted] at hissued
  obtain ⟨token, htoken, hticket⟩ := List.mem_map.mp hissued
  exact ⟨token, htoken, hticket, hticket ▸ hinvariant.asked token htoken⟩

/-- However the calls overlap and whatever is presented as a token: a password changes only by a
call that has redeemed a token of the user in time, the token was issued on a valid one-time
password and the email of the user, and no two changes have a token in common. -/
theorem password_changes_ticketed {now : Nat}
    (hbefore : Reaches ResetStep DrawsFresh (noTokens now) s)
    (hrun : Reaches ResetStep DrawsFresh s t) :
    (t.changes.map (·.ticket)).Nodup ∧
      (∀ change ∈ t.changes, change.userExternalId = change.ticket.owner ∧
        IsEarned t change.ticket) ∧
      ChangesRecorded s t := by
  obtain ⟨hinvariant, hrecorded⟩ := changes_recorded_of_run (reset_invariant_of_run hbefore) hrun
  refine ⟨hinvariant.once, fun change hchange => ?_, hrecorded⟩
  obtain ⟨hredeemed, hid⟩ := hinvariant.changes change hchange
  exact ⟨hid, hinvariant.earned hredeemed⟩

/-! ## Tokens that are good -/

/-- A text is a reset token that was issued, was not used and has not expired. -/
def IsUsable (redis : ResetStore) (resetToken : String) (ticket : ResetTicket) : Prop :=
  ticket ∈ redis.issued ∧ ticket.key = buildKey resetToken ∧ ¬ redis.IsRedeemed ticket ∧
    redis.now < ticket.expiresAt

omit [LetterCase] [ResetCalls] in
theorem is_usable_iff {redis : ResetStore} (hsound : redis.Sound) {resetToken : String}
    {ticket : ResetTicket} :
    IsUsable redis resetToken ticket ↔ redis.valid (buildKey resetToken) = some ticket :=
  hsound.valid_iff.symm

omit [LetterCase] [AuthCalls] [ResetCalls] in
/-- A user with another password shares no key with the others. -/
theorem keys_differ_of_password {users : UserStore} {user other : User} (huser : user ∈ users)
    (hother : other ∈ users) (hne : externalIdKey other ≠ externalIdKey user)
    (passwordHash : String) : KeysDiffer userIndexes (withPassword user passwordHash) other := by
  intro index hindex
  have hkeys := Collection.keys_differ_of_other huser hother rfl hne index hindex
  simp only [userIndexes, List.mem_cons, List.not_mem_nil, or_false] at hindex
  rcases hindex with rfl | rfl | rfl <;> exact hkeys

omit [LetterCase] [ResetCalls] in
/-- The password of every user can be changed, and the other users stay as they are. -/
theorem change_password_ok (laws : HashesAreTexts) {users : UserStore} {user : User}
    (huser : user ∈ users) (newPassword : String) :
    ∃ users' saved, AuthService.changePassword users user.externalId newPassword =
        .ok (users', saved) ∧
      ∀ other, other ∈ users' ↔
        other = withPassword user (generateUserPasswordHash newPassword) ∨
          (other ∈ users ∧ other.externalId ≠ user.externalId) := by
  have hfound : findByExternalId users user.externalId = some user :=
    Collection.find_of_mem UsersService.external_id_key_mem huser rfl
  have hstrict : findStrict users user.externalId = .ok user := by
    rw [findStrict, hfound]
  have hset : hasCredential (withPassword user (generateUserPasswordHash newPassword)) = true := by
    rw [hasCredential, Bool.or_eq_true]
    refine .inr ((is_set_iff fun hempty => ?_).mpr ⟨_, rfl⟩)
    exact laws.argon2Hash newPassword (Option.some.inj hempty)
  have hwritten : writeModified user
      (withPassword user (generateUserPasswordHash newPassword)) user =
        withPassword user (generateUserPasswordHash newPassword) := by
    rw [write_password, written_field_same]
    rfl
  obtain ⟨users', hupdate⟩ := Collection.update_first_some
    (f := writeModified user (withPassword user (generateUserPasswordHash newPassword)))
    UsersService.external_id_key_mem huser rfl fun other hother hne => by
      rw [hwritten]
      exact keys_differ_of_password huser hother hne _
  refine ⟨users', withPassword user (generateUserPasswordHash newPassword), ?_, fun other => ?_⟩
  · rw [AuthService.changePassword, hfound]
    dsimp only
    rw [UsersService.updatePassword, hstrict, ok_bind, UsersService.save, hset, Bool.not_true,
      Bool.and_false, if_neg Bool.false_ne_true]
    have hupdate' : users.updateFirst
        (fun stored => externalIdKey stored = some user.externalId)
        (writeModified user (withPassword user (generateUserPasswordHash newPassword))) =
          .ok users' := hupdate
    rw [hupdate']
  · rw [Collection.mem_of_update_stored UsersService.external_id_key_mem huser rfl hupdate,
      hwritten]
    simp only [UsersService.externalIdKey, ne_eq, Option.some.injEq]

/-! ## A call that goes on alone -/

/-- A call has consumed its token, or it has ended. -/
def IsPastConsume (s : ResetSystem) (call : Nat) : Prop :=
  s.resets call = .finished ∨
    s.auth.calls call ≠ .finished ∧ ∃ ticket, s.resets call = .changing ticket

/-- From there, a step of the call is a step of the auth call. -/
theorem advance_past_consume (hpast : IsPastConsume s call) (requests : RequestStore)
    (externalId rawToken : String) :
    ∃ t, s.step (.advance call requests externalId rawToken) = some t ∧ IsPastConsume t call ∧
      t.redis = s.redis ∧ (t.auth.users, t.auth.calls call) =
        next s.auth.users requests externalId (s.auth.calls call) := by
  obtain ⟨auth, hauth⟩ : ∃ auth, act s.auth (.advance call requests externalId) = some auth :=
    ⟨_, rfl⟩
  have hafter : (auth.users, auth.calls call) =
      next s.auth.users requests externalId (s.auth.calls call) := by
    cases hauth
    exact Prod.ext rfl (Function.update_self ..)
  rcases hpast with hended | ⟨-, ticket, hchanging⟩
  · refine ⟨{ s with auth }, ?_, .inl hended, rfl, hafter⟩
    rw [ResetSystem.step, ResetSystem.advance, hended]
    dsimp only
    rw [hauth, Option.map_some]
  · refine ⟨{ s.goOn call (if auth.calls call = .finished then .finished
        else .changing ticket) with
      auth
      changes := ((writtenPassword s.auth.users (s.auth.calls call)).map
        (PasswordChange.mk ticket)).toList ++ s.changes }, ?_, ?_, rfl, hafter⟩
    · rw [ResetSystem.step, ResetSystem.advance, hchanging]
      dsimp only
      rw [hauth, Option.map_some]
    · by_cases hended : auth.calls call = .finished
      · refine .inl ?_
        rw [if_pos hended]
        exact s.go_on_resets _
      · refine .inr ⟨hended, ticket, ?_⟩
        rw [if_neg hended]
        exact s.go_on_resets _

/-- So are some steps of the call. -/
theorem steps_past_consume (requests : RequestStore) (externalId rawToken : String) (n : Nat)
    (hpast : IsPastConsume s call) :
    ∃ t, (List.replicate n (.advance call requests externalId rawToken)).foldlM
        ResetSystem.step s = some t ∧ IsPastConsume t call ∧ t.redis = s.redis ∧
      (t.auth.users, t.auth.calls call) =
        runAlone requests externalId n (s.auth.users, s.auth.calls call) := by
  induction n generalizing s with
  | zero => exact ⟨s, rfl, hpast, rfl, rfl⟩
  | succ n ih =>
      obtain ⟨middle, hfirst, hpast', hredis, hnext⟩ :=
        advance_past_consume hpast requests externalId rawToken
      obtain ⟨t, hrest, hended, hredis', hrun⟩ := ih hpast'
      refine ⟨t, ?_, hended, hredis'.trans hredis, ?_⟩
      · rw [List.replicate_succ, List.foldlM_cons, hfirst]
        exact hrest
      · rw [hrun, hnext, runAlone]

omit [LetterCase] [AuthCalls] [ResetCalls] in
theorem IsPastConsume.ended (hpast : IsPastConsume s call)
    (hended : s.auth.calls call = .finished) : s.resets call = .finished := by
  rcases hpast with hfinished | ⟨hbusy, -⟩
  · exact hfinished
  · exact absurd hended hbusy

/-- A call that consumes its token and then takes the three steps of `changePassword`. -/
theorem consume_alone (hidle : s.auth.calls call = .finished) {resetToken newPassword : String}
    (hcall : s.resets call = .consume resetToken newPassword) (requests : RequestStore)
    (externalId rawToken : String) :
    ∃ t, (List.replicate 4 (.advance call requests externalId rawToken)).foldlM
        ResetSystem.step s = some t ∧ t.resets call = .finished ∧
      t.redis = (consumeToken s.redis resetToken).2 ∧
      t.auth.users = (consumeToken s.redis resetToken).1.elim s.auth.users fun ticket =>
        storeAfter s.auth.users
          (AuthService.changePassword s.auth.users ticket.owner newPassword) := by
  rcases hfound : consumeToken s.redis resetToken with ⟨_ | ticket, redis⟩
  · obtain ⟨t, hrun, hpast, hredis, hafter⟩ := @steps_past_consume _ _ _
      { s.goOn call .finished with redis } call requests externalId rawToken 3
      (.inl (s.go_on_resets _))
    have hstill : (t.auth.users, t.auth.calls call) = (s.auth.users, .finished) := by
      rw [hafter]
      show runAlone requests externalId 3 (s.auth.users, s.auth.calls call) = _
      rw [hidle, run_alone_finished]
    refine ⟨t, ?_, hpast.ended (Prod.ext_iff.mp hstill).2, hredis, (Prod.ext_iff.mp hstill).1⟩
    rw [List.replicate_succ, List.foldlM_cons, ResetSystem.step, ResetSystem.advance, hcall]
    dsimp only
    rw [hfound]
    exact hrun
  · obtain ⟨auth, hauth⟩ : ∃ auth,
        act s.auth (.start call (.changePassword ticket.owner newPassword)) = some auth := by
      rw [act, hidle]
      exact ⟨_, rfl⟩
    have hbegun : auth.calls call = .changePassword ticket.owner newPassword :=
      act_start_call hauth
    have hbusy : auth.calls call ≠ .finished := by
      intro hended
      cases hbegun.symm.trans hended
    obtain ⟨t, hrun, hpast, hredis, hafter⟩ := @steps_past_consume _ _ _
      { s.goOn call (.changing ticket) with auth, redis } call requests externalId rawToken 3
      (.inr ⟨hbusy, ticket, s.go_on_resets _⟩)
    rw [hbegun, change_password_alone, act_start_users hauth] at hafter
    refine ⟨t, ?_, hpast.ended (Prod.ext_iff.mp hafter).2, hredis, (Prod.ext_iff.mp hafter).1⟩
    rw [List.replicate_succ, List.foldlM_cons, ResetSystem.step, ResetSystem.advance, hcall]
    dsimp only
    rw [hfound]
    dsimp only
    rw [hauth, Option.map_some]
    exact hrun

/-- Whatever the other calls have done, a call that goes on alone changes the password of the user
of its token, and of nobody else, if the token was issued, was not used and has not expired. If
not, no user changes. In both cases the token is not accepted again. -/
theorem reset_takes_effect (laws : HashesAreTexts) {now : Nat}
    (hrun : Reaches ResetStep DrawsFresh (noTokens now) s) {resetToken newPassword : String}
    (hcall : s.resets call = .consume resetToken newPassword) (requests : RequestStore)
    (externalId rawToken : String) :
    ∃ t, (List.replicate 4 (.advance call requests externalId rawToken)).foldlM
        ResetSystem.step s = some t ∧ t.resets call = .finished ∧
      (∀ ticket, ¬ IsUsable t.redis resetToken ticket) ∧
      ((∃ ticket, IsUsable s.redis resetToken ticket ∧
          ∃ user ∈ s.auth.users, user.externalId = ticket.owner ∧
            ∀ other, other ∈ t.auth.users ↔
              other = withPassword user (generateUserPasswordHash newPassword) ∨
                (other ∈ s.auth.users ∧ other.externalId ≠ ticket.owner)) ∨
        (∀ ticket, IsUsable s.redis resetToken ticket → ticket.owner = "") ∧
          t.auth.users = s.auth.users) := by
  have hinvariant := reset_invariant_of_run hrun
  have hidle : s.auth.calls call = .finished :=
    hinvariant.idle call (by rw [hcall]; exact nofun) (by rw [hcall]; exact nofun)
  obtain ⟨t, hsteps, hended, hredis, husers⟩ :=
    consume_alone hidle hcall requests externalId rawToken
  rw [consume_token_redis] at hredis
  refine ⟨t, hsteps, hended, fun ticket husable => ?_, ?_⟩
  · rw [hredis, is_usable_iff (hinvariant.redis.redeem _), TicketOffice.valid_of_redeem] at husable
    cases husable
  · cases hfound : (consumeToken s.redis resetToken).1 with
    | some ticket =>
        obtain ⟨hvalid, -, -⟩ := consume_token_some.mp (Prod.ext hfound rfl)
        have husable := (is_usable_iff hinvariant.redis).mpr hvalid
        -- the ticket was issued to a user who was there
        have hissued := husable.1
        rw [← hinvariant.granted] at hissued
        obtain ⟨token, htoken, rfl⟩ := List.mem_map.mp hissued
        obtain ⟨-, user, huser, hid, -⟩ := hinvariant.asked token htoken
        obtain ⟨users', saved, hchanged, hmem⟩ := change_password_ok laws huser newPassword
        rw [hfound, Option.elim_some, ← hid, hchanged] at husers
        refine .inl ⟨token.ticket, husable, user, huser, hid, fun other => ?_⟩
        rw [husers, ← hid]
        exact hmem other
    | none =>
        rw [hfound] at husers
        refine .inr ⟨fun ticket husable => ?_, husers⟩
        by_contra howner
        rw [is_usable_iff hinvariant.redis] at husable
        rw [(Prod.ext_iff.mp (consume_token_some.mpr ⟨husable, howner, rfl⟩)).1] at hfound
        cases hfound

/-! ## A run -/

omit [LetterCase] [ResetCalls] in
theorem draws_fresh_iff {requests : RequestStore} {externalId rawToken : String} :
    DrawsFresh s (.advance call requests externalId rawToken) ↔
      ((match s.resets call with | .issue _ _ _ => true | _ => false) = true →
        s.redis.IsFresh (buildKey rawToken)) := by
  refine ⟨fun h hissues => ?_, fun h email totp userExternalId hcall => h (by rw [hcall])⟩
  split at hissues
  · rename_i email totp userExternalId hcall
    exact h email totp userExternalId hcall
  · cases hissues

instance (action : ResetAction) : Decidable (DrawsFresh s action) :=
  match action with
  | .advance _ _ _ rawToken =>
      have : Decidable (s.redis.IsFresh (buildKey rawToken)) :=
        inferInstanceAs (Decidable (∀ ticket ∈ _, _))
      decidable_of_iff _ draws_fresh_iff.symm
  | .wait _ | .requestPasswordReset _ _ _ | .changePassword _ _ _ | .start _ _ => isTrue trivial

/-- The system after an action that draws a fresh token. -/
def stepFresh (s : ResetSystem) (action : ResetAction) : Option ResetSystem :=
  if DrawsFresh s action then s.step action else none

/-- Actions that can be taken one after the other are a run. -/
theorem reaches_resets {actions : List ResetAction} (h : actions.foldlM stepFresh s = some t) :
    Reaches ResetStep DrawsFresh s t := by
  induction actions generalizing s with
  | nil =>
      cases h
      exact .refl
  | cons action actions ih =>
      rw [List.foldlM_cons, Option.bind_eq_bind, Option.bind_eq_some_iff] at h
      obtain ⟨middle, hfirst, hrest⟩ := h
      obtain ⟨hfresh, hstep⟩ := Option.ite_none_right_eq_some.mp hfirst
      exact .head ⟨action, hfresh, hstep⟩ (ih hrest)

end

/-- A reset token is good for fifteen minutes. -/
@[reducible] def quarterHour : ResetCalls where
  passwordResetTokenTtlSec := some 900

/-- The next step of a call. -/
def advanceReset (call : Nat) : ResetAction :=
  .advance call .empty ownerId "f0a4"

/-- The owner registers, asks for a reset token and presents it a minute later. -/
def presentToken : List ResetAction :=
  [.start 0 (.register "owner@example.com" "secret" (some "492039")), advanceReset 0,
    advanceReset 0, .requestPasswordReset 1 "owner@example.com" "492039", advanceReset 1,
    advanceReset 1, .wait 60000, .changePassword 2 "f0a4" "another secret"]

/-- The system after these and some more actions. -/
def resetSystem (actions : List ResetAction) : ResetSystem :=
  ((presentToken ++ actions).foldlM (@stepFresh .ascii tokenCalls quarterHour)
    (noTokens 0)).getD (noTokens 0)

theorem reset_system_reached {actions : List ResetAction}
    (h : ((presentToken ++ actions).foldlM (@stepFresh .ascii tokenCalls quarterHour)
      (noTokens 0)).isSome = true) :
    Reaches (@ResetStep .ascii tokenCalls quarterHour) (@DrawsFresh tokenCalls) (noTokens 0)
      (resetSystem actions) := by
  obtain ⟨system, hsystem⟩ := Option.isSome_iff_exists.mp h
  rw [resetSystem, hsystem, Option.getD_some]
  exact @reaches_resets .ascii tokenCalls quarterHour _ _ _ hsystem

theorem password_changes_ticketed_owner :
    (resetSystem (List.replicate 4 (advanceReset 2))).changes.length = 1 ∧
      ∀ change ∈ (resetSystem (List.replicate 4 (advanceReset 2))).changes,
        change.userExternalId = change.ticket.owner ∧
          @IsEarned .ascii tokenCalls (resetSystem (List.replicate 4 (advanceReset 2)))
            change.ticket := by
  refine ⟨by decide +kernel, ?_⟩
  exact (@password_changes_ticketed .ascii tokenCalls quarterHour _ _ 0 .refl
    (reset_system_reached (by decide +kernel))).2.1

theorem reset_takes_effect_owner :
    ∃ t, (List.replicate 4 (advanceReset 2)).foldlM
        (@ResetSystem.step .ascii tokenCalls quarterHour) (resetSystem []) = some t ∧
      ∀ ticket, ¬ @IsUsable tokenCalls t.redis "f0a4" ticket := by
  obtain ⟨t, hrun, -, hspent, -⟩ := @reset_takes_effect .ascii tokenCalls quarterHour
    (resetSystem []) 2 token_calls_hash 0 (reset_system_reached (by decide +kernel)) "f0a4"
    "another secret" (by decide +kernel) .empty ownerId "f0a4"
  exact ⟨t, hrun, hspent⟩

end MyHomeHub.AuthService
