import MyHomeHub.Auth.LinkedAccounts

/-!
# The identity and the role of a user

No call removes a user, and none changes the external id, the email or the role of one, in
whatever order the steps of the calls come (`SameAccounts`). So the role of a user is the
one that it was created with, and `roles_kept_as_granted` says where that role comes from:
a valid one-time password, or a registration request that was approved for the email when
the call read it.
-/

namespace MyHomeHub.AuthService

open JavaScript Library UsersService RegistrationRequests

/-- The same account: what identifies a user and what the user may do. -/
structure SameAccount (user user' : User) : Prop where
  externalId : user'.externalId = user.externalId
  email : user'.email = user.email
  role : user'.role = user.role

theorem SameAccount.refl (user : User) : SameAccount user user :=
  ⟨rfl, rfl, rfl⟩

theorem SameAccount.trans {first second third : User} (h : SameAccount first second)
    (hnext : SameAccount second third) : SameAccount first third :=
  ⟨hnext.externalId.trans h.externalId, hnext.email.trans h.email, hnext.role.trans h.role⟩

/-- Every user is still there, under the same account. -/
def SameAccounts (users users' : UserStore) : Prop :=
  ∀ user ∈ users, ∃ user' ∈ users', SameAccount user user'

theorem SameAccounts.refl (users : UserStore) : SameAccounts users users :=
  fun user huser => ⟨user, huser, .refl user⟩

theorem SameAccounts.trans {first second third : UserStore} (h : SameAccounts first second)
    (hnext : SameAccounts second third) : SameAccounts first third := by
  intro user huser
  obtain ⟨user', huser', hsame⟩ := h user huser
  obtain ⟨user'', huser'', hsame'⟩ := hnext user' huser'
  exact ⟨user'', huser'', hsame.trans hsame'⟩

/-- The call writes a password of the user. -/
def SavesPassword (control : Control) (userExternalId : String) : Prop :=
  ∃ loaded passwordHash, control = .savePassword loaded passwordHash ∧
    loaded.externalId = userExternalId

section

variable [LetterCase]

variable {users users' : UserStore} {control : Control}

omit [LetterCase] in
/-- When one user is replaced, a user of before is still there, or it is the replaced one. -/
theorem user_of_replaced {stored updated user : User} (hstored : stored ∈ users)
    (hmem : ∀ other, other ∈ users' ↔ other = updated ∨
      (other ∈ users ∧ other.externalId ≠ stored.externalId)) (huser : user ∈ users) :
    user ∈ users' ∨ (user = stored ∧ updated ∈ users') := by
  by_cases hid : user.externalId = stored.externalId
  · exact .inr ⟨eq_of_external_id huser hstored hid, (hmem updated).mpr (.inl rfl)⟩
  · exact .inl ((hmem user).mpr (.inr ⟨huser, hid⟩))

/-- A write keeps every account, and it changes the password of a user only if it saves one. -/
theorem account_of_write (h : Writes users control users') {user : User} (huser : user ∈ users) :
    ∃ user' ∈ users', SameAccount user user' ∧
      (user'.password = user.password ∨ SavesPassword control user.externalId) := by
  cases h with
  | @linked loaded saved profile users' h =>
      obtain ⟨-, stored, hstored, hid, hmem⟩ := save_ok h
      rw [write_linked, ← hid] at hmem
      rcases user_of_replaced hstored hmem huser with hkept | ⟨rfl, hupdated⟩
      · exact ⟨user, hkept, .refl user, .inl rfl⟩
      · exact ⟨_, hupdated, ⟨rfl, rfl, rfl⟩, .inl rfl⟩
  | @unlinked loaded saved users' h =>
      obtain ⟨-, stored, hstored, hid, hmem⟩ := save_ok h
      rw [write_unlinked, ← hid] at hmem
      rcases user_of_replaced hstored hmem huser with hkept | ⟨rfl, hupdated⟩
      · exact ⟨user, hkept, .refl user, .inl rfl⟩
      · exact ⟨_, hupdated, ⟨rfl, rfl, rfl⟩, .inl rfl⟩
  | @password loaded saved passwordHash users' h =>
      obtain ⟨-, stored, hstored, hid, hmem⟩ := save_ok h
      rw [write_password, ← hid] at hmem
      rcases user_of_replaced hstored hmem huser with hkept | ⟨rfl, hupdated⟩
      · exact ⟨user, hkept, .refl user, .inl rfl⟩
      · exact ⟨_, hupdated, ⟨rfl, rfl, rfl⟩, .inr ⟨loaded, passwordHash, rfl, hid.symm⟩⟩
  | @created externalId data saved users' h =>
      obtain ⟨-, -, hmem⟩ := save_new_ok h
      exact ⟨user, (hmem user).mpr (.inl huser), .refl user, .inl rfl⟩

end

section

variable [LetterCase] [AuthCalls]

variable {system system' : AuthSystem}

/-- A step keeps every account, and it changes the password of a user only if its call saves one. -/
theorem account_of_step {action : AuthAction} (h : AuthStep system action system') {user : User}
    (huser : user ∈ system.users) :
    ∃ user' ∈ system'.users, SameAccount user user' ∧ (user'.password = user.password ∨
      ∃ call requests externalId, action = .advance call requests externalId ∧
        SavesPassword (system.calls call) user.externalId) := by
  cases h with
  | start hfree => exact ⟨user, huser, .refl user, .inl rfl⟩
  | @advance call requests externalId =>
      have hadvances : Advances system.users (system.calls call)
        (next system.users requests externalId (system.calls call)) := next_advances
      revert hadvances
      generalize next system.users requests externalId (system.calls call) = after
      intro hadvances
      cases hadvances with
      | ends => exact ⟨user, huser, .refl user, .inl rfl⟩
      | moves hmoves => exact ⟨user, huser, .refl user, .inl rfl⟩
      | writes hwrites =>
          obtain ⟨user', huser', hsame, hpassword⟩ := account_of_write hwrites huser
          refine ⟨user', huser', hsame, hpassword.imp_right fun h => ?_⟩
          exact ⟨call, requests, externalId, rfl, h⟩

/-- Every run keeps every account. -/
theorem same_accounts_of_run (hrun : Reaches AuthStep anyAction system system') :
    SameAccounts system.users system'.users := by
  refine @Reaches.invariant _ _ _ _ _ _ (fun later => SameAccounts system.users later.users) hrun
    (.refl _) fun before action after hbefore _ hstep => hbefore.trans fun user huser => ?_
  obtain ⟨user', huser', hsame, -⟩ := account_of_step hstep huser
  exact ⟨user', huser', hsame⟩

/-! ## Roles -/

/-- A registration request for the email is approved for the role. -/
def IsApprovedFor (requests : RequestStore) (email : String) (role : Option UserRole) : Prop :=
  ∃ request, getApprovedRequestByEmail requests email = .ok request ∧ request.role = role

/-- What gives the owner of an email a role: a valid one-time password, or a registration request
that is approved when a call reads it. -/
inductive RoleGranted (actions : List AuthAction) (email : String) : Option UserRole → Prop where
  | totp {call : Nat} {password totp : String}
      (hmem : .start call (.register email password (some totp)) ∈ actions)
      (hvalid : AuthCalls.verifyTotp totp = true) :
      RoleGranted actions email (some totpRegisteredUserRole)
  | request {call : Nat} {requests : RequestStore} {externalId : String} {role : Option UserRole}
      (hmem : .advance call requests externalId ∈ actions)
      (happroved : IsApprovedFor requests email role) : RoleGranted actions email role

variable {actions : List AuthAction} {email : String} {role : Option UserRole}

theorem RoleGranted.mono {later : List AuthAction} (h : RoleGranted actions email role) :
    RoleGranted (actions ++ later) email role := by
  cases h with
  | totp hmem hvalid => exact .totp (List.mem_append_left _ hmem) hvalid
  | request hmem happroved => exact .request (List.mem_append_left _ hmem) happroved

/-- The user that a call is about to create. -/
def createdBy : Control → Option CreateUserData
  | .create data | .saveNew data => some data
  | _ => none

/-- A request starts to create a user only with a valid one-time password. -/
theorem created_by_begin {request : AuthRequest} {data : CreateUserData}
    (h : createdBy (begin request) = some data) :
    data.role = some totpRegisteredUserRole ∧ ∃ password totp,
      request = .register data.email password (some totp) ∧ AuthCalls.verifyTotp totp = true := by
  cases request with
  | register email password totp =>
      dsimp only [begin] at h
      split at h
      · split at h
        · rename_i hset hvalid
          cases h
          cases totp with
          | none => cases hset
          | some totp => exact ⟨rfl, password, totp, rfl, hvalid⟩
        · cases h
      · cases h
  | linkAccount userExternalId idToken | login idToken =>
      dsimp only [begin] at h
      split at h <;> cases h
  | unlinkAccount userExternalId | changePassword userExternalId newPassword => cases h

/-- A step that leads to creating a user has read an approved request, or it went on with the same
data. -/
theorem created_by_next {users : UserStore} {requests : RequestStore} {externalId : String}
    {control : Control} {data : CreateUserData}
    (h : createdBy (next users requests externalId control).2 = some data) :
    createdBy control = some data ∨ IsApprovedFor requests data.email data.role := by
  have hadvances : Advances users control (next users requests externalId control) := next_advances
  revert hadvances h
  generalize hafter : next users requests externalId control = after
  intro h hadvances
  cases hadvances with
  | ends => cases h
  | writes hwrites => cases h
  | moves hmoves =>
      cases hmoves with
      | @googleApproved profile role =>
          cases h
          dsimp only [next] at hafter
          split at hafter
          · rename_i request hrequest
            cases hafter
            exact .inr ⟨request, hrequest, rfl⟩
          · cases hafter
      | @passwordApproved email password role =>
          cases h
          dsimp only [next] at hafter
          split at hafter
          · rename_i request hrequest
            cases hafter
            exact .inr ⟨request, hrequest, rfl⟩
          · cases hafter
      | emailFree => exact .inl h
      | _ => cases h

/-- A user has the role that was granted to its email. -/
def HoldsGrantedRole (actions : List AuthAction) (user : User) : Prop :=
  ∃ email, user.email = castEmail email ∧ RoleGranted actions email user.role

/-- Every user has a role that was granted, and every call that creates a user has been granted the
role. -/
structure GrantInvariant (actions : List AuthAction) (system : AuthSystem) : Prop where
  users : ∀ user ∈ system.users, HoldsGrantedRole actions user
  calls : ∀ call data, createdBy (system.calls call) = some data →
    RoleGranted actions data.email data.role

theorem HoldsGrantedRole.mono {later : List AuthAction} {user : User}
    (h : HoldsGrantedRole actions user) : HoldsGrantedRole (actions ++ later) user := by
  obtain ⟨email, hemail, hgranted⟩ := h
  exact ⟨email, hemail, hgranted.mono⟩

/-- Users after a write hold granted roles if the created user does. -/
theorem granted_of_write {users users' : UserStore} {control : Control}
    (h : Writes users control users') (hbefore : ∀ user ∈ users, HoldsGrantedRole actions user)
    (hcreated : ∀ data, createdBy control = some data → RoleGranted actions data.email data.role) :
    ∀ user' ∈ users', HoldsGrantedRole actions user' := by
  intro user' huser'
  -- a user who was there has kept email and role
  have hkept : ∀ user ∈ users, user.externalId = user'.externalId →
      HoldsGrantedRole actions user' := by
    intro user huser hid
    obtain ⟨found, hfound, hsame, -⟩ := account_of_write h huser
    obtain rfl := eq_of_external_id hfound huser' (hsame.externalId.trans hid)
    obtain ⟨email, hemail, hgranted⟩ := hbefore user huser
    exact ⟨email, hsame.email.trans hemail, hsame.role ▸ hgranted⟩
  cases h with
  | linked hsave | unlinked hsave | password hsave =>
      obtain ⟨-, stored, hstored, -, hmem⟩ := save_ok hsave
      rcases (hmem user').mp huser' with rfl | ⟨hold, -⟩
      · exact hkept stored hstored rfl
      · exact hbefore user' hold
  | @created externalId data saved users' hsave =>
      obtain ⟨-, -, hmem⟩ := save_new_ok hsave
      rcases (hmem user').mp huser' with hold | rfl
      · exact hbefore user' hold
      · exact ⟨data.email, rfl, hcreated data rfl⟩

theorem GrantInvariant.step {action : AuthAction} (hinvariant : GrantInvariant actions system)
    (h : AuthStep system action system') : GrantInvariant (actions ++ [action]) system' := by
  have hlast : action ∈ actions ++ [action] := List.mem_append_right _ (List.mem_singleton_self _)
  cases h with
  | @start call request hfree =>
      refine ⟨fun user huser => (hinvariant.users user huser).mono, fun other data hdata => ?_⟩
      dsimp only at hdata
      rcases eq_or_ne other call with rfl | hne
      · rw [Function.update_self] at hdata
        obtain ⟨hrole, password, totp, rfl, hvalid⟩ := created_by_begin hdata
        rw [hrole]
        exact .totp hlast hvalid
      · rw [Function.update_of_ne hne] at hdata
        exact (hinvariant.calls other data hdata).mono
  | @advance call requests externalId =>
      constructor
      · have hadvances : Advances system.users (system.calls call)
          (next system.users requests externalId (system.calls call)) := next_advances
        revert hadvances
        generalize next system.users requests externalId (system.calls call) = after
        intro hadvances user huser
        refine HoldsGrantedRole.mono ?_
        cases hadvances with
        | ends => exact hinvariant.users user huser
        | moves hmoves => exact hinvariant.users user huser
        | writes hwrites =>
            exact granted_of_write hwrites hinvariant.users (hinvariant.calls call) user huser
      · intro other data hdata
        dsimp only at hdata
        rcases eq_or_ne other call with rfl | hne
        · rw [Function.update_self] at hdata
          rcases created_by_next hdata with hbefore | happroved
          · exact (hinvariant.calls other data hbefore).mono
          · exact .request hlast happroved
        · rw [Function.update_of_ne hne] at hdata
          exact (hinvariant.calls other data hdata).mono

theorem grant_invariant_of_run (hrun : Trace AuthStep noUsers actions system) :
    GrantInvariant actions system := by
  refine hrun.invariant ⟨fun user huser => ?_, fun call data hdata => ?_⟩
    fun _ _ _ _ hinvariant hstep => hinvariant.step hstep
  · cases huser
  · cases hdata

/-- However the calls overlap, a user holds a role that was granted to its email by a one-time
password or by an approved request, and keeps its external id, its email and its role for good. -/
theorem roles_kept_as_granted (hrun : Trace AuthStep noUsers actions system) {user : User}
    (huser : user ∈ system.users) :
    HoldsGrantedRole actions user ∧ ∀ system', Reaches AuthStep anyAction system system' →
      ∃ user' ∈ system'.users, SameAccount user user' := by
  constructor
  · exact (grant_invariant_of_run hrun).users user huser
  · intro system' hlater
    exact same_accounts_of_run hlater user huser

/-- Actions that can be taken one after the other are a run. -/
theorem trace_actions (h : actions.foldlM act system = some system') :
    Trace AuthStep system actions system' := by
  induction actions using List.reverseRecOn generalizing system' with
  | nil =>
      cases h
      exact .nil
  | append_singleton actions action ih =>
      rw [List.foldlM_append, Option.bind_eq_bind, Option.bind_eq_some_iff] at h
      obtain ⟨middle, hbefore, hlast⟩ := h
      rw [List.foldlM_cons, Option.bind_eq_bind, Option.bind_eq_some_iff] at hlast
      obtain ⟨last, hact, hend⟩ := hlast
      cases hend
      exact .snoc (ih hbefore) (act_step hact)

end

/-! ## The owner -/

/-- The owner of the hub, who has registered with a one-time password. -/
def owner : User where
  externalId := ownerId
  email := "owner@example.com"
  password := some ownerHash
  role := some .admin
  googleIdHash := none
  googleEmail := none

theorem roles_kept_as_granted_owner :
    @HoldsGrantedRole .ascii tokenCalls registerOwner owner ∧
      ∀ system', Reaches (@AuthStep .ascii tokenCalls) anyAction (ownerSystem []) system' →
        ∃ user' ∈ system'.users, SameAccount owner user' := by
  refine @roles_kept_as_granted .ascii tokenCalls (ownerSystem []) registerOwner ?_ owner ?_
  · exact @trace_actions .ascii tokenCalls _ _ _ rfl
  · show owner ∈ (ownerSystem []).users.docs
    decide +kernel

end MyHomeHub.AuthService
