import MyHomeHub.Auth.Service
import MyHomeHub.Users.RequestRuns

/-!
# The roles of registered users

Who registers without a one-time password gets the role of the registration request of
the email. The request outlives a review: it may be rejected or cancelled and submitted
again, and it keeps its role then. So the role is the one that the current approval grants
as long as every approval names a role or meets a request with the default role.
-/

namespace MyHomeHub.AuthService

open JavaScript Library UsersService RegistrationRequests

/-- The role that a call grants when it approves a request: the one the update names, or the default
one. -/
def grantedRole : RequestCall → Option UserRole
  | .update _ dto => some (dto.role.getD defaultUserRole)
  | .autoApprove .. => some totpRegisteredUserRole
  | .create .. | .cancel _ => none

section

variable [LetterCase]

/-- The call that has approved the request of an email is the last one that has saved it. -/
def approvalOf (state : RequestHistory) (email : String) : Option RequestEvent :=
  (eventsOf state.events (requesterEmailOf email)).head?

omit [LetterCase] in
/-- An approval without a role meets a request with the default role. -/
def NamesRole (state : RequestHistory) : RequestCall → Prop
  | .update externalId dto =>
      dto.approve = true → dto.role = .undefined →
        ∀ request, getRequestByExternalId state.requests externalId = some request →
          request.role = some defaultUserRole
  | .create .. | .autoApprove .. | .cancel _ => True

omit [LetterCase] in
/-- An approved request has the role that its approval has granted. -/
def HoldsGrant (request : RegistrationRequest) (events : List RequestEvent) : Prop :=
  request.status = .approved →
    ∃ event, events.head? = some event ∧ event.request = request ∧
      grantedRole event.call = request.role

omit [LetterCase] in
/-- What an update saves has the granted role. -/
theorem holds_grant_update {state : RequestHistory} {externalId : String}
    {dto : UpdateRegistrationRequestDto} {old : RegistrationRequest}
    (hallowed : NamesRole state (.update externalId dto))
    (hold : getRequestByExternalId state.requests externalId = some old)
    (hrole : (assignRequest old dto).role.isSome)
    (happroved : (assignRequest old dto).status = .approved) :
    grantedRole (.update externalId dto) = (assignRequest old dto).role := by
  have happrove : dto.approve = true := by
    by_contra hnot
    rw [assignRequest, if_neg hnot] at happroved
    cases happroved
  unfold grantedRole
  unfold assignRequest at hrole ⊢
  dsimp only at hrole ⊢
  cases hdto : dto.role with
  | undefined =>
      rw [if_pos rfl, hallowed happrove hdto old hold]
      rfl
  | null =>
      -- a request without a role is not saved
      rw [hdto] at hrole
      cases hrole
  | value role => rfl

/-- What a call saves has the role that the call grants. -/
theorem holds_grant_performed {state : RequestHistory} {call : RequestCall}
    {request : RegistrationRequest} (hallowed : NamesRole state call)
    (h : Performed state.requests call request) (events : List RequestEvent) :
    HoldsGrant request (⟨call, request⟩ :: events) := by
  intro happroved
  refine ⟨_, rfl, rfl, ?_⟩
  cases h with
  | created hstatus hblackListed => cases hstatus.symm.trans happroved
  | autoCreated hrole hblackListed => exact hrole.symm
  | reopened hold hblackListed => cases happroved
  | autoApproved hold => rfl
  | updated hold hblackListed hcancelled hrole =>
      exact holds_grant_update hallowed hold hrole happroved
  | cancelled hold hpending => cases happroved

/-- After every run of approvals that name a role, an approved request has the granted role. -/
theorem approved_role_granted {state : RequestHistory}
    (hrun : Reaches RequestStep NamesRole noRequests state) : EachRequest HoldsGrant state :=
  each_request (fun _ _ _ hallowed _ h => holds_grant_performed hallowed h _) hrun

/-! ## Registrations -/

variable [AuthCalls]

/-- A user registers without a one-time password: with a password, or with a Google account that
neither is linked nor has the email of a user. -/
inductive RegistersWithoutTotp (requests : RequestStore) (email : String) (user : User) : Prop where
  | password {users : UserStore} {userExternalId requestExternalId password : String}
      {totp : Option String} (htotp : isSet totp = false)
      (h : (register users requests userExternalId requestExternalId email password totp).result =
        .ok user) : RegistersWithoutTotp requests email user
  | google {users users' : UserStore} {externalId : String} {profile : GoogleProfile}
      (hemail : profile.email = email)
      (hnew : ∀ other ∈ users, other.externalId ≠ user.externalId)
      (h : resolveUserByGoogleEmail users requests externalId profile = .ok (users', user)) :
      RegistersWithoutTotp requests email user

omit [AuthCalls] in
theorem create_ok {users users' : UserStore} {externalId : String} {data : CreateUserData}
    {user : User} (h : create users externalId data = .ok (users', user)) :
    user = newUser externalId data := by
  unfold create UsersService.saveNew at h
  split at h
  · cases h
  · split at h
    · split at h
      · cases h
        rfl
      · cases h
    · cases h

omit [AuthCalls] in
theorem link_google_account_ok {users users' : UserStore} {externalId : String}
    {profile : GoogleProfile} {user : User}
    (h : linkGoogleAccount users externalId profile = .ok (users', user)) :
    ∃ other ∈ users, other.externalId = user.externalId := by
  obtain ⟨found, hfound, hsave⟩ := bind_ok_iff.mp h
  unfold findStrict at hfound
  split at hfound
  · rename_i other hother
    cases hfound
    refine ⟨found, List.mem_of_find?_eq_some hother, ?_⟩
    unfold UsersService.save at hsave
    split at hsave
    · cases hsave
    · split at hsave
      · cases hsave
        rfl
      · cases hsave
      · cases hsave
  · cases hfound

omit [AuthCalls] in
theorem get_approved_request_ok {requests : RequestStore} {email : String}
    {request : RegistrationRequest} (h : getApprovedRequestByEmail requests email = .ok request) :
    request ∈ requests ∧ request.requesterEmail = requesterEmailOf email ∧
      request.status = .approved := by
  unfold getApprovedRequestByEmail at h
  split at h
  · cases h
  · rename_i found hfound
    obtain ⟨hmem, hemail⟩ := get_request_by_email hfound
    split at h
    · cases h
    · cases h
    · cases h
    · rename_i hstatus
      cases h
      exact ⟨hmem, hemail, hstatus⟩

/-- Who registers without a one-time password has the role of an approved request. -/
theorem registers_with_request {requests : RequestStore} {email : String} {user : User}
    (h : RegistersWithoutTotp requests email user) :
    ∃ request, getApprovedRequestByEmail requests email = .ok request ∧
      user.role = request.role := by
  cases h with
  | password htotp h =>
      unfold register at h
      rw [htotp, if_neg Bool.false_ne_true] at h
      split at h
      · cases h
      · rename_i users' newUser hregistered
        cases h
        obtain ⟨request, hrequest, hcreate⟩ := bind_ok_iff.mp hregistered
        refine ⟨request, hrequest, ?_⟩
        rw [create_ok hcreate]
        rfl
  | google hemail hnew h =>
      subst hemail
      unfold resolveUserByGoogleEmail at h
      split at h
      · -- the Google account is linked to a user
        rename_i linkedUser hlinked
        cases h
        exact absurd rfl (hnew _ (List.mem_of_find?_eq_some hlinked))
      · split at h
        · split at h
          · cases h
          · -- the user with the email was there before
            obtain ⟨other, hother, hid⟩ := link_google_account_ok h
            exact absurd hid (hnew other hother)
        · obtain ⟨request, hrequest, hcreate⟩ := bind_ok_iff.mp h
          refine ⟨request, hrequest, ?_⟩
          rw [create_ok hcreate]
          rfl

/-- After every run of approvals that name a role, who registers without a one-time password gets
the role that the call that has approved the request grants. -/
theorem registered_with_granted_role {state : RequestHistory}
    (hrun : Reaches RequestStep NamesRole noRequests state) {email : String} {user : User}
    (h : RegistersWithoutTotp state.requests email user) :
    ∃ event, approvalOf state email = some event ∧ event.request.status = .approved ∧
      grantedRole event.call = user.role := by
  obtain ⟨request, hrequest, hrole⟩ := registers_with_request h
  obtain ⟨hmem, hemail, hstatus⟩ := get_approved_request_ok hrequest
  obtain ⟨event, hevent, rfl, hgranted⟩ := approved_role_granted hrun request hmem hstatus
  rw [hemail] at hevent
  exact ⟨event, hevent, hstatus, hgranted.trans hrole.symm⟩

end

/-! ## A returning visitor -/

/-- Calls for runs without one-time passwords and ID tokens. -/
@[reducible] def passwordCalls : AuthCalls where
  verifyTotp _ := false
  argon2Hash password := "$argon2id$v=19$m=65536,t=3,p=4$" ++ password
  sha256 text := text
  verifyIdToken _ := none
  googleClientIds := []

/-- A body that approves a request with a role, if there is one. -/
def approveDto (role : Optional UserRole) : UpdateRegistrationRequestDto where
  approve := true
  blackListed := .value false
  role := role

/-- The user who registers with the email of the visitor. -/
def visitUser (role : UserRole) : User where
  externalId := "c0a8b1d2-3e4f-4a5b-9c6d-7e8f90a1b2c3"
  email := "visitor@example.com"
  password := some "$argon2id$v=19$m=65536,t=3,p=4$secret"
  role := some role
  googleIdHash := none
  googleEmail := none

/-- The request of the visitor was approved for a resident. -/
def residentApproved : RequestHistory :=
  @afterCalls .ascii [.create visitId visitDto, .update visitId (approveDto (.value .resident))]

theorem registered_with_granted_role_resident :
    ∃ event, @approvalOf .ascii residentApproved visitDto.email = some event ∧
      event.request.status = .approved ∧
        grantedRole event.call = (visitUser .resident).role := by
  have hcreate : Reaches (@RequestStep .ascii) NamesRole noRequests _ :=
    .tail .refl ⟨.create visitId visitDto, trivial, rfl⟩
  have hrun : Reaches (@RequestStep .ascii) NamesRole noRequests residentApproved := by
    refine hcreate.tail ⟨.update visitId (approveDto (.value .resident)), ?_, rfl⟩
    intro _ hundefined
    cases hundefined
  refine @registered_with_granted_role .ascii passwordCalls _ hrun _ _
    (@RegistersWithoutTotp.password .ascii passwordCalls _ _ _ .empty
      (visitUser .resident).externalId visitId "secret" none rfl ?_)
  decide

/-- The visitor was approved as an admin, rejected, and approved again without a role: the visitor
registers as an admin. -/
theorem returning_visitor_is_admin :
    ∃ state, Reaches (@RequestStep .ascii) anyAction noRequests state ∧
      @RegistersWithoutTotp .ascii passwordCalls state.requests visitDto.email
        (visitUser .admin) ∧
      ∃ event, @approvalOf .ascii state visitDto.email = some event ∧
        event.call = .update visitId (approveDto .undefined) ∧
          grantedRole event.call = some .guest := by
  refine ⟨_, @reaches_after_calls .ascii [.create visitId visitDto,
    .update visitId (approveDto (.value .admin)), .update visitId (reviewDto false false),
    .create visitId visitDto, .update visitId (approveDto .undefined)], ?_, ?_⟩
  · refine @RegistersWithoutTotp.password .ascii passwordCalls _ _ _ .empty
      (visitUser .admin).externalId visitId "secret" none rfl ?_
    decide
  · exact ⟨_, rfl, rfl, rfl⟩

end MyHomeHub.AuthService
