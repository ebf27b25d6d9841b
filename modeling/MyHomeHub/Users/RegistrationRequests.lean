import MyHomeHub.Common.Errors
import MyHomeHub.Library.Collection
import MyHomeHub.Users.Interfaces

/-!
# The registration requests service

`registration-requests.service` and the schema it works on. There is one request for each
email, which the operations rewrite: `createRequest` reopens a rejected or cancelled
request, `updateRequest` approves or rejects one, `cancelRequest` withdraws a pending one
and `createAutoApprovedRequest` approves the one of a user who registers with a one-time
password. A call that is rejected writes nothing.
-/

namespace MyHomeHub.RegistrationRequests

open JavaScript Library

/-! ## The collection -/

/-- The index on `externalId`. -/
def externalIdKey (request : RegistrationRequest) : Option String :=
  some request.externalId

/-- The index on `requesterEmail`. -/
def requesterEmailKey (request : RegistrationRequest) : Option String :=
  some request.requesterEmail

/-- The unique indexes of registration requests. -/
def requestIndexes : List (RegistrationRequest → Option String) :=
  [externalIdKey, requesterEmailKey]

/-- The stored registration requests. -/
abbrev RequestStore := Collection RegistrationRequest String requestIndexes

/-- `REGISTRATION_REQUEST_COMMENT_MAX_LENGTH` -/
def commentMaxLength : Nat := 100

/-- The setter of the comment. -/
def castComment : Optional String → Optional String
  | .value comment => .value (trim comment)
  | other => other

/-- Whether a comment is within its length bound, unless it is not set. -/
def isComment : Optional String → Bool
  | .value comment => utf16Length comment ≤ commentMaxLength
  | _ => true

/-- The paths of the fields of a request that break a rule of the schema. A save checks the
modified fields only, but what is stored has been checked. -/
def invalidPaths (request : RegistrationRequest) : List String :=
  (if request.requesterEmail = "" then ["requesterEmail"] else []) ++
  (if isComment request.requesterComment then [] else ["requesterComment"]) ++
  (if request.role.isSome then [] else ["role"])

/-- What a call that succeeds leaves: the stored requests and the one it has saved. -/
abbrev Saved := RequestStore × RegistrationRequest

/-- `save` of a loaded request. -/
def save (requests : RequestStore) (request : RegistrationRequest) : Except AccountError Saved :=
  match invalidPaths request with
  | [] =>
      match requests.updateFirst
          (fun stored => externalIdKey stored = some request.externalId) (fun _ => request) with
      | .ok requests => .ok (requests, request)
      | .error .noDocument => .error .documentNotFound
      | .error .duplicateKey => .error .duplicateKey
  | paths => .error (.documentValidation paths)

/-- `save` of a new request. -/
def saveNew (requests : RequestStore) (request : RegistrationRequest) :
    Except AccountError Saved :=
  match invalidPaths request with
  | [] =>
      match requests.insert? request with
      | some requests => .ok (requests, request)
      | none => .error .duplicateKey
  | paths => .error (.documentValidation paths)

/-! ## Lookups -/

/-- `getRequestByExternalId` -/
def getRequestByExternalId (requests : RequestStore) (externalId : String) :
    Option RegistrationRequest :=
  requests.docs.find? fun request => externalIdKey request = some externalId

/-- `getRequestByExternalId` of the strict lookups. -/
def getStrict (requests : RequestStore) (externalId : String) :
    Except AccountError RegistrationRequest :=
  match getRequestByExternalId requests externalId with
  | some request => .ok request
  | none => .error (.notFound "Registration request not found")

variable [LetterCase]

/-- The email under which the request of an email is stored. -/
def requesterEmailOf (email : String) : String :=
  castEmail (LetterCase.toLowerCase email)

/-- `getRequestByEmail` -/
def getRequestByEmail (requests : RequestStore) (email : String) : Option RegistrationRequest :=
  requests.docs.find? fun request => requesterEmailKey request = some (requesterEmailOf email)

/-- `getApprovedRequestByEmail` -/
def getApprovedRequestByEmail (requests : RequestStore) (email : String) :
    Except AccountError RegistrationRequest :=
  match getRequestByEmail requests email with
  | none => .error (.fieldValidation
      "No registration request found for this email. Please submit a registration request first."
      "email")
  | some request =>
      match request.status with
      | .pending => .error (.fieldValidation
          "Your registration request has not been reviewed yet. Please wait for admin approval."
          "status")
      | .rejected => .error (.fieldValidation
          "Your registration request has been rejected." "status")
      | .cancelled => .error (.fieldValidation
          ("Your registration request has been cancelled. " ++
            "Please submit a new registration request.") "status")
      | .approved => .ok request

/-! ## Operations -/

/-- `createNewRequest`. The schema generates the external id and sets `blackListed`. -/
def createNewRequest (requests : RequestStore) (externalId requesterEmail : String)
    (status : RegistrationRequestStatus) (role : UserRole) (requesterComment : Optional String) :
    Except AccountError Saved :=
  saveNew requests {
    externalId := externalId
    requesterEmail := requesterEmailOf requesterEmail
    requesterComment := castComment requesterComment
    status := status
    role := some role
    blackListed := .value false }

/-- `createRequest` -/
def createRequest (requests : RequestStore) (externalId : String)
    (dto : CreateRegistrationRequestDto) : Except AccountError Saved :=
  match getRequestByEmail requests dto.email with
  | some existingRequest =>
      match existingRequest.status with
      | .pending => .error (.fieldConflict
          "A pending registration request for this email already exists" "email")
      | .approved => .error (.fieldConflict
          "A registration request for this email has already been approved" "email")
      | .rejected | .cancelled =>
          if existingRequest.isBlackListed then
            .error (.forbidden "Registration requests from this email are not allowed")
          else save requests { existingRequest with
            status := .pending
            requesterComment := castComment dto.comment }
  | none => createNewRequest requests externalId dto.email .pending defaultUserRole dto.comment

/-- `REGISTRATION_REQUEST_TOTP_AUTO_APPROVAL_COMMENT` -/
def totpAutoApprovalComment : String := "Automatically approved via TOTP"

/-- `createAutoApprovedRequest` -/
def createAutoApprovedRequest (requests : RequestStore) (externalId email : String) :
    Except AccountError Saved :=
  match getRequestByEmail requests email with
  | some existingRequest => save requests { existingRequest with
      status := .approved
      role := some totpRegisteredUserRole
      requesterComment := .value totpAutoApprovalComment }
  | none => createNewRequest requests externalId email .approved totpRegisteredUserRole
      (.value totpAutoApprovalComment)

omit [LetterCase] in
/-- The request of `updateRequest` with the values of the body. -/
def assignRequest (request : RegistrationRequest) (dto : UpdateRegistrationRequestDto) :
    RegistrationRequest :=
  { request with
    status := if dto.approve then .approved else .rejected
    blackListed := if dto.blackListed = .undefined then request.blackListed else dto.blackListed
    role := if dto.role = .undefined then request.role else dto.role.toOption }

/-- `updateRequest` -/
def updateRequest (requests : RequestStore) (externalId : String)
    (dto : UpdateRegistrationRequestDto) : Except AccountError Saved :=
  if dto.approve && dto.blackListed.getD false then
    .error (.fieldValidation "Cannot approve and blacklist at the same time" "blackListed")
  else do
    let request ← getStrict requests externalId
    if request.status = .cancelled && dto.approve then
      .error (.fieldValidation "Cannot approve a cancelled registration request" "approve")
    else save requests (assignRequest request dto)

/-- `cancelRequest` -/
def cancelRequest (requests : RequestStore) (externalId : String) : Except AccountError Saved := do
  let request ← getStrict requests externalId
  if request.status = .pending then save requests { request with status := .cancelled }
  else .error (.fieldValidation
    s!"Cannot cancel a registration request with the \"{request.status.text}\" status" "status")

/-- The calls of the service that write. New requests get the external id that comes with the
call. -/
inductive RequestCall where
  | create (externalId : String) (dto : CreateRegistrationRequestDto)
  | autoApprove (externalId email : String)
  | update (externalId : String) (dto : UpdateRegistrationRequestDto)
  | cancel (externalId : String)
  deriving DecidableEq, Repr

/-- What a call leaves. -/
def perform (requests : RequestStore) : RequestCall → Except AccountError Saved
  | .create externalId dto => createRequest requests externalId dto
  | .autoApprove externalId email => createAutoApprovedRequest requests externalId email
  | .update externalId dto => updateRequest requests externalId dto
  | .cancel externalId => cancelRequest requests externalId

/-! ## What a call does -/

section

variable {requests requests' : RequestStore} {request old saved : RegistrationRequest}
  {call : RequestCall} {externalId email : String}

/-- The saved request takes the place of the one of its email. -/
def Saves (requests requests' : RequestStore) (request : RegistrationRequest) : Prop :=
  ∀ other, other ∈ requests' ↔
    other = request ∨ (other ∈ requests ∧ other.requesterEmail ≠ request.requesterEmail)

omit [LetterCase] in
theorem external_id_key_mem : externalIdKey ∈ requestIndexes :=
  List.mem_cons_self

omit [LetterCase] in
theorem requester_email_key_mem : requesterEmailKey ∈ requestIndexes :=
  List.mem_cons_of_mem _ List.mem_cons_self

omit [LetterCase] in
theorem get_request_by_external_id (h : getRequestByExternalId requests externalId = some request) :
    request ∈ requests ∧ request.externalId = externalId := by
  have hkey := List.find?_some h
  rw [decide_eq_true_eq, externalIdKey, Option.some.injEq] at hkey
  exact ⟨List.mem_of_find?_eq_some h, hkey⟩

theorem get_request_by_email (h : getRequestByEmail requests email = some request) :
    request ∈ requests ∧ request.requesterEmail = requesterEmailOf email := by
  have hkey := List.find?_some h
  rw [decide_eq_true_eq, requesterEmailKey, Option.some.injEq] at hkey
  exact ⟨List.mem_of_find?_eq_some h, hkey⟩

omit [LetterCase] in
/-- The external id and the email of a stored request determine each other. -/
theorem external_id_iff_email (h : request ∈ requests) (hold : old ∈ requests) :
    request.externalId = old.externalId ↔ request.requesterEmail = old.requesterEmail := by
  constructor
  · intro hid
    rw [Collection.eq_of_key external_id_key_mem h hold (congrArg some hid) rfl]
  · intro hemail
    rw [Collection.eq_of_key requester_email_key_mem h hold (congrArg some hemail) rfl]

omit [LetterCase] in
/-- A stored request is saved in its place. -/
theorem save_ok (h : save requests request = .ok (requests', saved)) (hold : old ∈ requests)
    (hid : request.externalId = old.externalId)
    (hemail : request.requesterEmail = old.requesterEmail) :
    saved = request ∧ request.role.isSome ∧ Saves requests requests' request := by
  unfold save at h
  split at h
  · rename_i hpaths
    split at h
    · rename_i updated hupdate
      cases h
      obtain ⟨replaced, hreplaced, hkey, hmem⟩ :=
        Collection.mem_of_update_first external_id_key_mem hupdate
      refine ⟨rfl, ?_, fun other => ?_⟩
      · by_contra hrole
        rw [invalidPaths, if_neg hrole] at hpaths
        exact List.cons_ne_nil _ _ (List.append_eq_nil_iff.mp hpaths).2
      · rw [hmem other]
        refine or_congr_right (and_congr_right fun hother => not_congr ?_)
        rw [externalIdKey, Option.some.injEq, hid, hemail]
        exact external_id_iff_email hother hold
    · cases h
    · cases h
  · cases h

omit [LetterCase] in
/-- A new request is saved beside the others. -/
theorem save_new_ok (h : saveNew requests request = .ok (requests', saved)) :
    saved = request ∧ Saves requests requests' request := by
  unfold saveNew at h
  split at h
  · split at h
    · rename_i inserted hinsert
      cases h
      refine ⟨rfl, fun other => ?_⟩
      rw [Collection.mem_of_insert hinsert, or_comm]
      refine or_congr_right (and_iff_left_of_imp fun hother hemail => ?_).symm
      have hdiffer := Collection.keys_differ_of_insert hinsert hother requesterEmailKey
        requester_email_key_mem
      rcases hdiffer with hnone | hne
      · cases hnone
      · exact hne (congrArg some hemail)
    · cases h
  · cases h

/-- What a call that succeeds has saved. -/
inductive Performed (requests : RequestStore) : RequestCall → RegistrationRequest → Prop where
  /-- `createRequest` for an email without a request. -/
  | created {externalId : String} {dto : CreateRegistrationRequestDto}
      {request : RegistrationRequest} (hstatus : request.status = .pending)
      (hblackListed : request.blackListed = .value false) :
      Performed requests (.create externalId dto) request
  /-- `createAutoApprovedRequest` for an email without a request. -/
  | autoCreated {externalId email : String} {request : RegistrationRequest}
      (hrole : request.role = some totpRegisteredUserRole)
      (hblackListed : request.blackListed = .value false) :
      Performed requests (.autoApprove externalId email) request
  /-- `createRequest` for an email with a rejected or cancelled request. -/
  | reopened {externalId : String} {dto : CreateRegistrationRequestDto}
      {old : RegistrationRequest} (hold : getRequestByEmail requests dto.email = some old)
      (hblackListed : old.isBlackListed = false) :
      Performed requests (.create externalId dto)
        { old with status := .pending, requesterComment := castComment dto.comment }
  /-- `createAutoApprovedRequest` for an email with a request. -/
  | autoApproved {externalId email : String} {old : RegistrationRequest}
      (hold : getRequestByEmail requests email = some old) :
      Performed requests (.autoApprove externalId email)
        { old with
          status := .approved
          role := some totpRegisteredUserRole
          requesterComment := .value totpAutoApprovalComment }
  /-- `updateRequest` -/
  | updated {externalId : String} {dto : UpdateRegistrationRequestDto}
      {old : RegistrationRequest} (hold : getRequestByExternalId requests externalId = some old)
      (hblackListed : dto.approve = true → dto.blackListed.getD false = false)
      (hcancelled : dto.approve = true → old.status ≠ .cancelled)
      (hrole : (assignRequest old dto).role.isSome) :
      Performed requests (.update externalId dto) (assignRequest old dto)
  /-- `cancelRequest` -/
  | cancelled {externalId : String} {old : RegistrationRequest}
      (hold : getRequestByExternalId requests externalId = some old)
      (hpending : old.status = .pending) :
      Performed requests (.cancel externalId) { old with status := .cancelled }

theorem create_request_ok {dto : CreateRegistrationRequestDto}
    (h : createRequest requests externalId dto = .ok (requests', request)) :
    Saves requests requests' request ∧ Performed requests (.create externalId dto) request := by
  unfold createRequest at h
  split at h
  · rename_i old hold
    have hreopen : (if old.isBlackListed then
          .error (.forbidden "Registration requests from this email are not allowed")
        else save requests { old with
          status := .pending
          requesterComment := castComment dto.comment }) = Except.ok (requests', request) →
        Saves requests requests' request ∧ Performed requests (.create externalId dto) request := by
      intro hsaved
      split at hsaved
      · cases hsaved
      · rename_i hfree
        obtain ⟨rfl, -, hsaves⟩ := save_ok hsaved (get_request_by_email hold).1 rfl rfl
        exact ⟨hsaves, .reopened hold (Bool.eq_false_iff.mpr hfree)⟩
    split at h
    · cases h
    · cases h
    · exact hreopen h
    · exact hreopen h
  · obtain ⟨rfl, hsaves⟩ := save_new_ok h
    exact ⟨hsaves, .created rfl rfl⟩

theorem create_auto_approved_request_ok
    (h : createAutoApprovedRequest requests externalId email = .ok (requests', request)) :
    Saves requests requests' request ∧
      Performed requests (.autoApprove externalId email) request := by
  unfold createAutoApprovedRequest at h
  split at h
  · rename_i old hold
    obtain ⟨rfl, -, hsaves⟩ := save_ok h (get_request_by_email hold).1 rfl rfl
    exact ⟨hsaves, .autoApproved hold⟩
  · obtain ⟨rfl, hsaves⟩ := save_new_ok h
    exact ⟨hsaves, .autoCreated rfl rfl⟩

omit [LetterCase] in
theorem get_strict_ok (h : getStrict requests externalId = .ok request) :
    getRequestByExternalId requests externalId = some request := by
  unfold getStrict at h
  split at h
  · rename_i found hfound
    cases h
    exact hfound
  · cases h

theorem update_request_ok {dto : UpdateRegistrationRequestDto}
    (h : updateRequest requests externalId dto = .ok (requests', request)) :
    Saves requests requests' request ∧ Performed requests (.update externalId dto) request := by
  unfold updateRequest at h
  split at h
  · cases h
  · rename_i hboth
    obtain ⟨old, hstrict, h⟩ := bind_ok_iff.mp h
    have hold := get_strict_ok hstrict
    split at h
    · cases h
    · rename_i hcancelled
      obtain ⟨rfl, hrole, hsaves⟩ := save_ok h (get_request_by_external_id hold).1 rfl rfl
      refine ⟨hsaves, .updated hold (fun happrove => ?_) (fun happrove hstatus => ?_) hrole⟩
      · rw [happrove, Bool.true_and] at hboth
        exact Bool.eq_false_iff.mpr hboth
      · exact hcancelled (by rw [happrove, hstatus]; rfl)

theorem cancel_request_ok (h : cancelRequest requests externalId = .ok (requests', request)) :
    Saves requests requests' request ∧ Performed requests (.cancel externalId) request := by
  obtain ⟨old, hstrict, h⟩ := bind_ok_iff.mp h
  have hold := get_strict_ok hstrict
  split at h
  · rename_i hpending
    obtain ⟨rfl, -, hsaves⟩ := save_ok h (get_request_by_external_id hold).1 rfl rfl
    exact ⟨hsaves, .cancelled hold hpending⟩
  · cases h

/-- A call that succeeds saves one request. -/
theorem perform_ok (h : perform requests call = .ok (requests', request)) :
    Saves requests requests' request ∧ Performed requests call request := by
  cases call with
  | create externalId dto => exact create_request_ok h
  | autoApprove externalId email => exact create_auto_approved_request_ok h
  | update externalId dto => exact update_request_ok h
  | cancel externalId => exact cancel_request_ok h

end

end MyHomeHub.RegistrationRequests
