import MyHomeHub.Library.Runs
import MyHomeHub.Users.RegistrationRequests

/-!
# Runs of registration requests

The calls of the registration requests service come in any order and for any emails. The
state of a run has the stored requests together with the calls that succeeded so far, the
last one first, each with the request it has saved. What a request went through is read
off the calls that saved the request of its email, so a property of a run is a property
of each stored request and its calls, and `each_request` proves it from one step.
-/

namespace MyHomeHub.RegistrationRequests

open JavaScript Library

/-- A call that succeeded, with the request it has saved. -/
structure RequestEvent where
  call : RequestCall
  request : RegistrationRequest
  deriving DecidableEq, Repr

/-- The stored requests and the calls so far, the last one first. -/
structure RequestHistory where
  requests : RequestStore
  events : List RequestEvent

/-- No request is stored. -/
def noRequests : RequestHistory :=
  ⟨.empty, []⟩

/-- The calls that have saved the request of an email. -/
def eventsOf (events : List RequestEvent) (requesterEmail : String) : List RequestEvent :=
  events.filter fun event => event.request.requesterEmail = requesterEmail

theorem events_of_cons_same (event : RequestEvent) (events : List RequestEvent) :
    eventsOf (event :: events) event.request.requesterEmail =
      event :: eventsOf events event.request.requesterEmail :=
  List.filter_cons_of_pos (decide_eq_true rfl)

theorem events_of_cons_other {event : RequestEvent} {requesterEmail : String}
    (h : requesterEmail ≠ event.request.requesterEmail) (events : List RequestEvent) :
    eventsOf (event :: events) requesterEmail = eventsOf events requesterEmail :=
  List.filter_cons_of_neg fun hsame => h (of_decide_eq_true hsame).symm

/-- A property of each stored request and the calls that have saved it. -/
def EachRequest (Q : RegistrationRequest → List RequestEvent → Prop) (state : RequestHistory) :
    Prop :=
  ∀ request ∈ state.requests, Q request (eventsOf state.events request.requesterEmail)

section

variable [LetterCase]

/-- The state after a call. A call that is rejected changes nothing. -/
def next (state : RequestHistory) (call : RequestCall) : RequestHistory :=
  match perform state.requests call with
  | .ok (requests, request) => ⟨requests, ⟨call, request⟩ :: state.events⟩
  | .error _ => state

/-- One call. -/
def RequestStep (state : RequestHistory) (call : RequestCall) (state' : RequestHistory) : Prop :=
  state' = next state call

/-- The state after some calls. -/
def afterCalls (calls : List RequestCall) : RequestHistory :=
  calls.foldl next noRequests

/-- Some calls are a run. -/
theorem reaches_after_calls (calls : List RequestCall) :
    Reaches RequestStep anyAction noRequests (afterCalls calls) := by
  induction calls using List.reverseRecOn with
  | nil => exact .refl
  | append_singleton calls call ih =>
      rw [afterCalls, List.foldl_append]
      exact ih.tail ⟨call, trivial, rfl⟩

/-- A property of each request holds after every run if it holds of what each call saves. -/
theorem each_request {allowed : RequestHistory → RequestCall → Prop}
    {Q : RegistrationRequest → List RequestEvent → Prop}
    (hstep : ∀ state call request, allowed state call → EachRequest Q state →
      Performed state.requests call request →
      Q request (⟨call, request⟩ :: eventsOf state.events request.requesterEmail))
    {state : RequestHistory} (hrun : Reaches RequestStep allowed noRequests state) :
    EachRequest Q state := by
  refine @Reaches.invariant _ _ _ _ _ _ (EachRequest Q) hrun ?_ ?_
  · intro request hrequest
    cases hrequest
  · intro before call after hbefore hallowed hafter
    cases hafter
    unfold next
    split
    · rename_i requests saved hperform
      obtain ⟨hsaves, hperformed⟩ := perform_ok hperform
      intro request hrequest
      rcases (hsaves request).mp hrequest with rfl | ⟨hold, hother⟩
      · rw [events_of_cons_same ⟨call, request⟩]
        exact hstep before call request hallowed hbefore hperformed
      · -- the call has saved the request of another email
        rw [events_of_cons_other hother]
        exact hbefore request hold
    · exact hbefore

/-! ## Cancelled and blacklisted requests -/

/-- Whether the request was cancelled and neither submitted again nor approved with a one-time
password since. -/
def isWithdrawn : List RequestEvent → Bool
  | [] => false
  | event :: earlier =>
      match event.call with
      | .cancel _ => true
      | .create .. | .autoApprove .. => false
      | .update .. => isWithdrawn earlier

/-- A call approves no blacklisted request that stays blacklisted, and rejects no cancelled one. -/
def KeepsExclusions (state : RequestHistory) : RequestCall → Prop
  | .autoApprove _ email =>
      ∀ request, getRequestByEmail state.requests email = some request →
        request.isBlackListed = false
  | .update externalId dto =>
      ∀ request, getRequestByExternalId state.requests externalId = some request →
        (dto.approve = true → dto.blackListed = .undefined → request.isBlackListed = false) ∧
          (dto.approve = false → request.status ≠ .cancelled)
  | .create .. | .cancel _ => True

/-- An approved request is not blacklisted, and a withdrawn one is still cancelled. -/
def IsExclusive (request : RegistrationRequest) (events : List RequestEvent) : Prop :=
  (request.status = .approved → request.isBlackListed = false) ∧
    (isWithdrawn events = true → request.status = .cancelled)

/-- What an update saves keeps the exclusions. -/
theorem is_exclusive_update {state : RequestHistory} {externalId : String}
    {dto : UpdateRegistrationRequestDto} {old : RegistrationRequest} {events : List RequestEvent}
    (hallowed : KeepsExclusions state (.update externalId dto))
    (hold : getRequestByExternalId state.requests externalId = some old)
    (hexclusive : IsExclusive old events)
    (hblackListed : dto.approve = true → dto.blackListed.getD false = false)
    (hcancelled : dto.approve = true → old.status ≠ .cancelled) :
    IsExclusive (assignRequest old dto)
      (⟨.update externalId dto, assignRequest old dto⟩ :: events) := by
  obtain ⟨hkept, hreject⟩ := hallowed old hold
  constructor
  · intro happroved
    have happrove : dto.approve = true := by
      by_contra hnot
      rw [assignRequest, if_neg hnot] at happroved
      cases happroved
    unfold RegistrationRequest.isBlackListed assignRequest
    dsimp only
    split
    · rename_i hundefined
      exact hkept happrove hundefined
    · exact hblackListed happrove
  · intro hwithdrawn
    have hstatus : old.status = .cancelled := hexclusive.2 hwithdrawn
    cases happrove : dto.approve with
    | false => exact absurd hstatus (hreject happrove)
    | true => exact absurd hstatus (hcancelled happrove)

/-- What a call saves keeps the exclusions. -/
theorem is_exclusive_performed {state : RequestHistory} {call : RequestCall}
    {request : RegistrationRequest} (hallowed : KeepsExclusions state call)
    (hbefore : EachRequest IsExclusive state)
    (h : Performed state.requests call request) :
    IsExclusive request (⟨call, request⟩ :: eventsOf state.events request.requesterEmail) := by
  cases h with
  | created hstatus hblackListed =>
      constructor
      · intro happroved
        cases hstatus.symm.trans happroved
      · intro hwithdrawn
        cases hwithdrawn
  | autoCreated hrole hblackListed =>
      constructor
      · intro _
        rw [RegistrationRequest.isBlackListed, hblackListed, Optional.get_d_value]
      · intro hwithdrawn
        cases hwithdrawn
  | reopened hold hblackListed =>
      constructor
      · intro _
        exact hblackListed
      · intro hwithdrawn
        cases hwithdrawn
  | autoApproved hold =>
      have hfree := hallowed _ hold
      constructor
      · intro _
        exact hfree
      · intro hwithdrawn
        cases hwithdrawn
  | updated hold hblackListed hcancelled hrole =>
      exact is_exclusive_update hallowed hold
        (hbefore _ (get_request_by_external_id hold).1) hblackListed hcancelled
  | cancelled hold hpending =>
      constructor
      · intro happroved
        cases happroved
      · intro _
        rfl

/-- After every run of calls that keep the exclusions, no request is approved and blacklisted, and
no cancelled request is approved that was neither submitted again nor approved with a one-time
password since. -/
theorem exclusions_kept {state : RequestHistory}
    (hrun : Reaches RequestStep KeepsExclusions noRequests state) :
    ∀ request ∈ state.requests,
      (request.status = .approved → request.isBlackListed = false) ∧
        (isWithdrawn (eventsOf state.events request.requesterEmail) = true →
          request.status ≠ .approved) := by
  intro request hrequest
  have hall : EachRequest IsExclusive state :=
    each_request (fun _ _ _ => is_exclusive_performed) hrun
  have hexclusive := hall request hrequest
  refine ⟨hexclusive.1, fun hwithdrawn happroved => ?_⟩
  rw [hexclusive.2 hwithdrawn] at happroved
  cases happroved

end

/-! ## A visitor -/

/-- The external id that the schema generates for the request of the visitor. -/
def visitId : String :=
  "5d9c2f18-7b40-4e6a-8c13-a0f4e2b7d691"

/-- The body with which the visitor submits the request. -/
def visitDto : CreateRegistrationRequestDto where
  email := "Visitor@example.com"
  comment := .undefined

/-- A body that approves or rejects a request. -/
def reviewDto (approve blackListed : Bool) : UpdateRegistrationRequestDto where
  approve := approve
  blackListed := .value blackListed
  role := .undefined

/-- The request of the visitor was submitted, cancelled, submitted again and approved. -/
def resubmitted : RequestHistory :=
  @afterCalls .ascii [.create visitId visitDto, .cancel visitId, .create visitId visitDto,
    .update visitId (reviewDto true false)]

theorem resubmitted_reached :
    Reaches (@RequestStep .ascii) (@KeepsExclusions .ascii) noRequests resubmitted := by
  have hcreate : Reaches (@RequestStep .ascii) (@KeepsExclusions .ascii) noRequests _ :=
    .tail .refl ⟨.create visitId visitDto, trivial, rfl⟩
  have hcancel := hcreate.tail ⟨.cancel visitId, trivial, rfl⟩
  have hagain := hcancel.tail ⟨.create visitId visitDto, trivial, rfl⟩
  refine hagain.tail ⟨.update visitId (reviewDto true false), fun request _ => ?_, rfl⟩
  constructor
  · intro _ hundefined
    cases hundefined
  · intro hreject
    cases hreject

theorem exclusions_kept_resubmitted :
    resubmitted.requests.docs.length = 1 ∧
    ∀ request ∈ resubmitted.requests,
      (request.status = .approved → request.isBlackListed = false) ∧
        (isWithdrawn (eventsOf resubmitted.events request.requesterEmail) = true →
          request.status ≠ .approved) :=
  ⟨by decide, @exclusions_kept .ascii _ resubmitted_reached⟩

/-- A visitor who was blacklisted registers with a one-time password, and a cancelled request is
approved after it was rejected. -/
theorem excluded_requests_approved :
    (∃ state, Reaches (@RequestStep .ascii) anyAction noRequests state ∧
      ∃ request ∈ state.requests, request.status = .approved ∧ request.isBlackListed = true) ∧
    (∃ state, Reaches (@RequestStep .ascii) anyAction noRequests state ∧
      ∃ request ∈ state.requests, request.status = .approved ∧
        isWithdrawn (eventsOf state.events request.requesterEmail) = true) := by
  constructor
  · refine ⟨_, @reaches_after_calls .ascii [.create visitId visitDto,
      .update visitId (reviewDto false true), .autoApprove visitId visitDto.email], ?_⟩
    exact List.exists_mem_iff_getElem.mpr ⟨0, by decide⟩
  · refine ⟨_, @reaches_after_calls .ascii [.create visitId visitDto, .cancel visitId,
      .update visitId (reviewDto false false), .update visitId (reviewDto true false)], ?_⟩
    exact List.exists_mem_iff_getElem.mpr ⟨0, by decide⟩

end MyHomeHub.RegistrationRequests
