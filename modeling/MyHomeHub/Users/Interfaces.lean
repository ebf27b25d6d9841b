import MyHomeHub.JavaScript.Number
import MyHomeHub.JavaScript.Optional

/-!
# Users and registration requests

The documents, the request bodies and the errors of the account services, from
`users/interfaces`, `users/dto` and `common/exceptions`.
-/

namespace MyHomeHub

open JavaScript

/-- `UserRole` -/
inductive UserRole where
  | admin
  | resident
  | guest
  deriving DecidableEq, Repr

/-- `DEFAULT_USER_ROLE` -/
def defaultUserRole : UserRole := .guest

/-- `TOTP_REGISTERED_USER_ROLE` -/
def totpRegisteredUserRole : UserRole := .admin

/-- `RegistrationRequestStatus` -/
inductive RegistrationRequestStatus where
  | pending
  | approved
  | rejected
  | cancelled
  deriving DecidableEq, Repr

/-- The text of a status. -/
def RegistrationRequestStatus.text : RegistrationRequestStatus → String
  | .pending => "pending"
  | .approved => "approved"
  | .rejected => "rejected"
  | .cancelled => "cancelled"

/-- `RegistrationRequest`. A request without a role cannot be saved. -/
structure RegistrationRequest where
  externalId : String
  requesterEmail : String
  requesterComment : Optional String
  status : RegistrationRequestStatus
  role : Option UserRole
  blackListed : Optional Bool
  deriving DecidableEq, Repr

/-- Whether `request.blackListed` counts as true. -/
def RegistrationRequest.isBlackListed (request : RegistrationRequest) : Bool :=
  request.blackListed.getD false

/-- `User`. A user without a role cannot be saved. -/
structure User where
  externalId : String
  email : String
  password : Option String
  role : Option UserRole
  googleIdHash : Option String
  googleEmail : Option String
  deriving DecidableEq, Repr

/-- `CreateRegistrationRequestDto` -/
structure CreateRegistrationRequestDto where
  email : String
  comment : Optional String
  deriving DecidableEq, Repr

/-- `UpdateRegistrationRequestDto` -/
structure UpdateRegistrationRequestDto where
  approve : Bool
  blackListed : Optional Bool
  role : Optional UserRole
  deriving DecidableEq, Repr

/-- `CreateUserData` -/
structure CreateUserData where
  email : String
  role : Option UserRole
  password : Option String
  googleIdHash : Option String
  googleEmail : Option String
  deriving DecidableEq, Repr

/-- `GoogleProfile`: the verified account details of an ID token. -/
structure GoogleProfile where
  googleIdHash : String
  email : String
  deriving DecidableEq, Repr

/-- Whether an optional string counts as true: it is set and not empty. -/
def isSet (field : Option String) : Bool :=
  field.any (· ≠ "")

/-- What a rejected call of the account services rejects with. -/
inductive AccountError where
  /-- `NotFoundException`. -/
  | notFound (message : String)
  /-- `ForbiddenException`. -/
  | forbidden (message : String)
  /-- `FieldValidationException`. -/
  | fieldValidation (message path : String)
  /-- `FieldConflictException`. -/
  | fieldConflict (message path : String)
  /-- `ServiceUnavailableException`. -/
  | serviceUnavailable (message : String)
  /-- `UnauthorizedException`. -/
  | unauthorized (message : String)
  /-- The `ValidationError` of a document that breaks rules of its schema. -/
  | documentValidation (paths : List String)
  /-- The duplicate key error of a unique index. -/
  | duplicateKey
  /-- The `DocumentNotFoundError` of saving a document that is no longer stored. -/
  | documentNotFound
  deriving DecidableEq, Repr

/-- The letter case of texts. `toLowerCase` follows the tables of Unicode, of which Lean's library
has the ASCII part only, so nothing is assumed of it. -/
class LetterCase where
  /-- `String.prototype.toLowerCase` -/
  toLowerCase : String → String

/-- The lower case of texts in ASCII. -/
@[reducible] def LetterCase.ascii : LetterCase where
  toLowerCase s := String.ofList (s.toList.map Char.toLower)

/-- The setters of an email field, which queries apply too: `trim` and `lowercase`. -/
def castEmail [LetterCase] (email : String) : String :=
  LetterCase.toLowerCase (trim email)

end MyHomeHub
