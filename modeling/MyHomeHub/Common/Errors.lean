import MyHomeHub.JavaScript.Value

/-!
# Errors

The errors the services throw, from `common/exceptions` and `common/interfaces`,
together with the errors of the framework, the database driver and the language that
pass through them.
-/

namespace MyHomeHub

open JavaScript

/-- `ValidationError`: a violated rule, the field it is about and the value of that field. -/
structure ValidationError where
  message : String
  path : Option String
  value : Value
  deriving DecidableEq, Repr

/-- What a rejected call rejects with. -/
inductive HubError where
  /-- `NotFoundException`. -/
  | notFound (message : String)
  /-- `BadRequestException`. -/
  | badRequest (message : String)
  /-- `InternalServerErrorException`. -/
  | internalServerError (message : String)
  /-- `FieldValidationException`. -/
  | fieldValidation (message path : String)
  /-- `CustomValidationException`. -/
  | customValidation (errors : List ValidationError)
  /-- The `ValidationError` of a document that breaks rules of its schema. -/
  | documentValidation (paths : List String)
  /-- The duplicate key error of a unique index. -/
  | duplicateKey
  /-- The `DocumentNotFoundError` of saving a document that is no longer stored. -/
  | documentNotFound
  /-- A `TypeError` of the language: a property of null or undefined was read. -/
  | typeError
  /-- Any other thrown `Error`. -/
  | thrown (message : String)
  deriving DecidableEq, Repr

@[simp] theorem ok_bind {ε α β : Type} (value : α) (next : α → Except ε β) :
    ((.ok value : Except ε α) >>= next) = next value :=
  rfl

@[simp] theorem error_bind {ε α β : Type} (error : ε) (next : α → Except ε β) :
    ((.error error : Except ε α) >>= next) = .error error :=
  rfl

/-- A call succeeds when it has a value. -/
theorem is_ok_iff_exists {ε α : Type} {result : Except ε α} :
    result.isOk = true ↔ ∃ value, result = .ok value := by
  cases result with
  | ok value => exact iff_of_true rfl ⟨value, rfl⟩
  | error error => exact iff_of_false nofun nofun

/-- Two calls in a row succeed when both do. -/
theorem bind_ok_iff {ε α β : Type} {first : Except ε α} {next : α → Except ε β} {result : β} :
    (first >>= next) = .ok result ↔ ∃ value, first = .ok value ∧ next value = .ok result := by
  cases first with
  | error error => exact iff_of_false nofun nofun
  | ok value => simp

end MyHomeHub
