import Mathlib.Logic.Basic

/-!
# Optional fields

An optional field of a document or of a request body is undefined, null or a value.
The distinction between undefined and null matters where a source compares with one of
them only.
-/

namespace JavaScript

/-- The content of an optional field. -/
inductive Optional (α : Type) where
  | undefined
  | null
  | value (value : α)
  deriving DecidableEq, Repr

namespace Optional

variable {α : Type}

instance : Inhabited (Optional α) := ⟨.undefined⟩

/-- The value, when there is one. -/
def toOption : Optional α → Option α
  | .value a => some a
  | _ => none

/-- `field ?? other` when the other side is a value. -/
def getD (field : Optional α) (other : α) : α :=
  field.toOption.getD other

/-- Whether a string field counts as true: it holds a string that is not empty. -/
def isNonEmpty (field : Optional String) : Bool :=
  field.toOption.any (· ≠ "")

@[simp] theorem get_d_undefined (a : α) : undefined.getD a = a := rfl
@[simp] theorem get_d_null (a : α) : null.getD a = a := rfl
@[simp] theorem get_d_value (a b : α) : (value a).getD b = a := rfl
@[simp] theorem to_option_undefined : (undefined : Optional α).toOption = none := rfl
@[simp] theorem to_option_null : (null : Optional α).toOption = none := rfl
@[simp] theorem to_option_value (a : α) : (value a).toOption = some a := rfl

end Optional

end JavaScript
