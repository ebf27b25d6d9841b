import MyHomeHub.JavaScript.Number

/-!
# ECMAScript values

The values that JSON, YAML and BSON documents carry, with the conversions and the
comparisons of ECMAScript. Objects and arrays hold their fields by value, so two of
them are equal here when they are deeply equal; `Value.strictEq` is the `===` of two
values loaded from different documents, which never share an object.

An object converts to text by the `toString` of `Object.prototype`. Documents in which an object
has a key `toString` or `valueOf` of its own are outside this model: a value under such a key is
no function, and the conversion throws a `TypeError`.
-/

namespace JavaScript

/-- An ECMAScript value without functions, symbols and cycles. -/
inductive Value where
  | undefined
  | null
  | bool (value : Bool)
  | number (value : Number)
  | string (value : String)
  | array (elements : List Value)
  | object (fields : List (String × Value))
  deriving Repr

namespace Value

mutual
/-- Deep equality of values is decidable. -/
def decEq : (a b : Value) → Decidable (a = b)
  | .undefined, .undefined | .null, .null => isTrue rfl
  | .bool a, .bool b => decidable_of_iff (a = b) (by simp)
  | .number a, .number b => decidable_of_iff (a = b) (by simp)
  | .string a, .string b => decidable_of_iff (a = b) (by simp)
  | .array as, .array bs => @decidable_of_iff _ (as = bs) (by simp) (decEqElements as bs)
  | .object as, .object bs => @decidable_of_iff _ (as = bs) (by simp) (decEqFields as bs)
  | .undefined, .null | .undefined, .bool _ | .undefined, .number _ | .undefined, .string _
  | .undefined, .array _ | .undefined, .object _ => isFalse nofun
  | .null, .undefined | .null, .bool _ | .null, .number _ | .null, .string _
  | .null, .array _ | .null, .object _ => isFalse nofun
  | .bool _, .undefined | .bool _, .null | .bool _, .number _ | .bool _, .string _
  | .bool _, .array _ | .bool _, .object _ => isFalse nofun
  | .number _, .undefined | .number _, .null | .number _, .bool _ | .number _, .string _
  | .number _, .array _ | .number _, .object _ => isFalse nofun
  | .string _, .undefined | .string _, .null | .string _, .bool _ | .string _, .number _
  | .string _, .array _ | .string _, .object _ => isFalse nofun
  | .array _, .undefined | .array _, .null | .array _, .bool _ | .array _, .number _
  | .array _, .string _ | .array _, .object _ => isFalse nofun
  | .object _, .undefined | .object _, .null | .object _, .bool _ | .object _, .number _
  | .object _, .string _ | .object _, .array _ => isFalse nofun

/-- Deep equality of lists of elements is decidable. -/
def decEqElements : (as bs : List Value) → Decidable (as = bs)
  | [], [] => isTrue rfl
  | [], _ :: _ | _ :: _, [] => isFalse nofun
  | a :: as, b :: bs =>
      @decidable_of_iff _ (a = b ∧ as = bs) (by simp)
        (@instDecidableAnd _ _ (decEq a b) (decEqElements as bs))

/-- Deep equality of lists of fields is decidable. -/
def decEqFields : (as bs : List (String × Value)) → Decidable (as = bs)
  | [], [] => isTrue rfl
  | [], _ :: _ | _ :: _, [] => isFalse nofun
  | (k, a) :: as, (l, b) :: bs =>
      @decidable_of_iff _ (k = l ∧ a = b ∧ as = bs) (by simp [and_assoc])
        (@instDecidableAnd _ _ _ (@instDecidableAnd _ _ (decEq a b) (decEqFields as bs)))
end

instance : DecidableEq Value := decEq

instance : Inhabited Value := ⟨.undefined⟩

/-! ## Conversions -/

/-- `value === null || value === undefined`, the test behind `??`. -/
def isNullish : Value → Bool
  | .undefined | .null => true
  | _ => false

/-- `value ?? other`. -/
def orElse (value other : Value) : Value :=
  if value.isNullish then other else value

mutual
/-- `String(value)`, where no object has its own `toString` or `valueOf`. -/
def toString : Value → String
  | .undefined => "undefined"
  | .null => "null"
  | .bool true => "true"
  | .bool false => "false"
  | .number n => n.toString
  | .string s => s
  | .array elements => joinElements elements
  | .object _ => "[object Object]"

/-- `elements.join(',')`, in which null and undefined are empty. -/
def joinElements : List Value → String
  | [] => ""
  | [element] => elementToString element
  | element :: rest => elementToString element ++ "," ++ joinElements rest

/-- The text of one array element in `join`. -/
def elementToString : Value → String
  | .undefined | .null => ""
  | .bool true => "true"
  | .bool false => "false"
  | .number n => n.toString
  | .string s => s
  | .array elements => joinElements elements
  | .object _ => "[object Object]"
end

/-- `Number(value)`, where no object has its own `toString` or `valueOf`. -/
def toNumber : Value → Number
  | .undefined => .nan
  | .null => .finite 0
  | .bool b => .finite (if b then 1 else 0)
  | .number n => n
  | .string s => .ofString s
  | .array elements => .ofString (joinElements elements)
  | .object _ => .nan

/-- Whether a value counts as true in a condition. -/
def truthy : Value → Bool
  | .undefined | .null => false
  | .bool b => b
  | .number n => n ≠ .nan && n ≠ .finite 0
  | .string s => s ≠ ""
  | .array _ | .object _ => true

/-- `a === b` for values that come from different documents: objects and arrays are compared by
identity and so always differ. -/
def strictEq : Value → Value → Bool
  | .undefined, .undefined | .null, .null => true
  | .bool a, .bool b => a = b
  | .number a, .number b => a.strictEq b
  | .string a, .string b => a = b
  | _, _ => false

/-- The value of an optional field: an absent field reads as undefined. -/
def ofOption : Option Value → Value
  | some value => value
  | none => .undefined

/-- `value[name]` for a name that only plain objects have. -/
def property (value : Value) (name : String) : Value :=
  match value with
  | .object fields => .ofOption (fields.lookup name)
  | _ => .undefined

/-- `Object.entries(value)` -/
def entries : Value → List (String × Value)
  | .object fields => fields
  | .array elements => elements.zipIdx.map fun (element, i) => (i.repr, element)
  | _ => []

/-- `value && typeof value === 'object'` -/
def isObject : Value → Bool
  | .array _ | .object _ => true
  | _ => false

mutual
/-- Whether no object inside a value has two properties of one name. -/
def hasUniqueKeys : Value → Bool
  | .array elements => haveUniqueKeys elements
  | .object fields => (fields.map (·.1)).Nodup && fieldsHaveUniqueKeys fields
  | _ => true

/-- Every element of an array has unique keys. -/
def haveUniqueKeys : List Value → Bool
  | [] => true
  | element :: rest => element.hasUniqueKeys && haveUniqueKeys rest

/-- Every field of an object has unique keys. -/
def fieldsHaveUniqueKeys : List (String × Value) → Bool
  | [] => true
  | (_, value) :: rest => value.hasUniqueKeys && fieldsHaveUniqueKeys rest
end

/-! ## Lemmas -/

@[simp] theorem is_nullish_string (s : String) : (string s).isNullish = false := rfl
@[simp] theorem is_nullish_number (n : Number) : (number n).isNullish = false := rfl
@[simp] theorem is_nullish_bool (b : Bool) : (bool b).isNullish = false := rfl
@[simp] theorem is_nullish_null : null.isNullish = true := rfl
@[simp] theorem is_nullish_undefined : undefined.isNullish = true := rfl
@[simp] theorem to_string_string (s : String) : (string s).toString = s := rfl
@[simp] theorem to_string_bool (b : Bool) : (bool b).toString = if b then "true" else "false" := by
  cases b <;> rfl
@[simp] theorem to_number_number (n : Number) : (number n).toNumber = n := rfl
@[simp] theorem of_option_some (value : Value) : ofOption (some value) = value := rfl
@[simp] theorem of_option_none : ofOption none = undefined := rfl

/-- `value ?? other` is the value itself unless it is null or undefined. -/
theorem or_else_of_not_nullish {value : Value} (h : value.isNullish = false) (other : Value) :
    value.orElse other = value := by
  simp [orElse, h]

/-- `value ?? other` falls back when the value is null or undefined. -/
theorem or_else_of_nullish {value : Value} (h : value.isNullish = true) (other : Value) :
    value.orElse other = other := by
  simp [orElse, h]

@[simp] theorem string_or_else (s : String) (other : Value) :
    (string s).orElse other = string s := rfl

/-- Only objects and arrays have entries. -/
theorem entries_of_not_object {value : Value} (h : value.isObject = false) :
    value.entries = [] := by
  cases value <;> first | rfl | cases h

/-! ## Sizes -/

theorem size_of_field {fields : List (String × Value)} {field : String × Value}
    (h : field ∈ fields) : sizeOf field.2 < sizeOf (object fields) := by
  have hfield : sizeOf field < sizeOf fields := List.sizeOf_lt_of_mem h
  rw [object.sizeOf_spec]
  cases field with
  | mk name value =>
      rw [Prod.mk.sizeOf_spec] at hfield
      show sizeOf value < _
      omega

theorem size_of_element {elements : List Value} {element : Value} (h : element ∈ elements) :
    sizeOf element < sizeOf (array elements) := by
  have helement : sizeOf element < sizeOf elements := List.sizeOf_lt_of_mem h
  rw [array.sizeOf_spec]
  omega

/-! ## Unique keys -/

/-- A property that is found is a field. -/
theorem mem_of_lookup {fields : List (String × Value)} {name : String} {value : Value}
    (h : fields.lookup name = some value) : (name, value) ∈ fields := by
  obtain ⟨before, after, rfl, -⟩ := List.lookup_eq_some_iff.mp h
  simp

/-- A field is found by its name when no other field has it. -/
theorem lookup_of_mem {fields : List (String × Value)} (hnodup : (fields.map (·.1)).Nodup)
    {name : String} {value : Value} (h : (name, value) ∈ fields) :
    fields.lookup name = some value := by
  induction fields with
  | nil => cases h
  | cons first rest ih =>
      rw [List.map_cons, List.nodup_cons] at hnodup
      rcases List.mem_cons.mp h with rfl | hmem
      · exact List.lookup_cons_self
      · have hne : (name == first.1) = false :=
          beq_false_of_ne fun hsame => hnodup.1 (hsame ▸ List.mem_map_of_mem hmem)
        rw [List.lookup_cons, hne]
        exact ih hnodup.2 hmem

theorem unique_keys_of_element {elements : List Value} (h : haveUniqueKeys elements = true)
    {element : Value} (hmem : element ∈ elements) : element.hasUniqueKeys = true := by
  induction elements with
  | nil => cases hmem
  | cons first rest ih =>
      rw [haveUniqueKeys, Bool.and_eq_true] at h
      rcases List.mem_cons.mp hmem with rfl | hmem
      · exact h.1
      · exact ih h.2 hmem

theorem unique_keys_of_field {fields : List (String × Value)}
    (h : fieldsHaveUniqueKeys fields = true) {field : String × Value} (hmem : field ∈ fields) :
    field.2.hasUniqueKeys = true := by
  induction fields with
  | nil => cases hmem
  | cons first rest ih =>
      obtain ⟨name, value⟩ := first
      rw [fieldsHaveUniqueKeys, Bool.and_eq_true] at h
      rcases List.mem_cons.mp hmem with rfl | hmem
      · exact h.1
      · exact ih h.2 hmem

theorem unique_keys_of_fields {fields : List (String × Value)}
    (hnodup : (fields.map (·.1)).Nodup)
    (h : ∀ field ∈ fields, field.2.hasUniqueKeys = true) :
    (object fields).hasUniqueKeys = true := by
  have hfields : fieldsHaveUniqueKeys fields = true := by
    clear hnodup
    induction fields with
    | nil => rfl
    | cons first rest ih =>
        obtain ⟨name, value⟩ := first
        rw [fieldsHaveUniqueKeys, Bool.and_eq_true]
        exact ⟨h (name, value) List.mem_cons_self,
          ih fun field hfield => h field (List.mem_cons_of_mem _ hfield)⟩
  rw [hasUniqueKeys, hfields, Bool.and_true, decide_eq_true_eq]
  exact hnodup

/-- The fields of an object with unique keys have different names. -/
theorem nodup_of_unique_keys {fields : List (String × Value)}
    (h : (object fields).hasUniqueKeys = true) : (fields.map (·.1)).Nodup := by
  rw [hasUniqueKeys, Bool.and_eq_true, decide_eq_true_eq] at h
  exact h.1

/-- The entries of a value with unique keys have different names. -/
theorem entries_nodup {value : Value} (h : value.hasUniqueKeys = true) :
    (value.entries.map (·.1)).Nodup := by
  cases value with
  | object fields => exact nodup_of_unique_keys h
  | array elements =>
      have hnames : (array elements).entries.map (·.1) =
          (List.range' 0 elements.length).map Nat.repr := by
        rw [← List.zipIdx_map_snd, entries, List.map_map, List.map_map]
        rfl
      have hinjective : Function.Injective Nat.repr := fun m n hsame => by
        rw [← Nat.ofDigitChars_toDigits (b := 10) (n := m) (by omega) (by omega),
          ← Nat.toList_repr, hsame, Nat.toList_repr,
          Nat.ofDigitChars_toDigits (by omega) (by omega)]
      rw [hnames]
      exact List.Nodup.map hinjective List.nodup_range'
  | _ => exact List.nodup_nil

/-- What is stored under an entry of a value with unique keys has unique keys too. -/
theorem unique_keys_of_entry {value : Value} (h : value.hasUniqueKeys = true)
    {entry : String × Value} (hmem : entry ∈ value.entries) : entry.2.hasUniqueKeys = true := by
  cases value with
  | object fields =>
      rw [hasUniqueKeys, Bool.and_eq_true] at h
      exact unique_keys_of_field h.2 hmem
  | array elements =>
      rw [hasUniqueKeys] at h
      obtain ⟨⟨element, i⟩, hzip, rfl⟩ := List.mem_map.mp hmem
      exact unique_keys_of_element h (List.fst_mem_of_mem_zipIdx hzip)
  | _ => cases hmem

/-- A property of a value with unique keys has unique keys. -/
theorem unique_keys_of_property {value : Value} (h : value.hasUniqueKeys = true) (name : String) :
    (value.property name).hasUniqueKeys = true := by
  unfold property
  split
  · rename_i fields
    cases hlookup : fields.lookup name with
    | none => rfl
    | some found =>
        exact unique_keys_of_entry h (mem_of_lookup hlookup)
  · rfl

/-! ## Comparisons -/

/-- Comparing with a string succeeds only on that string. -/
@[simp] theorem strict_eq_string {value : Value} {s : String} :
    value.strictEq (string s) = true ↔ value = string s := by
  cases value <;> simp [strictEq]

end Value

end JavaScript
