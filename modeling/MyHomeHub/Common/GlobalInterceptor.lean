import MyHomeHub.Common.Errors
import MyHomeHub.Library.PartialMaps
import MyHomeHub.Library.Runs

/-!
# The interceptor of all responses

`global.interceptor` takes the internal fields of the database out of every response before
it is sent. It enters arrays at all their elements, and objects only at the fields that are
objects or arrays themselves. Of an object that wraps a document, which is the field `_doc`,
only the document is entered.
-/

namespace MyHomeHub.GlobalInterceptor

open JavaScript Library

/-- `EXCLUDED_INTERNAL_FIELDS` -/
def excludedInternalFields : List String :=
  ["_id", "__v"]

/-- `delete rawData[f]` for each excluded field. -/
def deleteExcluded (fields : List (String × Value)) : List (String × Value) :=
  fields.filter fun field => field.1 ∉ excludedInternalFields

mutual
/-- `removeInternalFields`, with the value as the call leaves it. The operator `in` throws on a
primitive, which only reaches it if it is truthy. -/
def removeInternalFields : Value → Except HubError Value
  | .array elements => do
      let elements ← removeFromElements elements
      return .array elements
  | .object fields =>
      if fields.any fun field => field.1 = "_doc" then do
        let fields ← removeFromDocument fields
        return .object fields
      else do
        let fields ← removeFromFields fields
        return .object (deleteExcluded fields)
  | data => if data.truthy then .error .typeError else .ok data

/-- `data.forEach(d => this.removeInternalFields(d))` -/
def removeFromElements : List Value → Except HubError (List Value)
  | [] => .ok []
  | element :: rest => do
      let element ← removeInternalFields element
      let rest ← removeFromElements rest
      return element :: rest

/-- What the keys and the fields of `rawData` go through; the operator `in` throws again on a
primitive. -/
def removeFromRawData : Value → Except HubError Value
  | .array elements => do
      let elements ← removeFromEntries elements
      return .array elements
  | .object fields => do
      let fields ← removeFromFields fields
      return .object (deleteExcluded fields)
  | _ => .error .typeError

/-- The loop over `Object.keys(rawData)` of an array. -/
def removeFromEntries : List Value → Except HubError (List Value)
  | [] => .ok []
  | element :: rest => do
      let element ← (if element.isObject then removeInternalFields element else .ok element)
      let rest ← removeFromEntries rest
      return element :: rest

/-- The loop over `Object.keys(rawData)` of an object. -/
def removeFromFields : List (String × Value) → Except HubError (List (String × Value))
  | [] => .ok []
  | (name, value) :: rest => do
      let value ← (if value.isObject then removeInternalFields value else .ok value)
      let rest ← removeFromFields rest
      return (name, value) :: rest

/-- The fields of an object whose `rawData` is its field `_doc`. -/
def removeFromDocument : List (String × Value) → Except HubError (List (String × Value))
  | [] => .ok []
  | (name, value) :: rest => do
      let value ← (if name = "_doc" then removeFromRawData value else .ok value)
      let rest ← removeFromDocument rest
      return (name, value) :: rest
end

mutual
/-- The value in which no object has an internal field. -/
def withoutInternalFields : Value → Value
  | .array elements => .array (elementsWithout elements)
  | .object fields => .object (deleteExcluded (fieldsWithout fields))
  | data => data

/-- The elements of an array without internal fields. -/
def elementsWithout : List Value → List Value
  | [] => []
  | element :: rest => withoutInternalFields element :: elementsWithout rest

/-- The fields of an object, each without internal fields. -/
def fieldsWithout : List (String × Value) → List (String × Value)
  | [] => []
  | (name, value) :: rest => (name, withoutInternalFields value) :: fieldsWithout rest
end

/-! ## Where the visit goes -/

/-- The objects and arrays in a value, under the field names that are asked for. -/
inductive RawPart (names : String → Prop) : Value → Value → Prop
  | element {elements : List Value} {part : Value} :
      part ∈ elements → part.isObject = true → RawPart names (.array elements) part
  | field {fields : List (String × Value)} {name : String} {part : Value} :
      (name, part) ∈ fields → names name → part.isObject = true →
      RawPart names (.object fields) part

/-- The values that `removeInternalFields` is called on next. -/
inductive Part (names : String → Prop) : Value → Value → Prop
  | element {elements : List Value} {part : Value} :
      part ∈ elements → Part names (.array elements) part
  | field {fields : List (String × Value)} {part : Value} :
      (∀ document, ("_doc", document) ∉ fields) → RawPart names (.object fields) part →
      Part names (.object fields) part
  | document {fields : List (String × Value)} {document part : Value} :
      ("_doc", document) ∈ fields → RawPart names document part →
      Part names (.object fields) part

/-- All values that the visit of a value comes to. -/
def Visits (data part : Value) : Prop :=
  Relation.ReflTransGen (Part fun _ => True) data part

/-- The values among them that are not within an internal field, which is deleted afterwards. -/
def Keeps (data part : Value) : Prop :=
  Relation.ReflTransGen (Part (· ∉ excludedInternalFields)) data part

/-- The value is not a truthy primitive, and a document that it wraps is an object or an array. -/
structure Tolerated (data : Value) : Prop where
  falsy : data.truthy = true → data.isObject = true
  document : ∀ fields document, data = .object fields → ("_doc", document) ∈ fields →
    document.isObject = true

/-- An object that wraps a document has nothing internal beside it. -/
def NothingBeside (data : Value) : Prop :=
  ∀ fields document, data = .object fields → ("_doc", document) ∈ fields →
    ∀ name value, (name, value) ∈ fields →
      name ∉ excludedInternalFields ∧ (name ≠ "_doc" → withoutInternalFields value = value)

/-! ## The loops -/

/-- What the loop over `Object.keys(rawData)` does to one value. -/
def enter (value : Value) : Except HubError Value :=
  if value.isObject then removeInternalFields value else .ok value

/-- A call on the value of a field. -/
def onField (call : String → Value → Except HubError Value) (field : String × Value) :
    Except HubError (String × Value) := do
  let value ← call field.1 field.2
  return (field.1, value)

/-- What a call on an object that wraps a document does to one of its fields. -/
def enterDocument (name : String) (value : Value) : Except HubError Value :=
  if name = "_doc" then removeFromRawData value else .ok value

variable {elements : List Value} {fields : List (String × Value)} {data document part : Value}
  {names : String → Prop}

theorem remove_from_elements_eq :
    removeFromElements elements = elements.mapM removeInternalFields := by
  induction elements with
  | nil => rfl
  | cons element rest ih => rw [removeFromElements, List.mapM_cons, ih]

theorem remove_from_entries_eq : removeFromEntries elements = elements.mapM enter := by
  induction elements with
  | nil => rfl
  | cons element rest ih =>
      rw [removeFromEntries, List.mapM_cons, ih]
      rfl

theorem remove_from_fields_eq :
    removeFromFields fields = fields.mapM (onField fun _ => enter) := by
  induction fields with
  | nil => rfl
  | cons field rest ih =>
      rw [removeFromFields, List.mapM_cons, ih, onField, bind_assoc]
      rfl

theorem remove_from_document_eq :
    removeFromDocument fields = fields.mapM (onField enterDocument) := by
  induction fields with
  | nil => rfl
  | cons field rest ih =>
      rw [removeFromDocument, List.mapM_cons, ih, onField, bind_assoc]
      rfl

theorem elements_without_eq : elementsWithout elements = elements.map withoutInternalFields := by
  induction elements with
  | nil => rfl
  | cons element rest ih => rw [elementsWithout, List.map_cons, ih]

/-- A field without the internal fields of its value. -/
def fieldWithout (field : String × Value) : String × Value :=
  (field.1, withoutInternalFields field.2)

theorem fields_without_eq : fieldsWithout fields = fields.map fieldWithout := by
  induction fields with
  | nil => rfl
  | cons field rest ih =>
      rw [fieldsWithout, List.map_cons, ih]
      rfl

/-- What is left of a list in which each element with a kept name becomes what is expected. -/
theorem filter_results_iff {call : String × Value → Except HubError (String × Value)}
    {results : List (String × Value)} {expected : String × Value → String × Value}
    (hcall : ∀ field result, call field = .ok result → result.1 = field.1)
    (hexpected : ∀ field, (expected field).1 = field.1) (h : fields.mapM call = .ok results) :
    deleteExcluded results = deleteExcluded (fields.map expected) ↔
      ∀ field ∈ fields, field.1 ∉ excludedInternalFields → call field = .ok (expected field) := by
  rw [map_m_ok_iff] at h
  unfold deleteExcluded
  induction fields generalizing results with
  | nil =>
      cases List.map_eq_nil_iff.mp h.symm
      exact iff_of_true rfl nofun
  | cons field rest ih =>
      obtain ⟨result, others, rfl, hresult, hothers⟩ := List.map_eq_cons_iff.mp h.symm
      rw [List.map_cons, List.forall_mem_cons, ← ih hothers.symm, List.filter_cons,
        List.filter_cons, hexpected, hcall field result hresult.symm]
      by_cases hname : field.1 ∈ excludedInternalFields
      · rw [if_neg (by simpa using hname), if_neg (by simpa using hname)]
        exact (and_iff_right fun hkept => absurd hname hkept).symm
      · rw [if_pos (by simpa using hname), if_pos (by simpa using hname), List.cons.injEq,
          ← hresult, Except.ok.injEq]
        exact and_congr_left fun _ => (imp_iff_right hname).symm

/-- A primitive has no fields. -/
theorem without_of_primitive (h : data.isObject = false) : withoutInternalFields data = data := by
  cases data with
  | array elements => cases h
  | object fields => cases h
  | _ => rfl

/-! ## One level of the visit -/

theorem enter_succeeds_iff :
    (∃ result, enter data = .ok result) ↔
      (data.isObject = true → ∃ result, removeInternalFields data = .ok result) := by
  unfold enter
  cases hobject : data.isObject with
  | true => exact (imp_iff_right rfl).symm
  | false => exact iff_of_true ⟨data, rfl⟩ nofun

theorem enter_removes_iff :
    enter data = .ok (withoutInternalFields data) ↔
      (data.isObject = true → removeInternalFields data = .ok (withoutInternalFields data)) := by
  unfold enter
  cases hobject : data.isObject with
  | true => exact (imp_iff_right rfl).symm
  | false =>
      rw [without_of_primitive hobject]
      exact iff_of_true rfl nofun

theorem on_field_name {call : String → Value → Except HubError Value}
    {field result : String × Value} (h : onField call field = .ok result) :
    result.1 = field.1 := by
  obtain ⟨value, -, hresult⟩ := bind_ok_iff.mp h
  cases hresult
  rfl

theorem on_field_succeeds_iff {call : String → Value → Except HubError Value}
    {field : String × Value} :
    (∃ result, onField call field = .ok result) ↔
      ∃ value, call field.1 field.2 = .ok value := by
  constructor
  · intro h
    obtain ⟨result, hresult⟩ := h
    obtain ⟨value, hvalue, -⟩ := bind_ok_iff.mp hresult
    exact ⟨value, hvalue⟩
  · intro h
    obtain ⟨value, hvalue⟩ := h
    exact ⟨(field.1, value), bind_ok_iff.mpr ⟨value, hvalue, rfl⟩⟩

theorem on_field_ok_iff {call : String → Value → Except HubError Value}
    {field : String × Value} {value : Value} :
    onField call field = .ok (field.1, value) ↔ call field.1 field.2 = .ok value := by
  constructor
  · intro h
    obtain ⟨result, hresult, hfield⟩ := bind_ok_iff.mp h
    cases hfield
    exact hresult
  · intro h
    exact bind_ok_iff.mpr ⟨value, h, rfl⟩

theorem forall_raw_part_array {p : Value → Prop} :
    (∀ part, RawPart names (.array elements) part → p part) ↔
      ∀ element ∈ elements, element.isObject = true → p element := by
  constructor
  · intro h element hmem hobject
    exact h element (.element hmem hobject)
  · intro h part hpart
    cases hpart with
    | element hmem hobject => exact h part hmem hobject

theorem forall_raw_part_object {p : Value → Prop} :
    (∀ part, RawPart names (.object fields) part → p part) ↔
      ∀ field ∈ fields, names field.1 → field.2.isObject = true → p field.2 := by
  constructor
  · intro h field hmem hname hobject
    exact h field.2 (.field hmem hname hobject)
  · intro h part hpart
    cases hpart with
    | field hmem hname hobject => exact h _ hmem hname hobject

/-- A call with its result put into a constructor. -/
theorem bind_pure_succeeds_iff {α β : Type} {call : Except HubError α} {wrap : α → β} :
    (∃ result, (do let value ← call; return wrap value) = (.ok result : Except HubError β)) ↔
      ∃ value, call = .ok value := by
  cases call with
  | error error => exact iff_of_false nofun nofun
  | ok value => exact iff_of_true ⟨wrap value, rfl⟩ ⟨value, rfl⟩

theorem bind_pure_ok_iff {α β : Type} {call : Except HubError α} {wrap : α → β} {value : α}
    (hwrap : ∀ a b, wrap a = wrap b → a = b) :
    (do let value ← call; return wrap value) = (.ok (wrap value) : Except HubError β) ↔
      call = .ok value := by
  cases call with
  | error error => exact iff_of_false nofun nofun
  | ok other =>
      show (.ok (wrap other) : Except HubError β) = .ok (wrap value) ↔ _
      rw [Except.ok.injEq, Except.ok.injEq]
      exact ⟨hwrap other value, congrArg wrap⟩

/-- The loop over `rawData` needs an object or an array whose parts are visited without an error. -/
theorem raw_succeeds_iff :
    (∃ result, removeFromRawData document = .ok result) ↔
      document.isObject = true ∧
        ∀ part, RawPart (fun _ => True) document part →
          ∃ result, removeInternalFields part = .ok result := by
  cases document with
  | array elements =>
      have hobject : (Value.array elements).isObject = true := rfl
      rw [forall_raw_part_array, and_iff_right hobject, removeFromRawData,
        bind_pure_succeeds_iff, remove_from_entries_eq, map_m_succeeds_iff]
      exact forall₂_congr fun element _ => enter_succeeds_iff
  | object fields =>
      have hobject : (Value.object fields).isObject = true := rfl
      rw [forall_raw_part_object, and_iff_right hobject, removeFromRawData,
        bind_pure_succeeds_iff, remove_from_fields_eq, map_m_succeeds_iff]
      refine forall₂_congr fun field _ => ?_
      rw [on_field_succeeds_iff, enter_succeeds_iff, forall_true_left]
  | _ => exact iff_of_false nofun fun h => nomatch h.1

/-- Raw data comes out without internal fields if its parts do that are not deleted. -/
theorem raw_removes_iff (h : ∃ result, removeFromRawData document = .ok result) :
    removeFromRawData document = .ok (withoutInternalFields document) ↔
      ∀ part, RawPart (· ∉ excludedInternalFields) document part →
        removeInternalFields part = .ok (withoutInternalFields part) := by
  cases document with
  | array elements =>
      rw [forall_raw_part_array, removeFromRawData, remove_from_entries_eq,
        withoutInternalFields, elements_without_eq,
        bind_pure_ok_iff fun _ _ => Value.array.inj, map_m_ok_map_iff]
      exact forall₂_congr fun element _ => enter_removes_iff
  | object fields =>
      rw [forall_raw_part_object]
      rw [removeFromRawData, bind_pure_succeeds_iff, remove_from_fields_eq] at h
      obtain ⟨results, hresults⟩ := h
      rw [removeFromRawData, remove_from_fields_eq, hresults, withoutInternalFields,
        fields_without_eq]
      show Except.ok (Value.object (deleteExcluded results)) = _ ↔ _
      rw [Except.ok.injEq, Value.object.injEq]
      have hname : ∀ field, (fieldWithout field).1 = field.1 := fun _ => rfl
      refine (filter_results_iff (fun _ _ => on_field_name) hname hresults).trans ?_
      exact forall₃_congr fun field _ _ => on_field_ok_iff.trans enter_removes_iff
  | _ =>
      obtain ⟨result, hresult⟩ := h
      cases hresult

/-- Without a document the object itself is the raw data. -/
theorem remove_of_no_document (h : ∀ document, ("_doc", document) ∉ fields) :
    removeInternalFields (.object fields) = removeFromRawData (.object fields) := by
  rw [removeInternalFields, removeFromRawData, if_neg]
  intro hany
  obtain ⟨field, hmem, hname⟩ := List.any_eq_true.mp hany
  exact h field.2 (of_decide_eq_true hname ▸ hmem)

theorem remove_of_document (h : ("_doc", document) ∈ fields) :
    removeInternalFields (.object fields) = do
      let fields ← fields.mapM (onField enterDocument)
      return .object fields := by
  rw [removeInternalFields, if_pos, remove_from_document_eq]
  exact List.any_eq_true.mpr ⟨_, h, decide_eq_true rfl⟩

theorem remove_of_primitive (h : data.isObject = false) :
    removeInternalFields data = if data.truthy then .error .typeError else .ok data := by
  cases data with
  | array elements => cases h
  | object fields => cases h
  | _ => rfl

theorem no_part_of_primitive (h : data.isObject = false) : ¬ Part names data part := by
  intro hpart
  cases hpart <;> cases h

/-- An object that wraps documents goes through the raw data in each. -/
theorem document_succeeds_iff (h : ("_doc", document) ∈ fields) :
    (∃ result, removeInternalFields (.object fields) = .ok result) ↔
      ∀ document, ("_doc", document) ∈ fields →
        ∃ result, removeFromRawData document = .ok result := by
  rw [remove_of_document h, bind_pure_succeeds_iff, map_m_succeeds_iff]
  constructor
  · intro hall document hmem
    exact on_field_succeeds_iff.mp (hall _ hmem)
  · intro hall field hmem
    rw [on_field_succeeds_iff]
    unfold enterDocument
    split
    · rename_i hname
      exact hall field.2 (hname ▸ hmem)
    · exact ⟨field.2, rfl⟩

theorem enter_document_removes_iff {name : String} :
    enterDocument name data = .ok (withoutInternalFields data) ↔
      (name = "_doc" → removeFromRawData data = .ok (withoutInternalFields data)) ∧
        (name ≠ "_doc" → withoutInternalFields data = data) := by
  unfold enterDocument
  split
  · rename_i hname
    constructor
    · exact fun h => ⟨fun _ => h, fun hne => absurd hname hne⟩
    · exact fun h => h.1 hname
  · rename_i hname
    rw [Except.ok.injEq]
    constructor
    · exact fun h => ⟨fun hdocument => absurd hdocument hname, fun _ => h.symm⟩
    · exact fun h => (h.2 hname).symm

/-- The fields beside a document stay as they are. -/
theorem document_removes_iff (h : ("_doc", document) ∈ fields) :
    removeInternalFields (.object fields) = .ok (withoutInternalFields (.object fields)) ↔
      NothingBeside (.object fields) ∧
        ∀ document, ("_doc", document) ∈ fields →
          removeFromRawData document = .ok (withoutInternalFields document) := by
  -- no field of the object is deleted, so none of them may have an internal name
  have hkept :
      fields.mapM (onField enterDocument) = .ok (deleteExcluded (fields.map fieldWithout)) →
        ∀ field ∈ fields, field.1 ∉ excludedInternalFields := by
    intro hresults field hmem
    have hnames : (deleteExcluded (fields.map fieldWithout)).map (·.1) = fields.map (·.1) :=
      map_results hresults fun _ _ => on_field_name
    have hlength : (deleteExcluded (fields.map fieldWithout)).length =
        (fields.map fieldWithout).length := by
      rw [← List.length_map, hnames, List.length_map, List.length_map]
    have hall := List.length_filter_eq_length_iff.mp hlength
    exact of_decide_eq_true (hall (fieldWithout field) (List.mem_map_of_mem hmem))
  have hwhole : (∀ field ∈ fields, field.1 ∉ excludedInternalFields) →
      deleteExcluded (fields.map fieldWithout) = fields.map fieldWithout := by
    intro hnames
    refine List.filter_eq_self.mpr fun field hmem => decide_eq_true ?_
    obtain ⟨other, hother, rfl⟩ := List.mem_map.mp hmem
    exact hnames other hother
  rw [remove_of_document h, withoutInternalFields, fields_without_eq,
    bind_pure_ok_iff fun _ _ => Value.object.inj]
  constructor
  · intro hresults
    have hnames := hkept hresults
    rw [hwhole hnames, map_m_ok_map_iff] at hresults
    have hfields : ∀ field ∈ fields, _ := fun field hmem =>
      enter_document_removes_iff.mp (on_field_ok_iff.mp (hresults field hmem))
    constructor
    · intro others wrapped hsame _ name value hmem
      cases hsame
      exact ⟨hnames (name, value) hmem, (hfields (name, value) hmem).2⟩
    · exact fun document hmem => (hfields ("_doc", document) hmem).1 rfl
  · rintro ⟨hbeside, hdocuments⟩
    have hfields : ∀ field ∈ fields, _ := fun field hmem =>
      hbeside fields document rfl h field.1 field.2 hmem
    rw [hwhole fun field hmem => (hfields field hmem).1, map_m_ok_map_iff]
    intro field hmem
    refine on_field_ok_iff.mpr (enter_document_removes_iff.mpr ⟨?_, (hfields field hmem).2⟩)
    exact fun hname => hdocuments field.2 (hname ▸ hmem)

/-! ## The whole visit -/

/-- A call returns if its argument is tolerated and the calls on all parts return. -/
theorem succeeds_iff_parts :
    (∃ result, removeInternalFields data = .ok result) ↔
      Tolerated data ∧ ∀ part, Part (fun _ => True) data part →
        ∃ result, removeInternalFields part = .ok result := by
  cases hobject : data.isObject with
  | false =>
      rw [remove_of_primitive hobject]
      cases htruthy : data.truthy with
      | true =>
          refine iff_of_false nofun fun h => ?_
          rw [h.1.falsy htruthy] at hobject
          cases hobject
      | false =>
          refine iff_of_true ⟨data, rfl⟩ ⟨⟨?_, ?_⟩, ?_⟩
          · exact fun h => absurd (htruthy.symm.trans h) nofun
          · intro fields document hdata
            cases hdata
            cases hobject
          · exact fun part hpart => absurd hpart (no_part_of_primitive hobject)
  | true =>
      cases data with
      | array elements =>
          rw [removeInternalFields, bind_pure_succeeds_iff, remove_from_elements_eq,
            map_m_succeeds_iff]
          constructor
          · intro h
            refine ⟨⟨fun _ => rfl, nofun⟩, fun part hpart => ?_⟩
            cases hpart with
            | element hmem => exact h part hmem
          · intro h element hmem
            exact h.2 element (.element hmem)
      | object fields =>
          by_cases hdocument : ∃ document, ("_doc", document) ∈ fields
          · obtain ⟨wrapped, hwrapped⟩ := hdocument
            rw [document_succeeds_iff hwrapped]
            constructor
            · intro h
              refine ⟨⟨fun _ => rfl, ?_⟩, fun part hpart => ?_⟩
              · intro fields document hdata hmem
                cases hdata
                exact (raw_succeeds_iff.mp (h document hmem)).1
              · cases hpart with
                | field hnone _ => exact absurd hwrapped (hnone wrapped)
                | document hmem hraw => exact (raw_succeeds_iff.mp (h _ hmem)).2 part hraw
            · intro h document hmem
              refine raw_succeeds_iff.mpr ⟨h.1.document fields document rfl hmem, ?_⟩
              exact fun part hpart => h.2 part (.document hmem hpart)
          · rw [not_exists] at hdocument
            rw [remove_of_no_document hdocument, raw_succeeds_iff]
            constructor
            · intro h
              refine ⟨⟨fun _ => rfl, ?_⟩, fun part hpart => ?_⟩
              · intro fields document hdata hmem
                cases hdata
                exact absurd hmem (hdocument document)
              · cases hpart with
                | field _ hraw => exact h.2 part hraw
                | document hmem _ => exact absurd hmem (hdocument _)
            · intro h
              exact ⟨rfl, fun part hpart => h.2 part (.field hdocument hpart)⟩
      | _ => cases hobject

/-- A value comes out without internal fields if it has nothing beside its document and its parts
come out so that are not deleted. -/
theorem removes_iff_parts (h : ∃ result, removeInternalFields data = .ok result) :
    removeInternalFields data = .ok (withoutInternalFields data) ↔
      NothingBeside data ∧ ∀ part, Part (· ∉ excludedInternalFields) data part →
        removeInternalFields part = .ok (withoutInternalFields part) := by
  cases hobject : data.isObject with
  | false =>
      obtain ⟨result, hresult⟩ := h
      rw [remove_of_primitive hobject] at hresult ⊢
      cases htruthy : data.truthy with
      | true =>
          rw [htruthy] at hresult
          cases hresult
      | false =>
          refine iff_of_true (congrArg Except.ok (without_of_primitive hobject).symm) ⟨?_, ?_⟩
          · intro fields document hdata
            cases hdata
            cases hobject
          · exact fun part hpart => absurd hpart (no_part_of_primitive hobject)
  | true =>
      cases data with
      | array elements =>
          rw [removeInternalFields, withoutInternalFields, elements_without_eq,
            remove_from_elements_eq, bind_pure_ok_iff fun _ _ => Value.array.inj,
            map_m_ok_map_iff]
          constructor
          · intro hall
            refine ⟨nofun, fun part hpart => ?_⟩
            cases hpart with
            | element hmem => exact hall part hmem
          · intro hall element hmem
            exact hall.2 element (.element hmem)
      | object fields =>
          by_cases hdocument : ∃ document, ("_doc", document) ∈ fields
          · obtain ⟨wrapped, hwrapped⟩ := hdocument
            rw [document_removes_iff hwrapped]
            refine and_congr_right fun _ => ?_
            rw [document_succeeds_iff hwrapped] at h
            constructor
            · intro hall part hpart
              cases hpart with
              | field hnone _ => exact absurd hwrapped (hnone wrapped)
              | document hmem hraw => exact (raw_removes_iff (h _ hmem)).mp (hall _ hmem) part hraw
            · intro hall document hmem
              refine (raw_removes_iff (h document hmem)).mpr fun part hpart => ?_
              exact hall part (.document hmem hpart)
          · rw [not_exists] at hdocument
            rw [remove_of_no_document hdocument] at h ⊢
            rw [raw_removes_iff h]
            constructor
            · intro hall
              refine ⟨?_, fun part hpart => ?_⟩
              · intro fields document hdata hmem
                cases hdata
                exact absurd hmem (hdocument document)
              · cases hpart with
                | field _ hraw => exact hall part hraw
                | document hmem _ => exact absurd hmem (hdocument _)
            · intro hall part hpart
              exact hall.2 part (.field hdocument hpart)
      | _ => cases hobject

/-! ## Sizes -/

theorem raw_part_size (h : RawPart names document part) : sizeOf part < sizeOf document := by
  cases h with
  | element hmem _ => exact Value.size_of_element hmem
  | field hmem _ _ => exact Value.size_of_field hmem

theorem part_size (h : Part names data part) : sizeOf part < sizeOf data := by
  cases h with
  | element hmem => exact Value.size_of_element hmem
  | field _ hraw => exact raw_part_size hraw
  | document hmem hraw => exact (raw_part_size hraw).trans (Value.size_of_field hmem)

/-! ## All that is visited -/

/-- A call returns exactly when everything it visits is tolerated. -/
theorem succeeds_iff :
    (∃ result, removeInternalFields data = .ok result) ↔
      ∀ part, Visits data part → Tolerated part := by
  have hsize : ∀ a b, Part (fun _ => True) a b → sizeOf b < sizeOf a := fun _ _ => part_size
  exact forall_reached_iff hsize fun _ => succeeds_iff_parts

theorem RawPart.any (h : RawPart names document part) : RawPart (fun _ => True) document part := by
  cases h with
  | element hmem hobject => exact .element hmem hobject
  | field hmem _ hobject => exact .field hmem trivial hobject

theorem visits_of_keeps (h : Keeps data part) : Visits data part := by
  refine Relation.ReflTransGen.mono (fun whole part hpart => ?_) _ _ h
  cases hpart with
  | element hmem => exact .element hmem
  | field hnone hraw => exact .field hnone hraw.any
  | document hmem hraw => exact .document hmem hraw.any

/-- A response has the internal fields of all its objects removed exactly when everything that is
visited is tolerated, and what is kept has nothing internal beside a document. -/
theorem removes_internal_fields_iff :
    removeInternalFields data = .ok (withoutInternalFields data) ↔
      (∀ part, Visits data part → Tolerated part) ∧
        ∀ part, Keeps data part → NothingBeside part := by
  have hsize : ∀ a b, Part (· ∉ excludedInternalFields) a b → sizeOf b < sizeOf a :=
    fun _ _ => part_size
  have hparts : ∀ whole, removeInternalFields whole = .ok (withoutInternalFields whole) ↔
      ((∃ result, removeInternalFields whole = .ok result) ∧ NothingBeside whole) ∧
        ∀ part, Part (· ∉ excludedInternalFields) whole part →
          removeInternalFields part = .ok (withoutInternalFields part) := by
    intro whole
    constructor
    · intro h
      have hparts := (removes_iff_parts ⟨_, h⟩).mp h
      exact ⟨⟨⟨_, h⟩, hparts.1⟩, hparts.2⟩
    · intro h
      exact (removes_iff_parts h.1.1).mpr ⟨h.1.2, h.2⟩
  refine (forall_reached_iff hsize hparts).trans ?_
  constructor
  · intro h
    exact ⟨succeeds_iff.mp (h data .refl).1, fun part hpart => (h part hpart).2⟩
  · intro h part hpart
    refine ⟨succeeds_iff.mpr fun inner hinner => ?_, h.2 part hpart⟩
    exact h.1 inner ((visits_of_keeps hpart).trans hinner)

/-- A device with a list of texts among its controls cannot be sent at all. -/
theorem text_list_not_sent :
    ¬ ∀ data : Value, removeInternalFields data = .ok (withoutInternalFields data) := by
  intro hall
  have h := hall (.object [("externalId", .string "lamp"),
    ("controls", .object [("scenes", .array [.string "evening"])])])
  cases h

end MyHomeHub.GlobalInterceptor
