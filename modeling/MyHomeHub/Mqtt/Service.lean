import Mathlib.Data.List.Count
import MyHomeHub.JavaScript.String
import MyHomeHub.Library.Fields

/-!
# MQTT service

`publish` writes the parameters into the wildcards of a topic, one after another, and emits the
payload under the topic that results. `extractTopicWildcards` reads what stands at the
positions of the wildcards of a pattern in a topic.
-/

namespace MyHomeHub.MqttService

open JavaScript Library

/-- `MQTT_TOPIC_PARTS_SEPARATOR` -/
def MQTT_TOPIC_PARTS_SEPARATOR : Char := '/'

/-- `MQTT_TOPIC_PARTS_WILDCARD` -/
def MQTT_TOPIC_PARTS_WILDCARD : String := "+"

/-- A message that the client emits. -/
structure Message (α : Type*) where
  topic : String
  payload : α
  deriving DecidableEq, Repr

/-- `publish`: the message that is emitted. -/
def publish {α : Type*} (topic : String) (payload : α) (params : List String) : Message α :=
  let completeTopic := params.foldl (fun t param => replace t '+' param) topic
  { topic := completeTopic, payload := payload }

/-- The callback of the loop over the parts of the pattern. The topic can have fewer parts, and
a wildcard behind the last one reads `undefined`. -/
def collectWildcard (topicParts : List String) (wildcardValues : List (Option String)) :
    String × Nat → List (Option String)
  | (part, i) =>
      if part = MQTT_TOPIC_PARTS_WILDCARD then wildcardValues ++ [topicParts[i]?]
      else wildcardValues

/-- `extractTopicWildcards` -/
def extractTopicWildcards (topicPattern topic : String) : List (Option String) :=
  let patternTopicParts := split topicPattern MQTT_TOPIC_PARTS_SEPARATOR
  let topicParts := split topic MQTT_TOPIC_PARTS_SEPARATOR
  patternTopicParts.zipIdx.foldl (collectWildcard topicParts) []

/-- The wildcards of the pattern are whole parts of it. -/
def HasWholeWildcards (topicPattern : String) : Prop :=
  ∀ part ∈ split topicPattern MQTT_TOPIC_PARTS_SEPARATOR, '+' ∈ part.toList →
    part = MQTT_TOPIC_PARTS_WILDCARD

/-- The number of wildcards of a pattern. -/
def wildcardCount (topicPattern : String) : Nat :=
  (split topicPattern MQTT_TOPIC_PARTS_SEPARATOR).count MQTT_TOPIC_PARTS_WILDCARD

/-- A parameter without the separator, the wildcard and the dollar sign that `replace` reads. -/
def IsPlainParam (param : String) : Prop :=
  '/' ∉ param.toList ∧ '+' ∉ param.toList ∧ '$' ∉ param.toList

variable {α : Type*} {topicPattern topic : String} {params : List String} {payload : α}
  {parts done : List (List Char)} {values : List (List Char)} {read : List (Option String)}

/-! ## The topic that is published -/

theorem publish_topic (hparams : ∀ param ∈ params, IsPlainParam param) :
    (publish topic payload params).topic.toList =
      fillAll '+' (params.map String.toList) topic.toList := by
  induction params generalizing topic with
  | nil => rfl
  | cons param params ih =>
      have hparam := (hparams param List.mem_cons_self).2.2
      show (publish (replace topic '+' param) payload params).topic.toList = _
      rw [ih fun other hother => hparams other (List.mem_cons_of_mem param hother), replace,
        String.toList_ofList, replace_chars_of_no_dollar hparam]
      rfl

theorem whole_marks_of_pattern (hpattern : HasWholeWildcards topicPattern) :
    WholeMarks '+' (topicPattern.toList.splitOn '/') := by
  intro part hpart hmark
  have hwhole := hpattern (String.ofList part) (List.mem_map.mpr ⟨part, hpart, rfl⟩)
    (by rwa [String.toList_ofList])
  exact String.toList_ofList (l := part) ▸ congrArg String.toList hwhole

/-- The parameters stand in the parts of the published topic that are wildcards of the
pattern. -/
theorem split_publish_topic (hpattern : HasWholeWildcards topicPattern)
    (hparams : ∀ param ∈ params, IsPlainParam param) :
    (publish topicPattern payload params).topic.toList.splitOn '/' =
      fillPieces '+' (topicPattern.toList.splitOn '/') (params.map String.toList) := by
  have hnonempty : topicPattern.toList.splitOn '/' ≠ [] := List.splitOn_ne_nil '/' _
  have hmarks := whole_marks_of_pattern hpattern
  have hvalues : ∀ value ∈ params.map String.toList, '/' ∉ value ∧ '+' ∉ value := by
    intro value hvalue
    obtain ⟨param, hparam, rfl⟩ := List.mem_map.mp hvalue
    exact ⟨(hparams param hparam).1, (hparams param hparam).2.1⟩
  have hseparator : ('/' : Char) ≠ '+' := by decide
  have hfilled := fill_all_intercalate hseparator hmarks hnonempty
    fun value hvalue => (hvalues value hvalue).2
  rw [List.intercalate_splitOn] at hfilled
  rw [publish_topic hparams, hfilled]
  refine List.splitOn_intercalate '/' ?_ (fill_pieces_ne_nil hnonempty)
  intro piece hpiece
  rcases mem_of_mem_fill_pieces hpiece with hpart | hvalue
  · exact not_mem_of_mem_split_on hpart
  · exact (hvalues piece hvalue).1

/-! ## The parameters that are read -/

theorem of_list_eq_wildcard {part : List Char} :
    String.ofList part = MQTT_TOPIC_PARTS_WILDCARD ↔ part = ['+'] := by
  refine ⟨fun h => ?_, fun h => h ▸ rfl⟩
  rw [← String.toList_ofList (l := part), h]
  rfl

/-- The loop reads a parameter at each wildcard that is left. -/
theorem collect_wildcards {before : List String}
    (hlength : params.length = parts.count ['+']) :
    ((parts.map String.ofList).zipIdx before.length).foldl (collectWildcard (before ++
      (fillPieces '+' parts (params.map String.toList)).map String.ofList)) read =
      read ++ params.map some := by
  induction parts generalizing before params read with
  | nil =>
      cases List.eq_nil_of_length_eq_zero hlength
      exact (List.append_nil read).symm
  | cons part parts ih =>
      -- The part that is read belongs to the ones before the others.
      have hadvance : ∀ (value : List Char) (rest : List (List Char)),
          before ++ (value :: rest).map String.ofList =
            (before ++ [String.ofList value]) ++ rest.map String.ofList := by
        intro value rest
        rw [List.append_assoc]
        rfl
      have hcount : ∀ value, before.length + 1 = (before ++ [value]).length := by
        intro value
        rw [List.length_append, List.length_singleton]
      rw [List.map_cons, List.zipIdx_cons, List.foldl_cons]
      by_cases hpart : part = ['+']
      · cases hpart
        rw [List.count_cons_self] at hlength
        obtain ⟨param, params, rfl⟩ := List.exists_cons_of_length_eq_add_one hlength
        rw [List.map_cons, fill_pieces_mark, hadvance, hcount (String.ofList param.toList),
          ih (Nat.succ.inj hlength), collectWildcard, if_pos (of_list_eq_wildcard.mpr rfl)]
        rw [List.append_assoc, List.append_assoc,
          List.getElem?_append_right (Nat.le_refl before.length), Nat.sub_self,
          String.ofList_toList]
        rfl
      · rw [List.count_cons_of_ne hpart] at hlength
        rw [fill_pieces_other hpart, hadvance, hcount (String.ofList part), ih hlength,
          collectWildcard, if_neg (of_list_eq_wildcard.not.mpr hpart)]

/-- The parameters that a topic was published with are what the pattern reads from it. -/
theorem extract_publish (topicPattern : String) (params : List String) (payload : α)
    (hpattern : HasWholeWildcards topicPattern)
    (hparams : ∀ param ∈ params, IsPlainParam param)
    (hlength : params.length = wildcardCount topicPattern) :
    extractTopicWildcards topicPattern (publish topicPattern payload params).topic =
      params.map some := by
  have hcount : params.length = (topicPattern.toList.splitOn '/').count ['+'] := by
    rw [hlength]
    exact List.count_map_of_injective (topicPattern.toList.splitOn '/') String.ofList
      (fun _ _ => String.ofList_inj.mp) ['+']
  unfold extractTopicWildcards
  show List.foldl (collectWildcard (((publish topicPattern payload params).topic.toList.splitOn
    '/').map String.ofList)) [] _ = _
  rw [split_publish_topic hpattern hparams]
  exact @collect_wildcards params _ [] [] hcount

/-- A topic with two wildcards, for a room and a device. -/
theorem extract_publish_state :
    extractTopicWildcards "home/+/devices/+/state"
      (publish "home/+/devices/+/state" () ["living-room", "device-uuid"]).topic =
      [some "living-room", some "device-uuid"] :=
  extract_publish "home/+/devices/+/state" ["living-room", "device-uuid"] ()
    (by unfold HasWholeWildcards; decide) (by unfold IsPlainParam; decide) (by decide)

end MyHomeHub.MqttService
