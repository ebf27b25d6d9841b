import MyHomeHub.Common.Errors
import MyHomeHub.JavaScript.String
import MyHomeHub.Library.Assignments
import MyHomeHub.Library.Fields

/-!
# The .env file of the Zigbee2MQTT secrets

`generate_z2m_secrets` reads the variables of the .env file, generates the secrets that are
asked for, and writes them back into the lines they were read from. A line is trimmed before it
is read, and the line of a variable is the last one that assigns it.
-/

namespace MyHomeHub.GenerateZ2mSecrets

open JavaScript Library

/-! ## Reading -/

/-- A variable that was read. -/
structure EnvVar where
  value : String
  lineIndex : Nat
  deriving DecidableEq, Repr

/-- The result of `parseEnv`. -/
structure Env where
  vars : List (String × EnvVar)
  lines : List String
  deriving DecidableEq, Repr

/-- The key and the value that `parseEnv` finds in a line. -/
def readLine (line : String) : Option (String × String) :=
  let trimmed := trim line
  if trimmed = "" || trimmed.toList.head? = some '#' then none
  else
    match split trimmed '=' with
    | key :: rest => if key = "" then none else some (key, rest.head?.getD "")
    | [] => none

/-- The assignment that the callback of `parseEnv` makes for the line at an index. -/
def assignedVar (line : String) (i : Nat) : Option (String × EnvVar) :=
  (readLine line).map fun (key, value) => (key, { value := value, lineIndex := i })

/-- `parseEnv` -/
def parseEnv (content : String) : Env :=
  let lines := split content '\n'
  { vars := assignItems assignedVar lines
    lines := lines }

/-! ## Generating -/

/-- `RESERVED_PAN_IDS` -/
def RESERVED_PAN_IDS : List Nat :=
  [0, 0xffff]

/-- `n.toString(16).padStart(length, '0')` -/
def paddedHex (length n : Nat) : List Char :=
  List.leftpad length '0' (Nat.toDigits 16 n)

/-- `randomByteList` for the random bytes. -/
def randomByteList (bytes : List UInt8) : String :=
  let texts := bytes.map fun b => '0' :: 'x' :: paddedHex 2 b.toNat
  String.ofList ('[' :: ([','].intercalate texts ++ [']']))

/-- `randomPanId` for the random word that ends its loop. -/
def randomPanId (word : UInt16) : String :=
  String.ofList ('0' :: 'x' :: paddedHex 4 word.toNat)

/-- A value that a generator returns. -/
inductive IsGenerated : String → Prop
  | byteList (bytes : List UInt8) : IsGenerated (randomByteList bytes)
  | panId {word : UInt16} : word.toNat ∉ RESERVED_PAN_IDS → IsGenerated (randomPanId word)

/-- `REQUIRED_VARS` -/
def REQUIRED_VARS : List String :=
  ["Z2M_MQTT_DOMAIN", "MQTT_PORT", "Z2M_MQTT_USERNAME", "Z2M_MQTT_PASSWORD", "Z2M_NETWORK_KEY",
    "Z2M_PAN_ID", "Z2M_EXT_PAN_ID", "Z2M_COORDINATOR_URL"]

/-- What the generators take from the source of randomness. -/
structure RandomSource where
  networkKey : Vector UInt8 16
  panId : UInt16
  extPanId : Vector UInt8 8
  allowed : panId.toNat ∉ RESERVED_PAN_IDS

/-- `generators[name]` -/
def generate (random : RandomSource) (name : String) : Option String :=
  if name = "Z2M_NETWORK_KEY" then some (randomByteList random.networkKey.toList)
  else if name = "Z2M_PAN_ID" then some (randomPanId random.panId)
  else if name = "Z2M_EXT_PAN_ID" then some (randomByteList random.extPanId.toList)
  else none

/-- The required variables that are missing or empty. -/
def missing (env : Env) : List String :=
  REQUIRED_VARS.filter fun name => (env.vars.lookup name).all (·.value = "")

/-- The loop of `main` that fills `envUpdates`, or the message it fails with. -/
def collectUpdates (env : Env) (random : RandomSource) :
    List String → Except String (List (String × String))
  | [] => .ok []
  | name :: names =>
      if (env.vars.lookup name).map (·.value) = some "GENERATE" then
        match generate random name with
        | some value => do
            let envUpdates ← collectUpdates env random names
            return (name, value) :: envUpdates
        | none => .error (name ++ " is set to GENERATE but no generator is defined for it")
      else collectUpdates env random names

/-- `envUpdates` -/
def envUpdates (env : Env) (random : RandomSource) : Except String (List (String × String)) :=
  if (missing env).isEmpty then collectUpdates env random REQUIRED_VARS
  else .error ("missing required variable(s) in .env: " ++ ", ".intercalate (missing env))

/-! ## Writing back -/

/-- Generated values for different variables that are assigned in a file. -/
structure EnvUpdates (content : String) where
  entries : List (String × String)
  distinct : (entries.map (·.1)).Nodup
  assigned : ∀ entry ∈ entries, ((parseEnv content).vars.lookup entry.1).isSome = true
  generated : ∀ entry ∈ entries, IsGenerated entry.2

/-- The lines after the one of an updated variable was replaced. Only variables that were read are
updated. -/
def replaceLine (env : Env) (newLines : List String) (update : String × String) : List String :=
  match env.vars.lookup update.1 with
  | some var => newLines.set var.lineIndex (update.1 ++ "=" ++ update.2)
  | none => newLines

/-- The lines that are written back. -/
def newLines (content : String) (entries : List (String × String)) : List String :=
  entries.foldl (replaceLine (parseEnv content)) (parseEnv content).lines

/-- The file after `main` wrote the updates back, if there are any. -/
def writeBack (content : String) (entries : List (String × String)) : String :=
  if entries.isEmpty then content
  else "\n".intercalate (newLines content entries)

/-! ## What is expected -/

/-- The variable that a line assigns: what stands before the first equals sign of the trimmed line,
which is neither empty nor the beginning of a comment. -/
def variableOf (line : String) : Option String :=
  let trimmed := (trim line).toList
  let key := trimmed.takeWhile (· ≠ '=')
  if trimmed.head? = some '#' || key.isEmpty then none
  else some (String.ofList key)

/-- The whole text behind the first equals sign of the trimmed line. -/
def textBehindEquals (line : String) : String :=
  String.ofList ((trim line).toList.dropWhile (· ≠ '=')).tail

/-- The line at an index is the last one that assigns the variable. -/
def IsLastLine (lines : List String) (i : Nat) (line key : String) : Prop :=
  lines[i]? = some line ∧ variableOf line = some key ∧
    ∀ j other, i < j → lines[j]? = some other → variableOf other ≠ some key

/-- Every variable is read with the whole text behind its first equals sign, and a file that is
written back reads as it should and has every other line as it was. -/
structure RoundTrips (content : String) : Prop where
  reads : ∀ i line key, IsLastLine (split content '\n') i line key →
    (parseEnv content).vars.lookup key =
      some { value := textBehindEquals line, lineIndex := i }
  unassigned : ∀ key, (∀ line ∈ split content '\n', variableOf line ≠ some key) →
    (parseEnv content).vars.lookup key = none
  generated : ∀ updates : EnvUpdates content, ∀ entry ∈ updates.entries,
    ((parseEnv (writeBack content updates.entries)).vars.lookup entry.1).map (·.value) =
      some entry.2
  others : ∀ (updates : EnvUpdates content) (key : String),
    (∀ entry ∈ updates.entries, entry.1 ≠ key) →
      ((parseEnv (writeBack content updates.entries)).vars.lookup key).map (·.value) =
        ((parseEnv content).vars.lookup key).map (·.value)
  lines : ∀ (updates : EnvUpdates content) (i : Nat),
    (∀ entry ∈ updates.entries, ∀ var,
      (parseEnv content).vars.lookup entry.1 = some var → var.lineIndex ≠ i) →
      (split (writeBack content updates.entries) '\n')[i]? = (split content '\n')[i]?

/-- The last line that assigns a variable has no second equals sign. -/
def SingleEquals (content : String) : Prop :=
  ∀ i line key, IsLastLine (split content '\n') i line key →
    (trim line).toList.count '=' ≤ 1

variable {content line key value : String} {i : Nat}
  {entries : List (String × String)}

/-! ## One line -/

/-- A text is split into what stands before the first equals sign and what stands up to the next,
and more. -/
theorem split_equals (s : String) :
    ∃ rest, split s '=' = String.ofList (s.toList.takeWhile (· ≠ '=')) :: rest ∧
      rest.head?.getD "" =
        String.ofList ((s.toList.dropWhile (· ≠ '=')).tail.takeWhile (· ≠ '=')) := by
  unfold split
  rw [split_on_eq, List.map_cons]
  refine ⟨_, rfl, ?_⟩
  cases s.toList.dropWhile (· ≠ '=') with
  | nil => rfl
  | cons c back =>
      show ((back.splitOn '=').map String.ofList).head?.getD "" = _
      rw [split_on_eq]
      rfl

/-- What stands behind the first equals sign and before the second. -/
def textBetweenEquals (line : String) : String :=
  String.ofList ((textBehindEquals line).toList.takeWhile (· ≠ '='))

/-- A line is read up to the second equals sign. -/
theorem read_line_eq :
    readLine line = (variableOf line).map fun key => (key, textBetweenEquals line) := by
  obtain ⟨rest, hsplit, hrest⟩ := split_equals (trim line)
  unfold readLine variableOf textBetweenEquals
  dsimp only
  rw [hsplit, textBehindEquals, String.toList_ofList]
  dsimp only
  rw [hrest]
  by_cases hcomment : (trim line).toList.head? = some '#'
  · rw [if_pos (by simp [hcomment]), if_pos (by simp [hcomment])]
    rfl
  · cases hkey : (trim line).toList.takeWhile (· ≠ '=') with
    | nil =>
        have hvariable : (decide ((trim line).toList.head? = some '#') ||
            ([] : List Char).isEmpty) = true := by simp
        rw [if_pos hvariable]
        split
        · rfl
        · exact if_pos rfl
    | cons c key =>
        have hne : trim line ≠ "" := by
          intro hempty
          rw [hempty] at hkey
          cases hkey
        have hkey : String.ofList (c :: key) ≠ "" := by
          intro hempty
          have hnil := congrArg String.toList hempty
          rw [String.toList_ofList] at hnil
          cases hnil
        rw [if_neg (by simp [hne, hcomment]), if_neg hkey, if_neg (by simp [hcomment])]
        rfl

/-- What the variable of a line is made of. -/
theorem variable_of_some (h : variableOf line = some key) :
    key.toList ≠ [] ∧ key.toList.head? = (trim line).toList.head? ∧ '=' ∉ key.toList ∧
      (trim line).toList.head? ≠ some '#' ∧ ∀ c ∈ key.toList, c ∈ line.toList := by
  unfold variableOf at h
  dsimp only at h
  split at h
  · cases h
  · rename_i hguard
    obtain rfl := Option.some.inj h
    rw [String.toList_ofList]
    have hcomment : (trim line).toList.head? ≠ some '#' := by
      intro hcomment
      exact hguard (by simp [hcomment])
    have hne : (trim line).toList.takeWhile (· ≠ '=') ≠ [] := by
      intro hempty
      exact hguard (by rw [hempty]; simp)
    refine ⟨hne, ?_, ?_, hcomment, ?_⟩
    · cases htrimmed : (trim line).toList with
      | nil =>
          rw [htrimmed] at hne
          exact absurd rfl hne
      | cons c rest =>
          rw [htrimmed, List.takeWhile_cons] at hne
          rw [List.takeWhile_cons]
          split
          · rfl
          · rename_i hc
            rw [if_neg hc] at hne
            exact absurd rfl hne
    · intro hmem
      have hother := List.mem_takeWhile_imp hmem
      exact absurd rfl (of_decide_eq_true hother)
    · intro c hc
      have htrimmed := (List.takeWhile_sublist _).mem hc
      rw [trim, String.toList_ofList] at htrimmed
      exact mem_of_mem_trim_chars htrimmed

/-- A value is read whole exactly if the line has no second equals sign. -/
theorem text_between_eq_iff :
    textBetweenEquals line = textBehindEquals line ↔ (trim line).toList.count '=' ≤ 1 := by
  rw [count_le_one_iff, textBetweenEquals, textBehindEquals, String.toList_ofList,
    String.ofList_inj]
  generalize ((trim line).toList.dropWhile (· ≠ '=')).tail = behind
  rw [List.takeWhile_eq_self_iff]
  refine ⟨fun h hmem => ?_, fun h c hc => decide_eq_true fun heq => h (heq ▸ hc)⟩
  have hne : '=' ≠ '=' := of_decide_eq_true (h '=' hmem)
  exact hne rfl

/-! ## All lines -/

theorem assigns_at_iff {lines : List String} {var : EnvVar} :
    AssignsAt assignedVar lines i key var ↔
      ∃ line, lines[i]? = some line ∧ variableOf line = some key ∧
        var = { value := textBetweenEquals line, lineIndex := i } := by
  refine exists_congr fun line => and_congr_right fun _ => ?_
  unfold assignedVar
  rw [read_line_eq]
  cases variableOf line with
  | none => exact iff_of_false (fun h => by cases h) fun h => by cases h.1
  | some name =>
      refine ⟨fun h => ?_, ?_⟩
      · cases h
        exact ⟨rfl, rfl⟩
      · rintro ⟨hname, rfl⟩
        cases hname
        rfl

/-- What is read of a variable comes from the last line that assigns it. -/
theorem lookup_parse_env {var : EnvVar} :
    (parseEnv content).vars.lookup key = some var ↔
      ∃ i line, IsLastLine (split content '\n') i line key ∧
        var = { value := textBetweenEquals line, lineIndex := i } := by
  refine lookup_assign_items.trans (exists_congr fun i => ⟨?_, ?_⟩)
  · rintro ⟨hassigns, hlast⟩
    obtain ⟨line, hline, hkey, rfl⟩ := assigns_at_iff.mp hassigns
    refine ⟨line, ⟨hline, hkey, fun j other hj hother hsame => ?_⟩, rfl⟩
    exact hlast j _ hj (assigns_at_iff.mpr ⟨other, hother, hsame, rfl⟩)
  · rintro ⟨line, ⟨hline, hkey, hlast⟩, rfl⟩
    refine ⟨assigns_at_iff.mpr ⟨line, hline, hkey, rfl⟩, fun j var hj hassigns => ?_⟩
    obtain ⟨other, hother, hsame, -⟩ := assigns_at_iff.mp hassigns
    exact hlast j other hj hother hsame

theorem lookup_parse_env_none
    (hnone : ∀ line ∈ split content '\n', variableOf line ≠ some key) :
    (parseEnv content).vars.lookup key = none := by
  refine lookup_assign_items_none fun i var hassigns => ?_
  obtain ⟨line, hline, hkey, -⟩ := assigns_at_iff.mp hassigns
  exact hnone line (List.mem_of_getElem? hline) hkey

/-- The values are read whole exactly if no line that is last has a second equals sign. -/
theorem reads_iff :
    (∀ i line key, IsLastLine (split content '\n') i line key →
      (parseEnv content).vars.lookup key =
        some { value := textBehindEquals line, lineIndex := i }) ↔ SingleEquals content := by
  refine forall_congr' fun i => forall_congr' fun line => forall_congr' fun key =>
    forall_congr' fun hlast => ?_
  rw [lookup_parse_env.mpr ⟨i, line, hlast, rfl⟩, ← text_between_eq_iff, Option.some.injEq,
    EnvVar.mk.injEq, and_iff_left rfl]

/-! ## Generated values -/

/-- The characters of generated values. -/
def generatedChars : List Char :=
  ['[', ']', ',', 'x', '0', '1', '2', '3', '4', '5', '6', '7', '8', '9', 'a', 'b', 'c', 'd',
    'e', 'f']

theorem digit_char_mem {n : Nat} (hn : n < 16) : Nat.digitChar n ∈ generatedChars := by
  decide +revert

theorem to_digits_chars {n : Nat} {c : Char} (hc : c ∈ Nat.toDigits 16 n) :
    c ∈ generatedChars := by
  induction n using Nat.strong_induction_on with
  | _ n ih =>
      rcases Nat.lt_or_ge n 16 with hn | hn
      · rw [Nat.toDigits_of_lt_base hn] at hc
        exact List.mem_singleton.mp hc ▸ digit_char_mem hn
      · rw [Nat.toDigits_of_base_le (by decide) hn] at hc
        rcases List.mem_append.mp hc with hc | hc
        · exact ih (n / 16) (by omega) hc
        · exact List.mem_singleton.mp hc ▸ digit_char_mem (Nat.mod_lt n (by decide))

theorem padded_hex_chars {length n : Nat} {c : Char} (hc : c ∈ paddedHex length n) :
    c ∈ generatedChars := by
  rcases List.mem_append.mp hc with hc | hc
  · rw [List.eq_of_mem_replicate hc]
    decide
  · exact to_digits_chars hc

theorem generated_chars (hvalue : IsGenerated value) {c : Char} (hc : c ∈ value.toList) :
    c ∈ generatedChars := by
  have hhex : ∀ {length n : Nat}, c ∈ '0' :: 'x' :: paddedHex length n → c ∈ generatedChars := by
    intro length n hmem
    rcases List.mem_cons.mp hmem with rfl | hmem
    · decide
    · rcases List.mem_cons.mp hmem with rfl | hmem
      · decide
      · exact padded_hex_chars hmem
  cases hvalue with
  | byteList bytes =>
      rw [randomByteList, String.toList_ofList] at hc
      rcases List.mem_cons.mp hc with rfl | hc
      · decide
      · rcases List.mem_append.mp hc with hc | hc
        · rcases mem_intercalate hc with rfl | ⟨text, htext, hc⟩
          · decide
          · obtain ⟨byte, -, rfl⟩ := List.mem_map.mp htext
            exact hhex hc
        · exact List.mem_singleton.mp hc ▸ by decide
  | panId hword =>
      rw [randomPanId, String.toList_ofList] at hc
      exact hhex hc

/-- A generated value has no equals sign, line break or white space in it. -/
theorem generated_plain (hvalue : IsGenerated value) {c : Char} (hc : c ∈ value.toList) :
    c ≠ '=' ∧ c ≠ '\n' ∧ isWhitespace c = false := by
  have hplain : (generatedChars.all fun c => c != '=' && c != '\n' && !isWhitespace c) = true := by
    decide
  have hchar := List.all_eq_true.mp hplain c (generated_chars hvalue hc)
  rw [Bool.and_eq_true, Bool.and_eq_true, bne_iff_ne, bne_iff_ne, Bool.not_eq_true'] at hchar
  exact ⟨hchar.1.1, hchar.1.2, hchar.2⟩

/-! ## The lines that are written -/

/-- The line that is written for a variable assigns it the generated value. -/
theorem written_line (hkey : variableOf line = some key) (hvalue : IsGenerated value) :
    variableOf (key ++ "=" ++ value) = some key ∧
      textBetweenEquals (key ++ "=" ++ value) = value := by
  obtain ⟨hne, hhead, hequals, hcomment, -⟩ := variable_of_some hkey
  have htext : (key ++ "=" ++ value).toList = key.toList ++ '=' :: value.toList := by
    rw [String.toList_append, String.toList_append, List.append_assoc]
    rfl
  obtain ⟨first, rest, hfirst⟩ := List.exists_cons_of_ne_nil hne
  have hblank : isWhitespace first = false := by
    rw [hfirst, trim, String.toList_ofList] at hhead
    exact trim_chars_head hhead.symm
  have htrim : (trim (key ++ "=" ++ value)).toList = key.toList ++ '=' :: value.toList := by
    rw [trim, String.toList_ofList, htext, hfirst]
    refine trim_chars_of_ends (fun c hc => ?_) fun c hc => ?_
    · cases hc
      exact hblank
    · rw [List.reverse_append, List.reverse_cons] at hc
      have hmem : c ∈ value.toList.reverse ++ ['='] := by
        cases hreverse : value.toList.reverse with
        | nil =>
            rw [hreverse] at hc
            cases hc
            exact List.mem_singleton_self _
        | cons last others =>
            rw [hreverse] at hc
            cases hc
            exact List.mem_cons_self
      rcases List.mem_append.mp hmem with hmem | hmem
      · exact (generated_plain hvalue (List.mem_reverse.mp hmem)).2.2
      · cases List.mem_singleton.mp hmem
        decide
  obtain ⟨htake, hdrop⟩ := cut_at_first value.toList hequals
  refine ⟨?_, ?_⟩
  · unfold variableOf
    dsimp only
    rw [htrim, htake]
    have hguard : (decide ((key.toList ++ '=' :: value.toList).head? = some '#') ||
        key.toList.isEmpty) = false := by
      rw [hfirst] at hhead ⊢
      rw [Bool.or_eq_false_iff, decide_eq_false_iff_not]
      exact ⟨fun h => hcomment (hhead ▸ h), rfl⟩
    rw [hguard, String.ofList_toList]
    rfl
  · rw [textBetweenEquals, textBehindEquals, String.toList_ofList, htrim, hdrop, List.tail_cons]
    rw [List.takeWhile_eq_self_iff.mpr, String.ofList_toList]
    intro c hc
    exact decide_eq_true (generated_plain hvalue hc).1

/-! ## The lines of the written file -/

/-- No update of the entries is written into the line at the index. -/
def Untouched (content : String) (entries : List (String × String)) (i : Nat) : Prop :=
  ∀ entry ∈ entries, ∀ var, (parseEnv content).vars.lookup entry.1 = some var →
    var.lineIndex ≠ i

variable {lines : List String} {entry : String × String} {var : EnvVar}

theorem length_replace_line (env : Env) :
    (replaceLine env lines entry).length = lines.length := by
  unfold replaceLine
  split
  · exact List.length_set
  · rfl

theorem length_replace_lines (env : Env) :
    (entries.foldl (replaceLine env) lines).length = lines.length := by
  induction entries generalizing lines with
  | nil => rfl
  | cons entry entries ih => rw [List.foldl_cons, ih, length_replace_line]

theorem untouched_line (huntouched : Untouched content entries i) :
    (entries.foldl (replaceLine (parseEnv content)) lines)[i]? = lines[i]? := by
  induction entries generalizing lines with
  | nil => rfl
  | cons entry entries ih =>
      rw [List.foldl_cons, ih fun other hother =>
        huntouched other (List.mem_cons_of_mem entry hother)]
      unfold replaceLine
      split
      · rename_i var hvar
        exact List.getElem?_set_ne (huntouched entry List.mem_cons_self var hvar)
      · rfl

/-- Different variables were read from different lines. -/
theorem line_index_ne {other : String} {otherVar : EnvVar}
    (hvar : (parseEnv content).vars.lookup key = some var)
    (hother : (parseEnv content).vars.lookup other = some otherVar) (hne : other ≠ key) :
    otherVar.lineIndex ≠ var.lineIndex := by
  obtain ⟨i, line, ⟨hline, hkey, -⟩, rfl⟩ := lookup_parse_env.mp hvar
  obtain ⟨j, otherLine, ⟨hotherLine, hotherKey, -⟩, rfl⟩ := lookup_parse_env.mp hother
  rintro (rfl : j = i)
  cases hline.symm.trans hotherLine
  exact hne (Option.some.inj (hotherKey.symm.trans hkey))

theorem touched_line (hdistinct : (entries.map (·.1)).Nodup) (hentry : entry ∈ entries)
    (hvar : (parseEnv content).vars.lookup entry.1 = some var)
    (hindex : var.lineIndex < lines.length) :
    (entries.foldl (replaceLine (parseEnv content)) lines)[var.lineIndex]? =
      some (entry.1 ++ "=" ++ entry.2) := by
  induction entries generalizing lines with
  | nil => cases hentry
  | cons first entries ih =>
      rw [List.map_cons, List.nodup_cons] at hdistinct
      rw [List.foldl_cons]
      rcases List.mem_cons.mp hentry with rfl | hentry
      · rw [untouched_line]
        · unfold replaceLine
          rw [hvar]
          exact List.getElem?_set_self hindex
        · intro other hother otherVar hotherVar
          refine line_index_ne hvar hotherVar fun h => hdistinct.1 ?_
          exact h ▸ List.mem_map_of_mem hother
      · exact ih hdistinct.2 hentry (by rwa [length_replace_line])

/-- The line of an updated variable is written. -/
theorem updated_new_line (updates : EnvUpdates content) (hentry : entry ∈ updates.entries)
    (hvar : (parseEnv content).vars.lookup entry.1 = some var) :
    (newLines content updates.entries)[var.lineIndex]? =
      some (entry.1 ++ "=" ++ entry.2) := by
  refine touched_line updates.distinct hentry hvar ?_
  obtain ⟨i, line, hlast, rfl⟩ := lookup_parse_env.mp hvar
  exact (List.getElem?_eq_some_iff.mp hlast.1).1

/-- An updated variable was read from the last line that assigns it. -/
theorem updated_line (updates : EnvUpdates content) (hentry : entry ∈ updates.entries) :
    ∃ i line, IsLastLine (split content '\n') i line entry.1 ∧
      (parseEnv content).vars.lookup entry.1 =
        some { value := textBetweenEquals line, lineIndex := i } := by
  obtain ⟨var, hvar⟩ := Option.isSome_iff_exists.mp (updates.assigned entry hentry)
  obtain ⟨i, line, hlast, rfl⟩ := lookup_parse_env.mp hvar
  exact ⟨i, line, hlast, hvar⟩

theorem no_break_in_lines {c : Char} (hline : line ∈ split content '\n')
    (hc : c ∈ line.toList) : c ≠ '\n' := by
  obtain ⟨piece, hpiece, rfl⟩ := List.mem_map.mp hline
  rw [String.toList_ofList] at hc
  exact fun h => not_mem_of_mem_split_on hpiece (h ▸ hc)

/-- No line that is written has a line break in it. -/
theorem no_break_in_new_lines (updates : EnvUpdates content) :
    ∀ line ∈ newLines content updates.entries, '\n' ∉ line.toList := by
  have hwritten : ∀ entry ∈ updates.entries, '\n' ∉ (entry.1 ++ "=" ++ entry.2).toList := by
    intro entry hentry hbreak
    obtain ⟨i, line, ⟨hline, hkey, -⟩, -⟩ := updated_line updates hentry
    rw [String.toList_append, String.toList_append, List.mem_append, List.mem_append] at hbreak
    rcases hbreak with (hbreak | hbreak) | hbreak
    · exact no_break_in_lines (List.mem_of_getElem? hline)
        ((variable_of_some hkey).2.2.2.2 _ hbreak) rfl
    · cases List.mem_singleton.mp hbreak
    · exact (generated_plain (updates.generated entry hentry) hbreak).2.1 rfl
  have hloop : ∀ (entries : List (String × String)) (lines : List String),
      (∀ entry ∈ entries, '\n' ∉ (entry.1 ++ "=" ++ entry.2).toList) →
      (∀ line ∈ lines, '\n' ∉ line.toList) →
      ∀ line ∈ entries.foldl (replaceLine (parseEnv content)) lines, '\n' ∉ line.toList := by
    intro entries
    induction entries with
    | nil => exact fun lines _ hlines => hlines
    | cons entry entries ih =>
        intro lines hentries hlines
        refine ih _ (fun other hother => hentries other (List.mem_cons_of_mem entry hother)) ?_
        unfold replaceLine
        split
        · intro line hline
          rcases List.mem_or_eq_of_mem_set hline with hline | rfl
          · exact hlines line hline
          · exact hentries entry List.mem_cons_self
        · exact hlines
  exact hloop updates.entries _ hwritten fun line hline hbreak =>
    no_break_in_lines hline hbreak rfl

/-- The lines of the written file are the ones that were written. -/
theorem split_write_back (updates : EnvUpdates content) :
    split (writeBack content updates.entries) '\n' = newLines content updates.entries := by
  unfold writeBack
  split
  · rename_i hempty
    rw [List.isEmpty_iff.mp hempty]
    rfl
  · have hlength : (newLines content updates.entries).length ≠ 0 := by
      rw [newLines, length_replace_lines]
      show ((content.toList.splitOn '\n').map String.ofList).length ≠ 0
      rw [List.length_map, length_split_on]
      exact Nat.succ_ne_zero _
    have hbreaks : ∀ text ∈ (newLines content updates.entries).map String.toList,
        '\n' ∉ text := by
      intro text htext
      obtain ⟨line, hline, rfl⟩ := List.mem_map.mp htext
      exact no_break_in_new_lines updates line hline
    unfold split
    rw [String.toList_intercalate]
    show ((['\n'].intercalate _).splitOn '\n').map String.ofList = _
    rw [List.splitOn_intercalate '\n' hbreaks, List.map_map]
    · exact List.map_id'' (fun line => String.ofList_toList) _
    · intro hnil
      exact hlength (List.length_eq_zero_iff.mpr (List.map_eq_nil_iff.mp hnil))

/-- Every line of the written file assigns the variable that it assigned before. -/
theorem variable_of_new_line (updates : EnvUpdates content) (i : Nat) :
    (newLines content updates.entries)[i]?.bind variableOf =
      (split content '\n')[i]?.bind variableOf := by
  by_cases huntouched : Untouched content updates.entries i
  · rw [newLines, untouched_line huntouched]
    rfl
  · obtain ⟨entry, hentry, var, hvar, rfl⟩ : ∃ entry ∈ updates.entries, ∃ var,
        (parseEnv content).vars.lookup entry.1 = some var ∧ var.lineIndex = i := by
      unfold Untouched at huntouched
      push Not at huntouched
      exact huntouched
    rw [updated_new_line updates hentry hvar]
    obtain ⟨i, line, ⟨hline, hkey, -⟩, rfl⟩ := lookup_parse_env.mp hvar
    show _ = (split content '\n')[i]?.bind variableOf
    rw [hline, Option.bind_some, Option.bind_some, hkey]
    exact (written_line hkey (updates.generated entry hentry)).1

/-- Lines that assign the same variables have the same last lines. -/
theorem last_line_of_same {others : List String}
    (hsame : ∀ i : Nat, others[i]?.bind variableOf = lines[i]?.bind variableOf)
    (hlast : IsLastLine lines i line key) : ∃ other, IsLastLine others i other key := by
  obtain ⟨hline, hkey, hbehind⟩ := hlast
  have hother := hsame i
  rw [hline, Option.bind_some, hkey] at hother
  obtain ⟨other, hother, hvariable⟩ := Option.bind_eq_some_iff.mp hother
  refine ⟨other, hother, hvariable, fun j line hj hline hkey => ?_⟩
  have hbefore := hsame j
  rw [hline, Option.bind_some, hkey] at hbefore
  obtain ⟨old, hold, holdKey⟩ := Option.bind_eq_some_iff.mp hbefore.symm
  exact hbehind j old hj hold holdKey

/-! ## The written file -/

theorem generated_read_back (updates : EnvUpdates content) (hentry : entry ∈ updates.entries) :
    ((parseEnv (writeBack content updates.entries)).vars.lookup entry.1).map (·.value) =
      some entry.2 := by
  obtain ⟨i, line, hlast, hlookup⟩ := updated_line updates hentry
  obtain ⟨other, hother⟩ := last_line_of_same (variable_of_new_line updates) hlast
  have hwritten : (newLines content updates.entries)[i]? = _ :=
    updated_new_line updates hentry hlookup
  obtain rfl := Option.some.inj (hwritten.symm.trans hother.1)
  rw [lookup_parse_env.mpr ⟨i, _, (split_write_back updates).symm ▸ hother, rfl⟩]
  exact congrArg some (written_line hlast.2.1 (updates.generated entry hentry)).2

theorem others_read_back (updates : EnvUpdates content)
    (hkey : ∀ entry ∈ updates.entries, entry.1 ≠ key) :
    ((parseEnv (writeBack content updates.entries)).vars.lookup key).map (·.value) =
      ((parseEnv content).vars.lookup key).map (·.value) := by
  have hsame := variable_of_new_line updates
  cases hlookup : (parseEnv content).vars.lookup key with
  | some var =>
      obtain ⟨i, line, hlast, rfl⟩ := lookup_parse_env.mp hlookup
      obtain ⟨other, hother⟩ := last_line_of_same hsame hlast
      have huntouched : Untouched content updates.entries i := by
        intro entry hentry var hvar
        exact line_index_ne hlookup hvar (hkey entry hentry)
      have hline : (newLines content updates.entries)[i]? = some line :=
        (untouched_line huntouched).trans hlast.1
      obtain rfl := Option.some.inj (hline.symm.trans hother.1)
      rw [lookup_parse_env.mpr ⟨i, _, (split_write_back updates).symm ▸ hother, rfl⟩]
  | none =>
      cases hwritten : (parseEnv (writeBack content updates.entries)).vars.lookup key with
      | none => rfl
      | some var =>
          obtain ⟨i, line, hlast, rfl⟩ := lookup_parse_env.mp hwritten
          rw [split_write_back] at hlast
          obtain ⟨other, hother⟩ := last_line_of_same (fun j => (hsame j).symm) hlast
          cases hlookup.symm.trans (lookup_parse_env.mpr ⟨i, other, hother, rfl⟩)

/-! ## The updates of `main` -/

theorem is_generated_of_generate {random : RandomSource}
    (hgenerate : generate random key = some value) : IsGenerated value := by
  unfold generate at hgenerate
  split at hgenerate
  · exact Option.some.inj hgenerate ▸ .byteList _
  · split at hgenerate
    · exact Option.some.inj hgenerate ▸ .panId random.allowed
    · split at hgenerate
      · exact Option.some.inj hgenerate ▸ .byteList _
      · cases hgenerate

/-- What the loop collects for different names are generated values of variables that were
read. -/
theorem collect_updates_spec {env : Env} {random : RandomSource} {names : List String}
    (hcollect : collectUpdates env random names = .ok entries) :
    (entries.map (·.1)).Sublist names ∧
      ∀ entry ∈ entries, (env.vars.lookup entry.1).isSome = true ∧ IsGenerated entry.2 := by
  induction names generalizing entries with
  | nil =>
      cases hcollect
      exact ⟨.slnil, fun _ h => by cases h⟩
  | cons name names ih =>
      unfold collectUpdates at hcollect
      split at hcollect
      · rename_i hvalue
        split at hcollect
        · rename_i value hgenerate
          obtain ⟨others, hothers, hentries⟩ := bind_ok_iff.mp hcollect
          cases hentries
          obtain ⟨hnames, hspec⟩ := ih hothers
          refine ⟨hnames.cons_cons name, fun entry hentry => ?_⟩
          rcases List.mem_cons.mp hentry with rfl | hentry
          · obtain ⟨var, hvar, -⟩ := Option.map_eq_some_iff.mp hvalue
            exact ⟨Option.isSome_of_eq_some hvar, is_generated_of_generate hgenerate⟩
          · exact hspec entry hentry
        · cases hcollect
      · obtain ⟨hnames, hspec⟩ := ih hcollect
        exact ⟨hnames.cons name, hspec⟩

/-- The updates of `main` are generated values for different variables of the file. -/
theorem updates_of_main {random : RandomSource}
    (hupdates : envUpdates (parseEnv content) random = .ok entries) :
    ∃ updates : EnvUpdates content, updates.entries = entries := by
  unfold envUpdates at hupdates
  split at hupdates
  · obtain ⟨hnames, hspec⟩ := collect_updates_spec hupdates
    have hrequired : REQUIRED_VARS.Nodup := by decide
    exact ⟨⟨entries, hnames.nodup hrequired, fun entry hentry => (hspec entry hentry).1,
      fun entry hentry => (hspec entry hentry).2⟩, rfl⟩
  · cases hupdates

/-- The file is read and written back as it should exactly if no last line of a variable has a
second equals sign. -/
theorem round_trips_iff (content : String) : RoundTrips content ↔ SingleEquals content := by
  refine ⟨fun h => reads_iff.mp h.reads, fun h => ?_⟩
  refine ⟨reads_iff.mpr h, fun key => lookup_parse_env_none, fun updates entry =>
    generated_read_back updates, fun updates key => others_read_back updates, ?_⟩
  intro updates i huntouched
  rw [split_write_back]
  exact untouched_line huntouched

/-- A password with an equals sign in it is cut off. -/
theorem password_cut_off : ¬ RoundTrips "Z2M_MQTT_PASSWORD=abc=def" := by
  intro h
  have hlast : IsLastLine (split "Z2M_MQTT_PASSWORD=abc=def" '\n') 0 "Z2M_MQTT_PASSWORD=abc=def"
      "Z2M_MQTT_PASSWORD" := by
    refine ⟨by decide, by decide, fun j other hj hother => ?_⟩
    have hlength := (List.getElem?_eq_some_iff.mp hother).1
    have hone : (split "Z2M_MQTT_PASSWORD=abc=def" '\n').length = 1 := by decide
    omega
  have hsingle := reads_iff.mp h.reads 0 _ _ hlast
  exact absurd hsingle (by decide)

end MyHomeHub.GenerateZ2mSecrets
