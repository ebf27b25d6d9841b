import MyHomeHub.Library.Runs
import MyHomeHub.Scripts.EnvFile
import MyHomeHub.Scripts.MergeConfigs

/-!
# Runs of the script of the Zigbee2MQTT secrets

`generate_z2m_secrets` is run each time Zigbee2MQTT is started. A run that finds its variables
writes the generated secrets into the .env file before anything else can fail, so no later run
generates them again (`secrets_generated_once`). A run that succeeded can be repeated and
changes nothing (`rerun_changes_nothing`).
-/

namespace MyHomeHub.GenerateZ2mSecrets

open JavaScript Library

/-! ## The template -/

/-- `STRING_VARS` -/
def STRING_VARS : List String :=
  ["Z2M_MQTT_USERNAME", "Z2M_MQTT_PASSWORD", "Z2M_COORDINATOR_URL"]

/-- `yamlString` -/
def yamlString (value : String) : String :=
  "'" ++ String.ofList (value.toList.flatMap fun c => if c.val = 0x27 then [c, c] else [c]) ++ "'"

/-- `[A-Z0-9_]` -/
def isNameChar (c : Char) : Bool :=
  c.isUpper || c.isDigit || c = '_'

/-- The shortest name with two low lines behind it. -/
def readName : List Char → Option (List Char)
  | [] => none
  | c :: rest =>
      if isNameChar c then
        if ['_', '_'].isPrefixOf rest then some [c] else (readName rest).map (c :: ·)
      else none

/-- The name of the placeholder that a text begins with. -/
def readPlaceholder : List Char → Option (List Char)
  | '_' :: '_' :: rest => readName rest
  | _ => none

/-- `template.replace(/__([A-Z0-9_]+?)__/g, …)`, behind a placeholder of which some characters are
still to be passed. -/
def replacePlaceholders (substitutions : List (String × String)) :
    Nat → List Char → Except String (List Char)
  | _, [] => .ok []
  | skipped + 1, _ :: rest => replacePlaceholders substitutions skipped rest
  | 0, c :: rest =>
      match readPlaceholder (c :: rest) with
      | some name =>
          match substitutions.lookup (String.ofList name) with
          | some value => do
              let others ← replacePlaceholders substitutions (name.length + 3) rest
              return value.toList ++ others
          | none =>
              .error ("template references unknown placeholder '" ++ String.ofList name ++ "'")
      | none => do
          let others ← replacePlaceholders substitutions 0 rest
          return c :: others

/-! ## The script -/

/-- A document of YAML. No mapping in it has a key twice. -/
abbrev Document := { value : Value // value.hasUniqueKeys = true }

/-- What the script calls: `yaml.load`, `yaml.dump`, and the npm script that writes a user into the
password file of the broker. -/
class ScriptCalls where
  load : String → Except String Document
  dump : Mapping → String
  createMqttUser : String → String → Option String → Option String × Except String Unit

/-- The files of the script. -/
structure Files where
  env : Option String
  template : Option String
  config : Option String
  pwfile : Option String
  deriving DecidableEq, Repr

/-- `resolved[name]` -/
def resolved (env : Env) (envUpdates : List (String × String)) (name : String) : String :=
  (envUpdates.lookup name).getD (((env.vars.lookup name).map (·.value)).getD "")

/-- `substitutions` -/
def substitutions (resolved : String → String) : List (String × String) :=
  ("MQTT_SERVER_URL",
      yamlString ("mqtt://" ++ resolved "Z2M_MQTT_DOMAIN" ++ ":" ++ resolved "MQTT_PORT")) ::
    REQUIRED_VARS.map fun name =>
      (name, if STRING_VARS.contains name then yamlString (resolved name) else resolved name)

/-- `mqttPwfileHasUser` -/
def mqttPwfileHasUser (pwfile : Option String) (username : String) : Bool :=
  match pwfile with
  | none => false
  | some content => (split content '\n').any fun line =>
      line.toList.contains ':' && String.ofList (line.toList.takeWhile (· ≠ ':')) = username

section

variable [ScriptCalls]

/-- `renderTemplate` -/
def renderTemplate (template : String) (substitutions : List (String × String)) :
    Except String Document := do
  let text ← replacePlaceholders substitutions 0 template.toList
  ScriptCalls.load (String.ofList text)

/-- `readCurrentConfig` -/
def readCurrentConfig : Option String → Except String Mapping
  | none => .ok ⟨[], rfl⟩
  | some content => do
      match ← ScriptCalls.load content with
      | ⟨.object fields, unique⟩ => return ⟨fields, unique⟩
      | ⟨.null, _⟩ | ⟨.undefined, _⟩ => return ⟨[], rfl⟩
      | _ => .error ("existing configs/zigbee2mqtt/configuration.yaml is not a YAML mapping, " ++
          "remove it to render a fresh one")

/-- `ensureMqttUser` -/
def ensureMqttUser (username password : String) (files : Files) : Files × Except String Unit :=
  if mqttPwfileHasUser files.pwfile username then (files, .ok ())
  else
    let (pwfile, result) := ScriptCalls.createMqttUser username password files.pwfile
    ({ files with pwfile }, result)

/-- The configuration that is written over the existing one, for a template of a mapping. -/
def renderConfig (template : String) (existing : Option String) (resolved : String → String) :
    Except String String := do
  let renderedConfig ← renderTemplate template (substitutions resolved)
  let config ← readCurrentConfig existing
  match renderedConfig with
  | ⟨.object fields, unique⟩ => return ScriptCalls.dump (mergeConfigs config ⟨fields, unique⟩)
  | _ => .error "Cannot convert undefined or null to object"

/-- What `main` does with the variables it has resolved. -/
def writeConfig (files : Files) (template : String) (resolved : String → String) :
    Files × Except String Unit :=
  match renderConfig template files.config resolved with
  | .error message => (files, .error message)
  | .ok config =>
      ensureMqttUser (resolved "Z2M_MQTT_USERNAME") (resolved "Z2M_MQTT_PASSWORD")
        { files with config := some config }

/-- `main` -/
def main (random : RandomSource) (files : Files) : Files × Except String Unit :=
  match files.env, files.template with
  | none, _ => (files, .error ".env file does not exist at .env")
  | some _, none =>
      (files, .error ("template file does not exist at " ++
        "configs/zigbee2mqtt/configuration.example.yaml"))
  | some content, some template =>
      let env := parseEnv content
      match envUpdates env random with
      | .error message => (files, .error message)
      | .ok updates =>
          writeConfig { files with env := some (writeBack content updates) } template
            (resolved env updates)

end

variable {content : String} {updates : List (String × String)} {random : RandomSource}
  {name value : String} {files after : Files}

/-! ## Generating once -/

/-- Every required variable is there, and is neither empty nor to be generated. -/
def IsSettled (env : Env) : Prop :=
  ∀ name ∈ REQUIRED_VARS, ∃ var, env.vars.lookup name = some var ∧ var.value ≠ "" ∧
    var.value ≠ "GENERATE"

/-- A generated value is neither empty nor a request to generate. -/
theorem generated_settled (hvalue : IsGenerated value) : value ≠ "" ∧ value ≠ "GENERATE" := by
  refine ⟨?_, ?_⟩
  · cases hvalue with
    | byteList bytes => simp [randomByteList]
    | panId hword => simp [randomPanId]
  · rintro rfl
    have hchar : 'G' ∈ generatedChars := generated_chars hvalue (by decide)
    exact absurd hchar (by decide)

/-- The variables that ask for a value get one. -/
theorem collect_updates_mem {env : Env} {names : List String}
    (hcollect : collectUpdates env random names = .ok updates) (hname : name ∈ names)
    (hvalue : (env.vars.lookup name).map (·.value) = some "GENERATE") :
    ∃ value, (name, value) ∈ updates := by
  induction names generalizing updates with
  | nil => cases hname
  | cons first names ih =>
      unfold collectUpdates at hcollect
      split at hcollect
      · split at hcollect
        · rename_i value hgenerate
          obtain ⟨others, hothers, hupdates⟩ := bind_ok_iff.mp hcollect
          cases hupdates
          rcases List.mem_cons.mp hname with rfl | hname
          · exact ⟨value, List.mem_cons_self⟩
          · obtain ⟨other, hother⟩ := ih hothers hname
            exact ⟨other, List.mem_cons_of_mem _ hother⟩
        · cases hcollect
      · rename_i hother
        rcases List.mem_cons.mp hname with rfl | hname
        · exact absurd hvalue hother
        · exact ih hcollect hname

theorem collect_updates_none {env : Env} {names : List String}
    (hnone : ∀ name ∈ names, (env.vars.lookup name).map (·.value) ≠ some "GENERATE") :
    collectUpdates env random names = .ok [] := by
  induction names with
  | nil => rfl
  | cons first names ih =>
      rw [collectUpdates, if_neg (hnone first List.mem_cons_self)]
      exact ih fun name hname => hnone name (List.mem_cons_of_mem _ hname)

/-- Nothing is generated when no variable asks for it. -/
theorem IsSettled.env_updates {env : Env} (h : IsSettled env) (random : RandomSource) :
    envUpdates env random = .ok [] := by
  have hmissing : missing env = [] := by
    refine List.filter_eq_nil_iff.mpr fun name hname hempty => ?_
    obtain ⟨var, hvar, hvalue, -⟩ := h name hname
    rw [hvar] at hempty
    exact hvalue (of_decide_eq_true hempty)
  rw [envUpdates, hmissing]
  refine collect_updates_none fun name hname hasks => ?_
  obtain ⟨var, hvar, -, hvalue⟩ := h name hname
  rw [hvar] at hasks
  exact hvalue (Option.some.inj hasks)

/-- A required variable of an accepted file is there and is not empty. -/
theorem present_of_updates {env : Env} (hupdates : envUpdates env random = .ok updates)
    (hname : name ∈ REQUIRED_VARS) :
    ∃ var, env.vars.lookup name = some var ∧ var.value ≠ "" := by
  unfold envUpdates at hupdates
  split at hupdates
  · rename_i hmissing
    have hpresent : ¬ (env.vars.lookup name).all (·.value = "") = true :=
      List.filter_eq_nil_iff.mp (List.isEmpty_iff.mp hmissing) name hname
    cases hvar : env.vars.lookup name with
    | none => exact absurd (by rw [hvar]; rfl) hpresent
    | some var =>
        rw [hvar] at hpresent
        exact ⟨var, rfl, fun hempty => hpresent (decide_eq_true hempty)⟩
  · cases hupdates

theorem collects_of_updates {env : Env} (hupdates : envUpdates env random = .ok updates) :
    collectUpdates env random REQUIRED_VARS = .ok updates := by
  unfold envUpdates at hupdates
  split at hupdates
  · exact hupdates
  · cases hupdates

/-- The file that is written back reads as the values that were resolved. -/
theorem lookup_write_back (hupdates : envUpdates (parseEnv content) random = .ok updates)
    (hname : name ∈ REQUIRED_VARS) :
    ((parseEnv (writeBack content updates)).vars.lookup name).map (·.value) =
      some (resolved (parseEnv content) updates name) := by
  obtain ⟨entries, rfl⟩ := updates_of_main hupdates
  unfold resolved
  cases hlookup : entries.entries.lookup name with
  | some value => exact generated_read_back entries (mem_of_lookup hlookup)
  | none =>
      obtain ⟨var, hvar, -⟩ := present_of_updates hupdates hname
      rw [others_read_back entries fun _ => ne_of_lookup_none hlookup, hvar]
      rfl

/-- What is resolved is neither empty nor to be generated. -/
theorem resolved_settled (hupdates : envUpdates (parseEnv content) random = .ok updates)
    (hname : name ∈ REQUIRED_VARS) :
    resolved (parseEnv content) updates name ≠ "" ∧
      resolved (parseEnv content) updates name ≠ "GENERATE" := by
  obtain ⟨entries, rfl⟩ := updates_of_main hupdates
  unfold resolved
  cases hlookup : entries.entries.lookup name with
  | some value => exact generated_settled (entries.generated (name, value) (mem_of_lookup hlookup))
  | none =>
      obtain ⟨var, hvar, hvalue⟩ := present_of_updates hupdates hname
      rw [hvar]
      refine ⟨hvalue, fun hasks => ?_⟩
      -- a variable that asks for a value is among the updates
      obtain ⟨value, hmem⟩ := collect_updates_mem (collects_of_updates hupdates) hname
        (by rw [hvar]; exact congrArg some hasks)
      exact absurd rfl (ne_of_lookup_none hlookup hmem)

/-- A file that is written back is settled. -/
theorem settled_write_back (hupdates : envUpdates (parseEnv content) random = .ok updates) :
    IsSettled (parseEnv (writeBack content updates)) := by
  intro name hname
  obtain ⟨var, hvar, hvalue⟩ := Option.map_eq_some_iff.mp (lookup_write_back hupdates hname)
  exact ⟨var, hvar, hvalue ▸ resolved_settled hupdates hname⟩

/-- A file that is written back resolves to the same values, with nothing to generate. -/
theorem resolved_write_back (hupdates : envUpdates (parseEnv content) random = .ok updates) :
    resolved (parseEnv (writeBack content updates)) [] = resolved (parseEnv content) updates := by
  funext name
  show ((((parseEnv (writeBack content updates)).vars.lookup name).map (·.value)).getD "") = _
  obtain ⟨entries, rfl⟩ := updates_of_main hupdates
  unfold resolved
  cases hlookup : entries.entries.lookup name with
  | some value => rw [generated_read_back entries (mem_of_lookup hlookup)]; rfl
  | none => rw [others_read_back entries fun _ => ne_of_lookup_none hlookup]; rfl

/-! ## Runs -/

section

variable [ScriptCalls] {template : String}

/-- The script is run, or somebody else changes the files other than the .env file. -/
inductive ScriptAction where
  | run (random : RandomSource)
  | edit (template config pwfile : Option String)

/-- The files after an action. -/
def Files.step (files : Files) : ScriptAction → Files
  | .run random => (main random files).1
  | .edit template config pwfile => { files with template, config, pwfile }

theorem ensure_mqtt_user_fst (username password : String) (files : Files) :
    ∃ pwfile, (ensureMqttUser username password files).1 = { files with pwfile } := by
  unfold ensureMqttUser
  split
  · exact ⟨files.pwfile, rfl⟩
  · exact ⟨_, rfl⟩

/-- The configuration and the password file are all that is written with the resolved values. -/
theorem write_config_fst (files : Files) (template : String) (resolved : String → String) :
    ∃ config pwfile, (writeConfig files template resolved).1 = { files with config, pwfile } := by
  unfold writeConfig
  split
  · exact ⟨files.config, files.pwfile, rfl⟩
  · rename_i config hconfig
    obtain ⟨pwfile, hfiles⟩ := ensure_mqtt_user_fst (resolved "Z2M_MQTT_USERNAME")
      (resolved "Z2M_MQTT_PASSWORD") { files with config := some config }
    exact ⟨some config, pwfile, hfiles⟩

theorem main_of_updates (hcontent : files.env = some content)
    (htemplate : files.template = some template)
    (hupdates : envUpdates (parseEnv content) random = .ok updates) :
    main random files =
      writeConfig { files with env := some (writeBack content updates) } template
        (resolved (parseEnv content) updates) := by
  unfold main
  rw [hcontent, htemplate]
  dsimp only
  rw [hupdates]

/-- A run generates nothing when the .env file is settled. -/
theorem main_of_settled (hcontent : files.env = some content)
    (hsettled : IsSettled (parseEnv content)) (htemplate : files.template = some template) :
    main random files = writeConfig files template (resolved (parseEnv content) []) := by
  rw [main_of_updates hcontent htemplate (hsettled.env_updates random)]
  show writeConfig { files with env := some content } _ _ = _
  rw [← hcontent]

/-- An action leaves a settled .env file as it is. -/
theorem step_env (hcontent : files.env = some content) (hsettled : IsSettled (parseEnv content))
    (action : ScriptAction) : (files.step action).env = some content := by
  cases action with
  | edit template config pwfile => exact hcontent
  | run random =>
      cases htemplate : files.template with
      | none =>
          show (main random files).1.env = _
          unfold main
          rw [hcontent, htemplate]
          exact hcontent
      | some template =>
          obtain ⟨config, pwfile, hfiles⟩ :=
            write_config_fst files template (resolved (parseEnv content) [])
          show (main random files).1.env = _
          rw [main_of_settled hcontent hsettled htemplate, hfiles]
          exact hcontent

/-- When a run has found its variables and a template, no later run generates anything, whatever
happens to the other files: the .env file stays as that run has left it, and every run that finds a
template configures Zigbee2MQTT with the values that the first one resolved. -/
theorem secrets_generated_once {later : Files} (hcontent : files.env = some content)
    (htemplate : files.template.isSome = true)
    (hupdates : envUpdates (parseEnv content) random = .ok updates)
    (hrun : Reaches (fun s action t => t = Files.step s action) anyAction
      (files.step (.run random)) later) :
    later.env = some (writeBack content updates) ∧
      ∀ other template', later.template = some template' →
        main other later = writeConfig later template' (resolved (parseEnv content) updates) := by
  have hsettled := settled_write_back hupdates
  have henv : later.env = some (writeBack content updates) := by
    refine @Reaches.invariant _ _ _ _ _ _ (fun s => s.env = some (writeBack content updates)) hrun
      ?_ ?_
    · obtain ⟨template, htemplate⟩ := Option.isSome_iff_exists.mp htemplate
      obtain ⟨config, pwfile, hfiles⟩ := write_config_fst
        { files with env := some (writeBack content updates) } template
        (resolved (parseEnv content) updates)
      show (main random files).1.env = _
      rw [main_of_updates hcontent htemplate hupdates, hfiles]
    · rintro s action t hs - rfl
      exact step_env hs hsettled action
  refine ⟨henv, fun other template' htemplate' => ?_⟩
  rw [main_of_settled henv hsettled htemplate', resolved_write_back hupdates]

/-! ## Running again -/

/-- A configuration that was written is read back as it was. -/
def ReadsBack (text : String) : Prop :=
  ∀ mapping, ScriptCalls.dump mapping = text →
    ScriptCalls.load text = .ok ⟨.object mapping.fields, mapping.unique⟩

/-- A user that the npm script has created is in the password file. -/
def CreatesUsers : Prop :=
  ∀ username password pwfile created,
    ScriptCalls.createMqttUser username password pwfile = (created, .ok ()) →
      mqttPwfileHasUser created username = true

/-- A configuration is rendered over itself. -/
theorem render_config_again {existing : Option String} {resolved : String → String}
    {config : String} (hconfig : renderConfig template existing resolved = .ok config)
    (hreads : ReadsBack config) : renderConfig template (some config) resolved = .ok config := by
  unfold renderConfig at hconfig ⊢
  obtain ⟨document, hrendered, hconfig⟩ := bind_ok_iff.mp hconfig
  obtain ⟨current, hcurrent, hconfig⟩ := bind_ok_iff.mp hconfig
  obtain ⟨value, unique⟩ := document
  cases value with
  | object fields =>
      have hdump : ScriptCalls.dump (mergeConfigs current ⟨fields, unique⟩) = config :=
        Except.ok.inj hconfig
      have hread : readCurrentConfig (some config) =
          .ok (mergeConfigs current ⟨fields, unique⟩) := by
        rw [readCurrentConfig, hreads _ hdump]
        rfl
      have hagain := @merge_value_again (.object fields) (some (.object current.fields)) unique
      rw [merge_value_mappings, merge_value_mappings] at hagain
      have hmerged : mergeConfigs (mergeConfigs current ⟨fields, unique⟩) ⟨fields, unique⟩ =
          mergeConfigs current ⟨fields, unique⟩ :=
        Mapping.ext (Value.object.inj hagain)
      rw [hrendered, ok_bind, hread, ok_bind]
      show Except.ok (ScriptCalls.dump (mergeConfigs (mergeConfigs _ _) _)) = _
      rw [hmerged, hdump]
  | undefined | null | bool _ | number _ | string _ | array _ => cases hconfig

/-- A user who was there or was created is there the next time. -/
theorem ensure_mqtt_user_again (hcreates : CreatesUsers) {username password : String}
    (hensured : ensureMqttUser username password files = (after, .ok ())) :
    ensureMqttUser username password after = (after, .ok ()) := by
  have hhas : mqttPwfileHasUser after.pwfile username = true := by
    unfold ensureMqttUser at hensured
    split at hensured
    · rename_i hhas
      cases hensured
      exact hhas
    · obtain ⟨rfl, hresult⟩ := Prod.mk.inj hensured
      exact hcreates username password files.pwfile _ (Prod.ext rfl hresult)
  rw [ensureMqttUser, if_pos hhas]

/-- What a run that succeeds has found and done. -/
theorem main_ok (hrun : main random files = (after, .ok ())) :
    ∃ content template updates config, files.env = some content ∧ files.template = some template ∧
      envUpdates (parseEnv content) random = .ok updates ∧
      renderConfig template files.config (resolved (parseEnv content) updates) = .ok config ∧
      ensureMqttUser (resolved (parseEnv content) updates "Z2M_MQTT_USERNAME")
          (resolved (parseEnv content) updates "Z2M_MQTT_PASSWORD")
          { files with env := some (writeBack content updates), config := some config } =
        (after, .ok ()) := by
  unfold main at hrun
  split at hrun
  · cases hrun
  · cases hrun
  · rename_i content template hcontent htemplate
    dsimp only at hrun
    split at hrun
    · cases hrun
    · rename_i updates hupdates
      unfold writeConfig at hrun
      split at hrun
      · cases hrun
      · rename_i config hconfig
        exact ⟨content, template, updates, config, hcontent, htemplate, hupdates, hconfig, hrun⟩

/-- After a run that succeeded every other run succeeds, generates nothing and leaves all files as
they are. -/
theorem rerun_changes_nothing (hrun : main random files = (after, .ok ()))
    (hreads : ∀ config, after.config = some config → ReadsBack config)
    (hcreates : CreatesUsers) (other : RandomSource) : main other after = (after, .ok ()) := by
  obtain ⟨content, template, updates, config, -, htemplate, hupdates, hconfig, hensured⟩ :=
    main_ok hrun
  obtain ⟨pwfile, hfiles⟩ := ensure_mqtt_user_fst
    (resolved (parseEnv content) updates "Z2M_MQTT_USERNAME")
    (resolved (parseEnv content) updates "Z2M_MQTT_PASSWORD")
    { files with env := some (writeBack content updates), config := some config }
  rw [hensured] at hfiles
  have henv : after.env = some (writeBack content updates) := congrArg Files.env hfiles
  have hwritten : after.config = some config := congrArg Files.config hfiles
  have hsame : after.template = some template := (congrArg Files.template hfiles).trans htemplate
  have hkept : { after with config := some config } = after := by rw [← hwritten]
  rw [main_of_settled henv (settled_write_back hupdates) hsame, resolved_write_back hupdates,
    writeConfig, hwritten, render_config_again hconfig (hreads config hwritten)]
  dsimp only
  rw [hkept]
  exact ensure_mqtt_user_again hcreates hensured

end

/-! ## A first start -/

/-- A .env file with secrets to generate. -/
def freshEnv : String :=
  "Z2M_MQTT_DOMAIN=mqtt\nMQTT_PORT=1883\nZ2M_MQTT_USERNAME=z2m\nZ2M_MQTT_PASSWORD=pw\n" ++
    "Z2M_NETWORK_KEY=GENERATE\nZ2M_PAN_ID=GENERATE\nZ2M_EXT_PAN_ID=GENERATE\n" ++
    "Z2M_COORDINATOR_URL=tcp://zigbee"

/-- The files before the first start. -/
def freshFiles : Files where
  env := some freshEnv
  template := some "pan_id: __Z2M_PAN_ID__"
  config := none
  pwfile := none

/-- A source that draws the PAN id 0x1a62. -/
def firstDraw : RandomSource where
  networkKey := Vector.replicate 16 1
  panId := 0x1a62
  extPanId := Vector.replicate 8 2
  allowed := by decide

/-- The configuration with this PAN id. -/
def panIdConfig : Mapping where
  fields := [("pan_id", .number (.finite 0x1a62))]
  unique := by decide

/-- The documents of a first start, and an npm script that creates its user. -/
@[reducible]
def firstCalls : ScriptCalls where
  load text :=
    if text = "pan_id: 0x1a62" ∨ text = "pan_id: 6754\n" then
      .ok ⟨.object panIdConfig.fields, panIdConfig.unique⟩
    else .error "unknown document"
  dump mapping := if mapping.fields = panIdConfig.fields then "pan_id: 6754\n" else ""
  createMqttUser username _ pwfile :=
    if username = "z2m" then (some "z2m:$7$101$", .ok ())
    else (pwfile, .error "failed to create MQTT user")

/-- The files after the first start, when somebody has deleted the configuration. -/
def withoutConfig : Files :=
  @Files.step firstCalls (@Files.step firstCalls freshFiles (.run firstDraw))
    (.edit freshFiles.template none none)

theorem secrets_generated_once_first :
    ∃ updates, envUpdates (parseEnv freshEnv) firstDraw = .ok updates ∧
      withoutConfig.env = some (writeBack freshEnv updates) ∧
      ∀ other template', withoutConfig.template = some template' →
        @main firstCalls other withoutConfig =
          @writeConfig firstCalls withoutConfig template'
            (resolved (parseEnv freshEnv) updates) := by
  obtain ⟨updates, hupdates⟩ : ∃ updates, envUpdates (parseEnv freshEnv) firstDraw = .ok updates :=
    is_ok_iff_exists.mp (by decide +kernel)
  refine ⟨updates, hupdates, ?_⟩
  exact @secrets_generated_once freshEnv updates firstDraw freshFiles firstCalls withoutConfig rfl
    rfl hupdates (.of_step trivial rfl)

theorem rerun_changes_nothing_first :
    ∃ after, @main firstCalls firstDraw freshFiles = (after, .ok ()) ∧
      ∀ other, @main firstCalls other after = (after, .ok ()) := by
  obtain ⟨hrun, hwritten⟩ : (@main firstCalls firstDraw freshFiles).2 = .ok () ∧
      (@main firstCalls firstDraw freshFiles).1.config = some "pan_id: 6754\n" := by
    decide +kernel
  generalize hmain : @main firstCalls firstDraw freshFiles = outcome at hrun hwritten
  obtain ⟨after, result⟩ := outcome
  subst hrun
  refine ⟨after, rfl, fun other => ?_⟩
  refine @rerun_changes_nothing firstDraw freshFiles after firstCalls hmain ?_ ?_ other
  · rintro config hconfig mapping hdump
    obtain rfl := Option.some.inj (hwritten.symm.trans hconfig)
    have hfields : mapping.fields = panIdConfig.fields := by
      by_contra hother
      rw [show @ScriptCalls.dump firstCalls mapping = "" from if_neg hother] at hdump
      exact absurd hdump (by decide)
    obtain rfl : mapping = panIdConfig := Mapping.ext hfields
    exact if_pos (.inr rfl)
  · intro username password pwfile created hcreated
    change (if username = "z2m" then _ else _) = _ at hcreated
    split at hcreated
    · rename_i huser
      obtain ⟨rfl, -⟩ := Prod.mk.inj hcreated
      rw [huser]
      decide +kernel
    · cases (Prod.mk.inj hcreated).2

end MyHomeHub.GenerateZ2mSecrets
