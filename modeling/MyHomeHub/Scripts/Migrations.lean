import MyHomeHub.JavaScript.Object
import MyHomeHub.Library.Collection
import MyHomeHub.Library.Runs

/-!
# Migrations

The scripts of `migrations` bring stored documents up to the current schemas. They are run by
hand, in any order and any number of times, and a script that throws leaves what it has written
until then. A script that has succeeded is settled for good: after any further scripts it
succeeds again and changes nothing (`migration_settled`).

The order of the fields of a document is not modelled, and neither are indexes on arrays.
-/

namespace MyHomeHub.Migrations

open JavaScript Library

/-! ## The database -/

/-- The fields of a document other than `_id`. -/
abbrev Fields := Object Value

/-- `{ [field]: { $exists: true } }` -/
def exists? (fields : Fields) (field : String) : Bool :=
  (fields.lookup field).isSome

/-- `$set` of one field. -/
def setField (fields : Fields) (field : String) (value : Value) : Fields :=
  fields.insert field value

/-- `$rename` of one field. -/
def renameField (fields : Fields) (field newField : String) : Fields :=
  match fields.lookup field with
  | none => fields
  | some value => (fields.erase field).insert newField value

/-- A stored document. -/
structure StoredDocument where
  id : String
  fields : Fields
  deriving DecidableEq

/-- The documents of a collection, which differ in `_id`. -/
abbrev Documents := KeyedCollection StoredDocument StoredDocument.id

/-- Write the fields of each document. -/
def writeFields (documents : Documents) (write : StoredDocument → Fields) : Documents :=
  documents.mapDocs (fun doc => ⟨doc.id, write doc⟩) fun doc index hindex => by
    rw [List.mem_singleton.mp hindex]

/-- A unique index. A sparse one leaves out the documents without the field. -/
structure UniqueIndex where
  field : String
  sparse : Bool
  deriving DecidableEq

/-- The key of a document in an index. -/
def UniqueIndex.key (index : UniqueIndex) (doc : StoredDocument) : Option Value :=
  match doc.fields.lookup index.field with
  | none => if index.sparse then none else some .null
  | some value => some value

/-- No two documents have the same key. -/
def UniqueIndex.holds (index : UniqueIndex) (documents : Documents) : Bool :=
  (documents.docs.filterMap index.key).Nodup

/-- The collections that the scripts write. -/
structure Database where
  users : Documents
  userIndexes : List UniqueIndex
  scenarios : Documents

/-- What ends a script. -/
inductive ScriptError where
  /-- A write or a new index would give two documents the same key. -/
  | duplicateKey (field : String)
  /-- There is another index on the field. -/
  | indexOptionsConflict (field : String)
  | thrown (message : String)
  deriving DecidableEq

/-- What a script leaves, and the error that has ended it. -/
structure ScriptOutcome where
  database : Database
  error : Option ScriptError

/-- `updateOne({ _id }, { $set: { [field]: value } })` of a user -/
def updateOneUser (database : Database) (id field : String) (value : Value) : ScriptOutcome :=
  let users := writeFields database.users fun doc =>
    if doc.id = id then setField doc.fields field value else doc.fields
  if database.userIndexes.all (·.holds users) then ⟨{ database with users := users }, none⟩
  else ⟨database, some (.duplicateKey field)⟩

/-- The index on a field of the users. -/
def Database.userIndex (database : Database) (field : String) : Option UniqueIndex :=
  database.userIndexes.find? (·.field = field)

/-- `createIndex({ [field]: 1 }, { unique: true, sparse })` of the users. An index that is there is
not created again. -/
def createIndex (database : Database) (field : String) (sparse : Bool) : ScriptOutcome :=
  match database.userIndex field with
  | some index =>
      if index.sparse = sparse then ⟨database, none⟩
      else ⟨database, some (.indexOptionsConflict field)⟩
  | none =>
      if (⟨field, sparse⟩ : UniqueIndex).holds database.users then
        ⟨{ database with userIndexes := database.userIndexes ++ [⟨field, sparse⟩] }, none⟩
      else ⟨database, some (.duplicateKey field)⟩

/-! ## The scripts -/

/-- The text that `uuidv4` fills with digits. -/
def uuidTemplate : List Char :=
  "xxxxxxxx-xxxx-4xxx-yxxx-xxxxxxxxxxxx".toList

/-- The character that the callback of `uuidv4` makes of a place of the template. -/
def filled (r : Fin 16) (c : Char) : Char :=
  if c = 'x' then Nat.digitChar r.val
  else if c = 'y' then Nat.digitChar (r.val &&& 0x3 ||| 0x8)
  else c

/-- `uuidv4`, with the random numbers that it draws for the places of the template. -/
def uuidv4 (draws : Nat → Fin 16) : String :=
  String.ofList (uuidTemplate.mapIdx fun i c => filled (draws i) c)

/-- The loop of `001-users-add-external-id` over the users that it has found. -/
def addExternalIds (draws : String → Nat → Fin 16) (database : Database) :
    List StoredDocument → ScriptOutcome
  | [] => ⟨database, none⟩
  | doc :: docs =>
      match updateOneUser database doc.id "externalId" (.string (uuidv4 (draws doc.id))) with
      | ⟨database, none⟩ => addExternalIds draws database docs
      | outcome => outcome

/-- `001-users-add-external-id` -/
def usersAddExternalId (draws : String → Nat → Fin 16) (database : Database) : ScriptOutcome :=
  match addExternalIds draws database
      (database.users.docs.filter fun doc => !exists? doc.fields "externalId") with
  | ⟨database, none⟩ => createIndex database "externalId" false
  | outcome => outcome

/-- `002-users-add-role` -/
def usersAddRole (database : Database) : ScriptOutcome :=
  let users := writeFields database.users fun doc =>
    if exists? doc.fields "role" then doc.fields
    else setField doc.fields "role" (.string "admin")
  ⟨{ database with users := users }, none⟩

/-- `003-users-add-google-account` -/
def usersAddGoogleAccount (database : Database) : ScriptOutcome :=
  createIndex database "googleIdHash" true

/-- `004-scenarios-rename-devices-to-actions` -/
def scenariosRenameDevicesToActions (database : Database) : ScriptOutcome :=
  let conflicting := database.scenarios.docs.countP fun doc =>
    exists? doc.fields "devices" && exists? doc.fields "actions"
  if 0 < conflicting then
    ⟨database, some (.thrown (toString conflicting ++
      " scenario(s) have both \"devices\" and \"actions\" - resolve them manually before " ++
      "running this migration"))⟩
  else
    let scenarios := writeFields database.scenarios fun doc =>
      if exists? doc.fields "devices" then renameField doc.fields "devices" "actions"
      else doc.fields
    ⟨{ database with scenarios := scenarios }, none⟩

/-- The scripts. -/
inductive Migration where
  | usersAddExternalId
  | usersAddRole
  | usersAddGoogleAccount
  | scenariosRenameDevicesToActions
  deriving DecidableEq, Repr

/-- A run of a script. The random numbers are those that `001` draws for each user. -/
def migrate (database : Database) (draws : String → Nat → Fin 16) : Migration → ScriptOutcome
  | .usersAddExternalId => usersAddExternalId draws database
  | .usersAddRole => usersAddRole database
  | .usersAddGoogleAccount => usersAddGoogleAccount database
  | .scenariosRenameDevicesToActions => scenariosRenameDevicesToActions database

/-- A script is run, with success or without. -/
def MigrationStep (database : Database) (migration : Migration) (database' : Database) : Prop :=
  ∃ draws, (migrate database draws migration).database = database'

/-! ## New external ids -/

/-- The characters that a UUID of version 4 has at a place of the template: a digit, one of four
digits, or the character of the template. -/
def fits (c place : Char) : Bool :=
  if place = 'x' then "0123456789abcdef".toList.contains c
  else if place = 'y' then "89ab".toList.contains c
  else c = place

/-- A text that `ParseUUIDPipe` accepts as a UUID of version 4, in lower case. -/
def IsUuidV4 (text : String) : Prop :=
  List.Forall₂ (fun c place => fits c place = true) text.toList uuidTemplate

theorem fits_filled (r : Fin 16) (place : Char) : fits (filled r place) place = true := by
  have hx : ∀ r : Fin 16, fits (Nat.digitChar r.val) 'x' = true := by
    decide
  have hy : ∀ r : Fin 16, fits (Nat.digitChar (r.val &&& 0x3 ||| 0x8)) 'y' = true := by
    decide
  unfold filled
  split_ifs with hplace hplace'
  · rw [hplace]
    exact hx r
  · rw [hplace']
    exact hy r
  · simp [fits, hplace, hplace']

/-- Whatever is drawn, `uuidv4` makes a UUID of version 4. -/
theorem uuidv4_is_uuid (draws : Nat → Fin 16) : IsUuidV4 (uuidv4 draws) := by
  unfold IsUuidV4 uuidv4
  rw [String.toList_ofList, List.forall₂_iff_get]
  refine ⟨List.length_mapIdx, fun i hi hplace => ?_⟩
  rw [List.get_eq_getElem, List.get_eq_getElem, List.getElem_mapIdx]
  exact fits_filled (draws i) _

/-! ## What a script keeps -/

/-- The fields of a user after some scripts: none has changed, and what is new is an external id or
the role of an admin. -/
structure UserKept (fields fields' : Fields) : Prop where
  kept : ∀ field value, fields.lookup field = some value → fields'.lookup field = some value
  added : ∀ field value, fields.lookup field = none → fields'.lookup field = some value →
    field = "externalId" ∧ (∃ text, value = .string text ∧ IsUuidV4 text) ∨
      field = "role" ∧ value = .string "admin"

/-- The fields of a scenario after some scripts: the others have not changed, and either these two
have not, or what was called `devices` is called `actions`. -/
structure ScenarioKept (fields fields' : Fields) : Prop where
  kept : ∀ field, field ≠ "devices" → field ≠ "actions" →
    fields'.lookup field = fields.lookup field
  renamed : fields'.lookup "devices" = fields.lookup "devices" ∧
      fields'.lookup "actions" = fields.lookup "actions" ∨
    fields.lookup "actions" = none ∧ fields'.lookup "devices" = none ∧
      fields'.lookup "actions" = fields.lookup "devices"

/-- The same documents in the same order, with fields that are related. -/
def DocumentsKept (R : Fields → Fields → Prop) (documents documents' : Documents) : Prop :=
  List.Forall₂ (fun doc doc' => doc'.id = doc.id ∧ R doc.fields doc'.fields)
    documents.docs documents'.docs

/-- What scripts keep of a database. -/
structure DatabaseKept (database database' : Database) : Prop where
  users : DocumentsKept UserKept database.users database'.users
  userIndex : ∀ field index, database.userIndex field = some index →
    database'.userIndex field = some index
  scenarios : DocumentsKept ScenarioKept database.scenarios database'.scenarios

variable {database database' : Database} {fields fields' fields'' : Fields}
  {draws : String → Nat → Fin 16} {migration : Migration}

theorem UserKept.refl (fields : Fields) : UserKept fields fields where
  kept _ _ h := h
  added _ _ hnone hsome := nomatch hnone.symm.trans hsome

theorem UserKept.trans (h : UserKept fields fields') (hnext : UserKept fields' fields'') :
    UserKept fields fields'' := by
  refine ⟨fun field value hvalue => hnext.kept field value (h.kept field value hvalue),
    fun field value hnone hvalue => ?_⟩
  cases hmiddle : fields'.lookup field with
  | none => exact hnext.added field value hmiddle hvalue
  | some found =>
      obtain rfl : found = value :=
        Option.some.inj ((hnext.kept field found hmiddle).symm.trans hvalue)
      exact h.added field found hnone hmiddle

theorem ScenarioKept.refl (fields : Fields) : ScenarioKept fields fields :=
  ⟨fun _ _ _ => rfl, .inl ⟨rfl, rfl⟩⟩

theorem ScenarioKept.trans (h : ScenarioKept fields fields')
    (hnext : ScenarioKept fields' fields'') : ScenarioKept fields fields'' := by
  refine ⟨fun field hdevices hactions =>
    (hnext.kept field hdevices hactions).trans (h.kept field hdevices hactions), ?_⟩
  rcases h.renamed with ⟨hdevices, hactions⟩ | ⟨hnone, hdevices, hactions⟩
  · rcases hnext.renamed with ⟨hdevices', hactions'⟩ | ⟨hnone', hdevices', hactions'⟩
    · exact .inl ⟨hdevices'.trans hdevices, hactions'.trans hactions⟩
    · exact .inr ⟨hactions.symm.trans hnone', hdevices', hactions'.trans hdevices⟩
  · rcases hnext.renamed with ⟨hdevices', hactions'⟩ | ⟨hnone', hdevices', hactions'⟩
    · exact .inr ⟨hnone, hdevices'.trans hdevices, hactions'.trans hactions⟩
    · -- there was nothing left to rename
      refine .inr ⟨hnone, hdevices', ?_⟩
      rw [hactions', hdevices, ← hactions, hnone']

theorem DocumentsKept.refl {R : Fields → Fields → Prop} (h : ∀ fields, R fields fields)
    (documents : Documents) : DocumentsKept R documents documents :=
  List.forall₂_same.mpr fun doc _ => ⟨rfl, h doc.fields⟩

theorem DocumentsKept.trans {R : Fields → Fields → Prop}
    (hR : ∀ a b c, R a b → R b c → R a c) {documents documents' documents'' : Documents}
    (h : DocumentsKept R documents documents') (hnext : DocumentsKept R documents' documents'') :
    DocumentsKept R documents documents'' := by
  unfold DocumentsKept at h hnext ⊢
  generalize documents.docs = first, documents'.docs = middle, documents''.docs = last at h hnext
  induction h generalizing last with
  | nil => exact hnext
  | cons hhead _ ih =>
      cases hnext with
      | cons hhead' htail' =>
          exact .cons ⟨hhead'.1.trans hhead.1, hR _ _ _ hhead.2 hhead'.2⟩ (ih _ htail')

theorem mem_write_fields {documents : Documents} {write : StoredDocument → Fields}
    {doc : StoredDocument} :
    doc ∈ writeFields documents write ↔ ∃ old ∈ documents, ⟨old.id, write old⟩ = doc :=
  List.mem_map

/-- Writing the fields of each document keeps the documents if each write does. -/
theorem documents_kept_of_write {R : Fields → Fields → Prop} {documents : Documents}
    {write : StoredDocument → Fields} (h : ∀ doc ∈ documents, R doc.fields (write doc)) :
    DocumentsKept R documents (writeFields documents write) :=
  List.forall₂_map_right_iff.mpr (List.forall₂_same.mpr fun doc hdoc => ⟨rfl, h doc hdoc⟩)

theorem DatabaseKept.refl (database : Database) : DatabaseKept database database :=
  ⟨.refl .refl _, fun _ _ => id, .refl .refl _⟩

theorem DatabaseKept.trans {database'' : Database} (h : DatabaseKept database database')
    (hnext : DatabaseKept database' database'') : DatabaseKept database database'' where
  users := h.users.trans @UserKept.trans hnext.users
  userIndex field index hindex := hnext.userIndex field index (h.userIndex field index hindex)
  scenarios := h.scenarios.trans @ScenarioKept.trans hnext.scenarios

theorem lookup_set_field {field other : String} {value : Value} :
    (setField fields field value).lookup other =
      if other = field then some value else fields.lookup other := by
  unfold setField
  split_ifs with hother
  · rw [hother, AList.lookup_insert]
  · rw [AList.lookup_insert_ne hother]

/-- Setting a field that was missing keeps a user, if the scripts may set it. -/
theorem user_kept_set {field : String} {value : Value} (hnone : fields.lookup field = none)
    (hadded : field = "externalId" ∧ (∃ text, value = .string text ∧ IsUuidV4 text) ∨
      field = "role" ∧ value = .string "admin") :
    UserKept fields (setField fields field value) := by
  refine ⟨fun other found hfound => ?_, fun other found hother hfound => ?_⟩
  · rw [lookup_set_field, if_neg]
    · exact hfound
    · rintro rfl
      cases hnone.symm.trans hfound
  · rw [lookup_set_field] at hfound
    split_ifs at hfound with hsame
    · rw [hsame, ← Option.some.inj hfound]
      exact hadded
    · cases hother.symm.trans hfound

theorem exists_false_iff {field : String} :
    exists? fields field = false ↔ fields.lookup field = none := by
  rw [exists?, Option.isSome_eq_false_iff, Option.isNone_iff_eq_none]

theorem lookup_rename_field {value : Value} (hvalue : fields.lookup "devices" = some value)
    (field : String) : (renameField fields "devices" "actions").lookup field =
      if field = "actions" then some value
      else if field = "devices" then none else fields.lookup field := by
  rw [renameField, hvalue]
  dsimp only
  split_ifs with hactions hdevices
  · rw [hactions, AList.lookup_insert]
  · rw [hdevices, AList.lookup_insert_ne (by decide), AList.lookup_erase]
  · rw [AList.lookup_insert_ne hactions, AList.lookup_erase_ne hdevices]

/-- Renaming the devices of a scenario that has no actions keeps it. -/
theorem scenario_kept_rename {value : Value} (hvalue : fields.lookup "devices" = some value)
    (hactions : fields.lookup "actions" = none) :
    ScenarioKept fields (renameField fields "devices" "actions") := by
  have hrenamed := lookup_rename_field hvalue
  refine ⟨fun field hdevices' hactions' => ?_, .inr ⟨hactions, ?_, ?_⟩⟩
  · rw [hrenamed, if_neg hactions', if_neg hdevices']
  · rw [hrenamed, if_neg (by decide), if_pos rfl]
  · rw [hrenamed, if_pos rfl, hvalue]

/-! ## Indexes -/

theorem create_index_kept (field : String) (sparse : Bool) :
    DatabaseKept database (createIndex database field sparse).database := by
  unfold createIndex
  split
  · split
    · exact .refl database
    · exact .refl database
  · split
    · refine ⟨.refl .refl _, fun other index hindex => ?_, .refl .refl _⟩
      show (database.userIndexes ++ _).find? _ = some index
      rw [List.find?_append]
      exact Option.or_eq_some_iff.mpr (.inl hindex)
    · exact .refl database

/-- An index that was created without an error is there, and the users are as they were. -/
theorem create_index_ok {field : String} {sparse : Bool}
    (h : createIndex database field sparse = ⟨database', none⟩) :
    database'.userIndex field = some ⟨field, sparse⟩ ∧ database'.users = database.users := by
  unfold createIndex at h
  split at h
  · rename_i index hindex
    split at h
    · rename_i hsparse
      cases h
      have hfield := List.find?_some hindex
      rw [decide_eq_true_eq] at hfield
      refine ⟨?_, rfl⟩
      rw [hindex, ← hfield, ← hsparse]
    · cases h
  · rename_i hnone
    split at h
    · cases h
      refine ⟨?_, rfl⟩
      show (database.userIndexes ++ _).find? _ = _
      rw [List.find?_append, show database.userIndexes.find? _ = none from hnone]
      simp
    · cases h

/-- An index that is there is not created again. -/
theorem create_index_again {field : String} {sparse : Bool}
    (h : database.userIndex field = some ⟨field, sparse⟩) :
    createIndex database field sparse = ⟨database, none⟩ := by
  rw [createIndex, h]
  exact if_pos rfl

/-! ## Each script -/

/-- The external id of a user who has none can be set. -/
theorem update_one_user_kept {doc : StoredDocument} {draw : Nat → Fin 16}
    (hdoc : doc ∈ database.users) (hnone : doc.fields.lookup "externalId" = none) :
    DatabaseKept database
      (updateOneUser database doc.id "externalId" (.string (uuidv4 draw))).database := by
  unfold updateOneUser
  dsimp only
  split
  · refine ⟨documents_kept_of_write fun other hother => ?_, fun _ _ => id, .refl .refl _⟩
    split_ifs with hid
    · -- no other document has the `_id`
      obtain rfl : other = doc := Collection.eq_of_key (List.mem_singleton_self _) hother hdoc
        (congrArg some hid) rfl
      exact user_kept_set hnone (.inl ⟨rfl, _, rfl, uuidv4_is_uuid draw⟩)
    · exact .refl _
  · exact .refl database

/-- An update of a user that succeeds leaves the other users. -/
theorem mem_of_update_one_user {doc other : StoredDocument} {value : Value}
    (h : updateOneUser database doc.id "externalId" value = ⟨database', none⟩)
    (hother : other ∈ database.users) (hid : other.id ≠ doc.id) : other ∈ database'.users := by
  unfold updateOneUser at h
  dsimp only at h
  split at h
  · cases h
    refine mem_write_fields.mpr ⟨other, hother, ?_⟩
    rw [if_neg hid]
  · cases h

theorem add_external_ids_kept {docs : List StoredDocument} (hnodup : (docs.map (·.id)).Nodup)
    (hdocs : ∀ doc ∈ docs, doc ∈ database.users ∧ doc.fields.lookup "externalId" = none) :
    DatabaseKept database (addExternalIds draws database docs).database := by
  induction docs generalizing database with
  | nil => exact .refl database
  | cons doc docs ih =>
      rw [List.map_cons, List.nodup_cons] at hnodup
      obtain ⟨hdoc, hnone⟩ := hdocs doc List.mem_cons_self
      have hkept := @update_one_user_kept database doc (draws doc.id) hdoc hnone
      rw [addExternalIds]
      split
      · rename_i middle hmiddle
        rw [hmiddle] at hkept
        refine hkept.trans (ih hnodup.2 fun other hother => ?_)
        obtain ⟨hmem, hnone'⟩ := hdocs other (List.mem_cons_of_mem _ hother)
        refine ⟨mem_of_update_one_user hmiddle hmem fun hid => ?_, hnone'⟩
        exact hnodup.1 (hid ▸ List.mem_map_of_mem hother)
      · exact hkept

/-- A loop without an error has given an external id to each user that it was to give one. -/
theorem add_external_ids_ok {docs : List StoredDocument}
    (h : addExternalIds draws database docs = ⟨database', none⟩)
    (hdocs : ∀ doc ∈ database.users, exists? doc.fields "externalId" = true ∨ doc ∈ docs) :
    ∀ doc ∈ database'.users, exists? doc.fields "externalId" = true := by
  induction docs generalizing database with
  | nil =>
      cases h
      exact fun doc hdoc => (hdocs doc hdoc).resolve_right nofun
  | cons first docs ih =>
      rw [addExternalIds] at h
      split at h
      · rename_i middle hmiddle
        refine ih h fun doc hdoc => ?_
        unfold updateOneUser at hmiddle
        dsimp only at hmiddle
        split at hmiddle
        · cases hmiddle
          obtain ⟨old, hold, rfl⟩ := mem_write_fields.mp hdoc
          dsimp only
          split_ifs with hid
          · refine .inl ?_
            rw [exists?, lookup_set_field, if_pos rfl]
            rfl
          · rcases hdocs old hold with hset | hmem
            · exact .inl hset
            · refine .inr ((List.mem_cons.mp hmem).resolve_left fun hsame => hid ?_)
              rw [hsame]
        · cases hmiddle
      · rename_i outcome hfailed
        exact (hfailed _ h).elim

/-- The `_id`s of documents differ. -/
theorem ids_nodup (documents : Documents) : (documents.docs.map (·.id)).Nodup := by
  refine List.Nodup.map_on (fun doc hdoc other hother hid => ?_) ?_
  · exact Collection.eq_of_key (List.mem_singleton_self _) hdoc hother (congrArg some hid) rfl
  · refine Collection.nodup_of_key (List.mem_singleton_self _) fun doc hnone => ?_
    cases hnone

theorem write_fields_same {documents : Documents} {write : StoredDocument → Fields}
    (h : ∀ doc ∈ documents, write doc = doc.fields) : writeFields documents write = documents := by
  have hdocs : documents.docs.map (fun doc => (⟨doc.id, write doc⟩ : StoredDocument)) =
      documents.docs :=
    (List.map_congr_left (g := id) fun doc hdoc => by rw [h doc hdoc]; rfl).trans (List.map_id _)
  obtain ⟨docs, unique⟩ := documents
  unfold writeFields Collection.mapDocs
  congr 1

/-- Every script keeps what the database holds, whether or not it succeeds. -/
theorem migrate_kept : DatabaseKept database (migrate database draws migration).database := by
  cases migration with
  | usersAddExternalId =>
      have hids := ids_nodup database.users
      have hkept : DatabaseKept database (addExternalIds draws database
          (database.users.docs.filter fun doc => !exists? doc.fields "externalId")).database := by
        refine add_external_ids_kept (hids.sublist (List.filter_sublist.map _)) fun doc hdoc => ?_
        obtain ⟨hmem, hnone⟩ := List.mem_filter.mp hdoc
        exact ⟨hmem, exists_false_iff.mp (by simpa using hnone)⟩
      rw [migrate, usersAddExternalId]
      split
      · rename_i middle hmiddle
        rw [hmiddle] at hkept
        exact hkept.trans (create_index_kept _ _)
      · exact hkept
  | usersAddRole =>
      refine ⟨documents_kept_of_write fun doc hdoc => ?_, fun _ _ => id, .refl .refl _⟩
      split_ifs with hrole
      · exact .refl _
      · exact user_kept_set (exists_false_iff.mp (Bool.eq_false_iff.mpr hrole)) (.inr ⟨rfl, rfl⟩)
  | usersAddGoogleAccount => exact create_index_kept _ _
  | scenariosRenameDevicesToActions =>
      rw [migrate, scenariosRenameDevicesToActions]
      dsimp only
      split
      · exact .refl database
      · rename_i hconflicting
        refine ⟨.refl .refl _, fun _ _ => id, documents_kept_of_write fun doc hdoc => ?_⟩
        split_ifs with hdevices
        · obtain ⟨value, hvalue⟩ := Option.isSome_iff_exists.mp hdevices
          refine scenario_kept_rename hvalue (exists_false_iff.mp (Bool.eq_false_iff.mpr ?_))
          intro hactions
          refine hconflicting (List.countP_pos_iff.mpr ⟨doc, hdoc, ?_⟩)
          rw [hdevices, hactions]
          rfl
        · exact .refl _

/-! ## Settled scripts -/

/-- What a script was for is true of the database. -/
def IsSettled (database : Database) : Migration → Prop
  | .usersAddExternalId => (∀ doc ∈ database.users, exists? doc.fields "externalId" = true) ∧
      database.userIndex "externalId" = some ⟨"externalId", false⟩
  | .usersAddRole => ∀ doc ∈ database.users, exists? doc.fields "role" = true
  | .usersAddGoogleAccount => database.userIndex "googleIdHash" = some ⟨"googleIdHash", true⟩
  | .scenariosRenameDevicesToActions =>
      ∀ doc ∈ database.scenarios, exists? doc.fields "devices" = false

/-- A script that succeeds settles what it is for. -/
theorem settled_of_ok (h : migrate database draws migration = ⟨database', none⟩) :
    IsSettled database' migration := by
  cases migration with
  | usersAddExternalId =>
      rw [migrate, usersAddExternalId] at h
      split at h
      · rename_i middle hmiddle
        obtain ⟨hindex, husers⟩ := create_index_ok h
        refine ⟨?_, hindex⟩
        rw [husers]
        refine add_external_ids_ok hmiddle fun doc hdoc => ?_
        cases hset : exists? doc.fields "externalId" with
        | true => exact .inl rfl
        | false => exact .inr (List.mem_filter.mpr ⟨hdoc, by rw [hset]; rfl⟩)
      · rename_i hfailed
        exact (hfailed _ h).elim
  | usersAddRole =>
      cases h
      intro doc hdoc
      obtain ⟨old, hold, rfl⟩ := mem_write_fields.mp hdoc
      dsimp only
      split_ifs with hrole
      · exact hrole
      · rw [exists?, lookup_set_field, if_pos rfl]
        rfl
  | usersAddGoogleAccount => exact (create_index_ok h).1
  | scenariosRenameDevicesToActions =>
      rw [migrate, scenariosRenameDevicesToActions] at h
      dsimp only at h
      split at h
      · cases h
      · cases h
        intro doc hdoc
        obtain ⟨old, hold, rfl⟩ := mem_write_fields.mp hdoc
        dsimp only
        split_ifs with hdevices
        · obtain ⟨value, hvalue⟩ := Option.isSome_iff_exists.mp hdevices
          rw [exists_false_iff, lookup_rename_field hvalue, if_neg (by decide), if_pos rfl]
        · exact Bool.eq_false_iff.mpr hdevices

/-- A settled script succeeds and changes nothing. -/
theorem migrate_settled (h : IsSettled database migration) :
    migrate database draws migration = ⟨database, none⟩ := by
  cases migration with
  | usersAddExternalId =>
      obtain ⟨hset, hindex⟩ := h
      have hnone : database.users.docs.filter (fun doc => !exists? doc.fields "externalId") = [] :=
        List.filter_eq_nil_iff.mpr fun doc hdoc => by
          rw [hset doc hdoc]
          exact Bool.false_ne_true
      rw [migrate, usersAddExternalId, hnone, addExternalIds]
      exact create_index_again hindex
  | usersAddRole =>
      have hsame := @write_fields_same database.users (fun doc =>
        if exists? doc.fields "role" then doc.fields
        else setField doc.fields "role" (.string "admin")) fun doc hdoc => if_pos (h doc hdoc)
      rw [migrate, usersAddRole, hsame]
  | usersAddGoogleAccount => exact create_index_again h
  | scenariosRenameDevicesToActions =>
      have hsame := @write_fields_same database.scenarios (fun doc =>
        if exists? doc.fields "devices" then renameField doc.fields "devices" "actions"
        else doc.fields) fun doc hdoc => if_neg (Bool.eq_false_iff.mp (h doc hdoc))
      have hnone : database.scenarios.docs.countP (fun doc =>
          exists? doc.fields "devices" && exists? doc.fields "actions") = 0 :=
        List.countP_eq_zero.mpr fun doc hdoc => by
          rw [h doc hdoc, Bool.false_and]
          exact Bool.false_ne_true
      rw [migrate, scenariosRenameDevicesToActions]
      dsimp only
      rw [hnone, if_neg (Nat.lt_irrefl 0), hsame]

/-! ## Runs -/

theorem DocumentsKept.forall {R : Fields → Fields → Prop} {p : Fields → Prop}
    {documents documents' : Documents} (h : DocumentsKept R documents documents')
    (hR : ∀ fields fields', R fields fields' → p fields → p fields')
    (hall : ∀ doc ∈ documents, p doc.fields) : ∀ doc ∈ documents', p doc.fields := by
  have hdocs : ∀ doc ∈ documents.docs, p doc.fields := hall
  show ∀ doc ∈ documents'.docs, p doc.fields
  unfold DocumentsKept at h
  generalize documents.docs = docs, documents'.docs = docs' at h hdocs
  induction h with
  | nil => exact hdocs
  | cons hhead _ ih =>
      rw [List.forall_mem_cons] at hdocs ⊢
      exact ⟨hR _ _ hhead.2 hdocs.1, ih hdocs.2⟩

/-- Users keep the fields that they have. -/
theorem UserKept.exists (h : UserKept fields fields') {field : String}
    (hset : exists? fields field = true) : exists? fields' field = true := by
  obtain ⟨value, hvalue⟩ := Option.isSome_iff_exists.mp hset
  rw [exists?, h.kept field value hvalue]
  rfl

/-- Scenarios do not get devices. -/
theorem ScenarioKept.no_devices (h : ScenarioKept fields fields')
    (hnone : exists? fields "devices" = false) : exists? fields' "devices" = false := by
  rw [exists_false_iff] at hnone ⊢
  rcases h.renamed with ⟨hdevices, -⟩ | ⟨-, hdevices, -⟩
  · exact hdevices.trans hnone
  · exact hdevices

/-- A script stays settled. -/
theorem IsSettled.kept (h : IsSettled database migration)
    (hkept : DatabaseKept database database') : IsSettled database' migration := by
  cases migration with
  | usersAddExternalId =>
      exact ⟨hkept.users.forall (fun _ _ huser => huser.exists) h.1, hkept.userIndex _ _ h.2⟩
  | usersAddRole => exact hkept.users.forall (fun _ _ huser => huser.exists) h
  | usersAddGoogleAccount => exact hkept.userIndex _ _ h
  | scenariosRenameDevicesToActions =>
      exact hkept.scenarios.forall (fun _ _ hscenario => hscenario.no_devices) h

/-- Whatever scripts are run, in any order and with or without success, users and scenarios keep
what they hold. -/
theorem kept_of_run (hrun : Reaches MigrationStep anyAction database database') :
    DatabaseKept database database' := by
  refine hrun.invariant (.refl database) fun before migration after hbefore _ hstep => ?_
  obtain ⟨draws, rfl⟩ := hstep
  exact hbefore.trans migrate_kept

/-- A script that has succeeded once is done: whatever scripts are run after it, in any order and
with or without success, it succeeds again and changes nothing, and no user has lost a field, no
scenario anything but the name of one. -/
theorem migration_settled (h : migrate database draws migration = ⟨database', none⟩)
    {later : Database} (hlater : Reaches MigrationStep anyAction database' later)
    (draws' : String → Nat → Fin 16) :
    migrate later draws' migration = ⟨later, none⟩ ∧ IsSettled later migration ∧
      DatabaseKept database later := by
  have hkept := kept_of_run hlater
  have hfirst : DatabaseKept database (migrate database draws migration).database := migrate_kept
  rw [h] at hfirst
  have hsettled := (settled_of_ok h).kept hkept
  exact ⟨migrate_settled hsettled, hsettled, hfirst.trans hkept⟩

/-- A user without an external id and a role, and a scenario with devices. -/
def firstDatabase : Database where
  users := ⟨[⟨"66b1", AList.singleton "email" (.string "owner@example.com")⟩],
    List.pairwise_singleton _ _⟩
  userIndexes := []
  scenarios := ⟨[⟨"66c2", AList.singleton "devices" (.array [])⟩], List.pairwise_singleton _ _⟩

/-- The database after a script. -/
def afterScript (database : Database) (migration : Migration) : Database :=
  (migrate database (fun _ _ => 7) migration).database

theorem migration_settled_first :
    let later := afterScript (afterScript firstDatabase .usersAddExternalId)
      .scenariosRenameDevicesToActions
    migrate later (fun _ _ => 11) .usersAddExternalId = ⟨later, none⟩ := by
  refine (@migration_settled firstDatabase (afterScript firstDatabase .usersAddExternalId)
    (fun _ _ => 7) .usersAddExternalId ?_ _ ?_ _).1
  · have herror : (migrate firstDatabase (fun _ _ => 7) .usersAddExternalId).error = none := by
      decide +kernel
    rw [afterScript, ← herror]
  · exact .of_step trivial ⟨_, rfl⟩

end MyHomeHub.Migrations
