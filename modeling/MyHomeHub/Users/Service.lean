import MyHomeHub.Common.Errors
import MyHomeHub.Library.Collection
import MyHomeHub.Users.Interfaces

/-!
# The users service

`users.service` and the schema of a user. Every write of a loaded user is a read by the
external id followed by a save of the fields that changed, so the two halves are separate
functions: between them another call may write the same user.
-/

namespace MyHomeHub.UsersService

open JavaScript Library

/-! ## The collection -/

/-- The index on `externalId`. -/
def externalIdKey (user : User) : Option String :=
  some user.externalId

/-- The index on `email`. -/
def emailKey (user : User) : Option String :=
  some user.email

/-- The sparse index on `googleIdHash`. -/
def googleIdHashKey (user : User) : Option String :=
  user.googleIdHash

/-- The unique indexes of users. -/
def userIndexes : List (User → Option String) :=
  [externalIdKey, emailKey, googleIdHashKey]

/-- The stored users. -/
abbrev UserStore := Collection User String userIndexes

/-- Whether a user has a password or a linked Google account, as the schema requires. -/
def hasCredential (user : User) : Bool :=
  isSet user.googleIdHash || isSet user.password

/-- The paths of the fields of a new user that break a rule of the schema. -/
def invalidPaths (user : User) : List String :=
  (if user.email = "" then ["email"] else []) ++
  (if hasCredential user then [] else ["password"]) ++
  (if user.role.isSome then [] else ["role"])

/-- `save` of a new user. -/
def saveNew (users : UserStore) (user : User) : Except AccountError (UserStore × User) :=
  match invalidPaths user with
  | [] =>
      match users.insert? user with
      | some users => .ok (users, user)
      | none => .error .duplicateKey
  | paths => .error (.documentValidation paths)

/-- The stored user after a save: only the modified fields are written. -/
def writeModified (loaded user stored : User) : User where
  externalId := stored.externalId
  email := writtenField loaded.email user.email stored.email
  password := writtenField loaded.password user.password stored.password
  role := writtenField loaded.role user.role stored.role
  googleIdHash := writtenField loaded.googleIdHash user.googleIdHash stored.googleIdHash
  googleEmail := writtenField loaded.googleEmail user.googleEmail stored.googleEmail

/-- Whether a save checks the password: it is missing or it was modified. -/
def checksPassword (loaded user : User) : Bool :=
  loaded.password.isNone || user.password ≠ loaded.password

/-- `save` of a loaded user. -/
def save (users : UserStore) (loaded user : User) : Except AccountError (UserStore × User) :=
  if checksPassword loaded user && !hasCredential user then
    .error (.documentValidation ["password"])
  else
    match users.updateFirst (fun stored => externalIdKey stored = some loaded.externalId)
        (writeModified loaded user) with
    | .ok users => .ok (users, user)
    | .error .noDocument => .error .documentNotFound
    | .error .duplicateKey => .error .duplicateKey

/-! ## Lookups -/

/-- `findByExternalId` that is not strict. -/
def findByExternalId (users : UserStore) (externalId : String) : Option User :=
  users.docs.find? fun user => externalIdKey user = some externalId

/-- `findByExternalId` -/
def findStrict (users : UserStore) (externalId : String) : Except AccountError User :=
  match findByExternalId users externalId with
  | some user => .ok user
  | none => .error (.notFound "There is no user matching these criteria")

/-- `findByGoogleIdHash` -/
def findByGoogleIdHash (users : UserStore) (googleIdHash : String) : Option User :=
  users.docs.find? fun user => googleIdHashKey user = some (trim googleIdHash)

/-- The user of `updatePassword` before it is saved. -/
def withPassword (user : User) (passwordHash : String) : User :=
  { user with password := some (trim passwordHash) }

/-- `updatePassword` -/
def updatePassword (users : UserStore) (externalId passwordHash : String) :
    Except AccountError (UserStore × User) := do
  let user ← findStrict users externalId
  save users user (withPassword user passwordHash)

/-- The user of `unlinkGoogleAccount` before it is saved. -/
def unlinked (user : User) : User :=
  { user with googleIdHash := none, googleEmail := none }

/-- `unlinkGoogleAccount` -/
def unlinkGoogleAccount (users : UserStore) (externalId : String) :
    Except AccountError (UserStore × User) := do
  let user ← findStrict users externalId
  save users user (unlinked user)

variable [LetterCase]

/-- `findByEmail` -/
def findByEmail (users : UserStore) (email : String) : Option User :=
  users.docs.find? fun user => emailKey user = some (castEmail email)

/-- `new this.userModel(data)`. The schema generates the external id. -/
def newUser (externalId : String) (data : CreateUserData) : User where
  externalId := externalId
  email := castEmail data.email
  password := data.password.map trim
  role := data.role
  googleIdHash := data.googleIdHash.map trim
  googleEmail := data.googleEmail.map castEmail

/-- `create` -/
def create (users : UserStore) (externalId : String) (data : CreateUserData) :
    Except AccountError (UserStore × User) :=
  match findByEmail users data.email with
  | some _ => .error (.fieldValidation "User with the provided email already exists" "email")
  | none => saveNew users (newUser externalId data)

/-- The user of `linkGoogleAccount` before it is saved. -/
def linked (user : User) (profile : GoogleProfile) : User :=
  { user with
    googleIdHash := some (trim profile.googleIdHash)
    googleEmail := some (castEmail profile.email) }

/-- `linkGoogleAccount` -/
def linkGoogleAccount (users : UserStore) (externalId : String) (profile : GoogleProfile) :
    Except AccountError (UserStore × User) := do
  let user ← findStrict users externalId
  save users user (linked user profile)

/-! ## What a save does -/

section

variable {users users' : UserStore} {loaded user saved stored : User} {externalId : String}

omit [LetterCase] in
theorem external_id_key_mem : externalIdKey ∈ userIndexes :=
  List.mem_cons_self

omit [LetterCase] in
theorem google_id_hash_key_mem : googleIdHashKey ∈ userIndexes :=
  List.mem_cons_of_mem _ (List.mem_cons_of_mem _ List.mem_cons_self)

omit [LetterCase] in
theorem find_by_external_id_iff :
    findByExternalId users externalId = some user ↔
      user ∈ users ∧ user.externalId = externalId := by
  rw [findByExternalId, Collection.find_iff external_id_key_mem, externalIdKey, Option.some.injEq]

omit [LetterCase] in
theorem find_strict_ok (h : findStrict users externalId = .ok user) :
    user ∈ users ∧ user.externalId = externalId := by
  unfold findStrict at h
  split at h
  · rename_i found hfound
    cases h
    exact find_by_external_id_iff.mp hfound
  · cases h

omit [LetterCase] in
theorem eq_of_external_id (h : user ∈ users) (hstored : stored ∈ users)
    (hid : user.externalId = stored.externalId) : user = stored :=
  Collection.eq_of_key external_id_key_mem h hstored (congrArg some hid) rfl

omit [LetterCase] in
/-- A save writes what was modified over the stored user, and the others are unchanged. -/
theorem save_ok (h : save users loaded user = .ok (users', saved)) :
    ¬ (checksPassword loaded user = true ∧ hasCredential user = false) ∧
      ∃ stored ∈ users, stored.externalId = loaded.externalId ∧
        ∀ other, other ∈ users' ↔ other = writeModified loaded user stored ∨
          (other ∈ users ∧ other.externalId ≠ loaded.externalId) := by
  unfold save at h
  split at h
  · cases h
  · rename_i hchecked
    rw [Bool.and_eq_true, Bool.not_eq_true'] at hchecked
    split at h
    · rename_i updated hupdate
      cases h
      obtain ⟨stored, hstored, hkey, hmem⟩ :=
        Collection.mem_of_update_first external_id_key_mem hupdate
      refine ⟨hchecked, stored, hstored, Option.some.inj hkey, fun other => ?_⟩
      rw [hmem other, externalIdKey, ne_eq, Option.some.injEq]
    · cases h
    · cases h

omit [LetterCase] in
/-- A new user is stored beside the others under a new external id, and follows the rules. -/
theorem save_new_ok (h : saveNew users user = .ok (users', saved)) :
    invalidPaths user = [] ∧ (∀ other ∈ users, other.externalId ≠ user.externalId) ∧
      ∀ other, other ∈ users' ↔ other ∈ users ∨ other = user := by
  unfold saveNew at h
  split at h
  · rename_i hpaths
    split at h
    · rename_i inserted hinsert
      cases h
      refine ⟨hpaths, fun other hother hid => ?_, fun other => Collection.mem_of_insert hinsert⟩
      rcases Collection.keys_differ_of_insert hinsert hother externalIdKey external_id_key_mem with
        hnone | hne
      · cases hnone
      · exact hne (congrArg some hid)
    · cases h
  · cases h

omit [LetterCase] in
theorem has_credential_of_valid (h : invalidPaths user = []) : hasCredential user = true := by
  by_contra hnone
  rw [invalidPaths, if_neg hnone, List.append_eq_nil_iff, List.append_eq_nil_iff] at h
  exact List.cons_ne_nil _ _ h.1.2

omit [LetterCase] in
/-- Saving a password writes the password only. -/
theorem write_password (passwordHash : String) :
    writeModified loaded (withPassword loaded passwordHash) stored =
      { stored with
        password := writtenField loaded.password (some (trim passwordHash)) stored.password } := by
  simp only [writeModified, withPassword, written_field_unmodified]

omit [LetterCase] in
/-- Unlinking writes the Google account only. -/
theorem write_unlinked :
    writeModified loaded (unlinked loaded) stored =
      { stored with
        googleIdHash := writtenField loaded.googleIdHash none stored.googleIdHash
        googleEmail := writtenField loaded.googleEmail none stored.googleEmail } := by
  simp only [writeModified, unlinked, written_field_unmodified]

/-- Linking writes the Google account only. -/
theorem write_linked (profile : GoogleProfile) :
    writeModified loaded (linked loaded profile) stored =
      { stored with
        googleIdHash := writtenField loaded.googleIdHash (some (trim profile.googleIdHash))
          stored.googleIdHash
        googleEmail := writtenField loaded.googleEmail (some (castEmail profile.email))
          stored.googleEmail } := by
  simp only [writeModified, linked, written_field_unmodified]

end

end MyHomeHub.UsersService
