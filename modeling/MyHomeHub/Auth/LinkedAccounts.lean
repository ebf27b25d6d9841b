import MyHomeHub.Auth.GoogleLinking

/-!
# Users and their Google accounts

What the overlapping calls keep true. A step of a call moves it to its next control point
and leaves the users, or it writes users and ends the call; each invariant is proved from
these two facts.

`credentials_kept` holds in every run: a user has a password or a Google account, and no
account has two users. `link_kept` needs that no call starts to link an account to a user
while another call links a different one to the same user: a linked account is then only
taken away by unlinking.
-/

namespace MyHomeHub.AuthService

open JavaScript Library UsersService RegistrationRequests

section

variable [LetterCase] [AuthCalls]

variable {users users' : UserStore} {requests : RequestStore} {externalId : String}
  {control control' : Control} {system system' : AuthSystem}

/-! ## What a step does -/

/-- A call moves to its next control point. -/
inductive Moves (users : UserStore) : Control → Control → Prop where
  | mayLink {userExternalId : String} {profile : GoogleProfile} {user : User}
      (huser : user ∈ users) (hid : user.externalId = userExternalId)
      (hunlinked : isSet user.googleIdHash = false) :
      Moves users (.linkAccount userExternalId profile)
        (.findByGoogleIdHash user.externalId profile)
  | isFree {userExternalId : String} {profile : GoogleProfile} :
      Moves users (.findByGoogleIdHash userExternalId profile)
        (.linkGoogleAccount userExternalId profile)
  | loadLinked {userExternalId : String} {profile : GoogleProfile} {user : User}
      (huser : user ∈ users) (hid : user.externalId = userExternalId) :
      Moves users (.linkGoogleAccount userExternalId profile) (.saveLinked user profile)
  | mayUnlink {userExternalId externalId : String} :
      Moves users (.unlinkAccount userExternalId) (.unlinkGoogleAccount externalId)
  | loadUnlinked {userExternalId : String} {user : User} (huser : user ∈ users) :
      Moves users (.unlinkGoogleAccount userExternalId) (.saveUnlinked user)
  | notLinked {profile : GoogleProfile} :
      Moves users (.resolveUserByGoogleEmail profile) (.findByEmail profile)
  | emailFound {profile : GoogleProfile} {user : User}
      (huser : UsersService.findByEmail users profile.email = some user)
      (hunlinked : isSet user.googleIdHash = false) :
      Moves users (.findByEmail profile) (.linkGoogleAccount user.externalId profile)
  | emailNotFound {profile : GoogleProfile} :
      Moves users (.findByEmail profile) (.getApprovedRequest profile)
  | googleApproved {profile : GoogleProfile} {role : Option UserRole} :
      Moves users (.getApprovedRequest profile) (.create (googleUserData profile role))
  | passwordApproved {email password : String} {role : Option UserRole} :
      Moves users (.register email password) (.create (passwordUserData email password role))
  | emailFree {data : CreateUserData} : Moves users (.create data) (.saveNew data)
  | userFound {userExternalId newPassword externalId : String} :
      Moves users (.changePassword userExternalId newPassword)
        (.updatePassword externalId (generateUserPasswordHash newPassword))
  | loadPassword {userExternalId passwordHash : String} {user : User} (huser : user ∈ users) :
      Moves users (.updatePassword userExternalId passwordHash) (.savePassword user passwordHash)

/-- A call writes users, which ends it. -/
inductive Writes (users : UserStore) : Control → UserStore → Prop where
  | linked {loaded saved : User} {profile : GoogleProfile} {users' : UserStore}
      (h : UsersService.save users loaded (linked loaded profile) = .ok (users', saved)) :
      Writes users (.saveLinked loaded profile) users'
  | unlinked {loaded saved : User} {users' : UserStore}
      (h : UsersService.save users loaded (unlinked loaded) = .ok (users', saved)) :
      Writes users (.saveUnlinked loaded) users'
  | password {loaded saved : User} {passwordHash : String} {users' : UserStore}
      (h : UsersService.save users loaded (withPassword loaded passwordHash) =
        .ok (users', saved)) : Writes users (.savePassword loaded passwordHash) users'
  | created {externalId : String} {data : CreateUserData} {saved : User} {users' : UserStore}
      (h : UsersService.saveNew users (newUser externalId data) = .ok (users', saved)) :
      Writes users (.saveNew data) users'

/-- What a step leaves. -/
inductive Advances (users : UserStore) (control : Control) : UserStore × Control → Prop where
  | ends : Advances users control (users, .finished)
  | moves {control' : Control} (h : Moves users control control') :
      Advances users control (users, control')
  | writes {users' : UserStore} (h : Writes users control users') :
      Advances users control (users', .finished)

omit [LetterCase] [AuthCalls] in
theorem may_link_ok {user : User} {profile : GoogleProfile}
    (h : mayLink user profile = .ok true) : isSet user.googleIdHash = false := by
  unfold mayLink at h
  split at h
  · cases h
  · split at h
    · cases h
    · rename_i hunset
      exact Bool.eq_false_iff.mpr hunset

theorem advances_of_write {result : Except AccountError (UserStore × User)}
    (h : ∀ users' saved, result = .ok (users', saved) → Writes users control users') :
    Advances users control (storeAfter users result, .finished) := by
  cases result with
  | error error => exact .ends
  | ok saved => exact .writes (h saved.1 saved.2 rfl)

/-- Every step ends the call, moves it or writes. -/
theorem next_advances : Advances users control (next users requests externalId control) := by
  cases control with
  | linkAccount userExternalId profile =>
      dsimp only [next]
      split
      · exact .ends
      · rename_i user huser
        obtain ⟨hmem, hid⟩ := find_strict_ok huser
        split
        · rename_i hfree
          exact .moves (.mayLink hmem hid (may_link_ok hfree))
        · exact .ends
  | findByGoogleIdHash userExternalId profile =>
      dsimp only [next]
      split
      · exact .moves .isFree
      · exact .ends
  | linkGoogleAccount userExternalId profile =>
      dsimp only [next]
      split
      · rename_i user huser
        obtain ⟨hmem, hid⟩ := find_strict_ok huser
        exact .moves (.loadLinked hmem hid)
      · exact .ends
  | saveLinked user profile => exact advances_of_write fun _ _ h => .linked h
  | unlinkAccount userExternalId =>
      dsimp only [next]
      split
      · exact .ends
      · split
        · exact .moves .mayUnlink
        · exact .ends
  | unlinkGoogleAccount userExternalId =>
      dsimp only [next]
      split
      · rename_i user huser
        exact .moves (.loadUnlinked (find_strict_ok huser).1)
      · exact .ends
  | saveUnlinked user => exact advances_of_write fun _ _ h => .unlinked h
  | resolveUserByGoogleEmail profile =>
      dsimp only [next]
      split
      · exact .ends
      · exact .moves .notLinked
  | findByEmail profile =>
      dsimp only [next]
      split
      · exact .moves .emailNotFound
      · rename_i user huser
        split
        · exact .ends
        · rename_i hunset
          exact .moves (.emailFound huser (Bool.eq_false_iff.mpr hunset))
  | getApprovedRequest profile =>
      dsimp only [next]
      split
      · exact .moves .googleApproved
      · exact .ends
  | register email password =>
      dsimp only [next]
      split
      · exact .moves .passwordApproved
      · exact .ends
  | create data =>
      dsimp only [next]
      split
      · exact .ends
      · exact .moves .emailFree
  | saveNew data => exact advances_of_write fun _ _ h => .created h
  | changePassword userExternalId newPassword =>
      dsimp only [next]
      split
      · exact .ends
      · exact .moves .userFound
  | updatePassword userExternalId passwordHash =>
      dsimp only [next]
      split
      · rename_i user huser
        exact .moves (.loadPassword (find_strict_ok huser).1)
      · exact .ends
  | savePassword user passwordHash => exact advances_of_write fun _ _ h => .password h
  | finished => exact .ends

/-! ## Passwords and Google accounts -/

omit [LetterCase] in
/-- The hashes of passwords and of Google account ids are not blank. -/
structure HashesAreTexts : Prop where
  argon2Hash : ∀ password, trim (AuthCalls.argon2Hash password) ≠ ""
  sha256 : ∀ text, trim (AuthCalls.sha256 text) ≠ ""

omit [LetterCase] [AuthCalls] in
/-- A user has a password or a Google account, and what it has is not empty. -/
structure HasAccess (user : User) : Prop where
  googleIdHash : user.googleIdHash ≠ some ""
  password : user.password ≠ some ""
  credential : hasCredential user = true

omit [LetterCase] [AuthCalls] in
/-- Users keep their passwords. -/
def PasswordsKept (users users' : UserStore) : Prop :=
  ∀ user ∈ users, ∃ user' ∈ users', user'.externalId = user.externalId ∧
    (isSet user.password = true → isSet user'.password = true)

omit [LetterCase] [AuthCalls] in
/-- What a call has read and computed is not blank, and a user who is to be unlinked has the
password that was read, or another one. -/
def IsSound (users : UserStore) : Control → Prop
  | .linkAccount _ profile | .findByGoogleIdHash _ profile | .linkGoogleAccount _ profile
  | .saveLinked _ profile | .resolveUserByGoogleEmail profile | .findByEmail profile
  | .getApprovedRequest profile => trim profile.googleIdHash ≠ ""
  | .saveUnlinked loaded =>
      loaded.password ≠ some "" ∧ ∃ user ∈ users, user.externalId = loaded.externalId ∧
        (isSet loaded.password = true → isSet user.password = true)
  | .create data | .saveNew data =>
      data.googleIdHash.map trim ≠ some "" ∧ data.password.map trim ≠ some ""
  | .updatePassword _ passwordHash | .savePassword _ passwordHash => trim passwordHash ≠ ""
  | .unlinkAccount _ | .unlinkGoogleAccount _ | .register _ _ | .changePassword _ _
  | .finished => True

omit [LetterCase] [AuthCalls] in
theorem is_set_iff {field : Option String} (h : field ≠ some "") :
    isSet field = true ↔ ∃ text, field = some text := by
  cases field with
  | none => simp [isSet]
  | some text =>
      have hne : text ≠ "" := fun hempty => h (congrArg some hempty)
      simp [isSet, hne]

omit [LetterCase] [AuthCalls] in
theorem written_field_cases {α : Type} [DecidableEq α] (loaded saved stored : α) :
    writtenField loaded saved stored = stored ∨ writtenField loaded saved stored = saved := by
  unfold writtenField
  split
  · exact .inl rfl
  · exact .inr rfl

omit [LetterCase] [AuthCalls] in
theorem PasswordsKept.refl : PasswordsKept users users :=
  fun user huser => ⟨user, huser, rfl, id⟩

omit [LetterCase] [AuthCalls] in
/-- Calls stay sound while users keep their passwords. -/
theorem IsSound.kept (hkept : PasswordsKept users users') (h : IsSound users control) :
    IsSound users' control := by
  cases control with
  | saveUnlinked loaded =>
      obtain ⟨hloaded, user, huser, hid, hpassword⟩ := h
      obtain ⟨user', huser', hid', hpassword'⟩ := hkept user huser
      exact ⟨hloaded, user', huser', hid'.trans hid, fun hset => hpassword' (hpassword hset)⟩
  | _ => exact h

omit [LetterCase] [AuthCalls] in
/-- Users keep their access when one of them is replaced who has access. -/
theorem access_of_replaced {stored updated : User} (hstored : stored ∈ users)
    (hid : updated.externalId = stored.externalId)
    (hmem : ∀ other, other ∈ users' ↔ other = updated ∨
      (other ∈ users ∧ other.externalId ≠ stored.externalId))
    (hupdated : HasAccess updated)
    (hpassword : isSet stored.password = true → isSet updated.password = true)
    (hbefore : ∀ user ∈ users, HasAccess user) :
    (∀ user ∈ users', HasAccess user) ∧ PasswordsKept users users' := by
  constructor
  · intro user huser
    rcases (hmem user).mp huser with rfl | ⟨hold, -⟩
    · exact hupdated
    · exact hbefore user hold
  · intro user huser
    by_cases hsame : user.externalId = stored.externalId
    · obtain rfl := eq_of_external_id huser hstored hsame
      exact ⟨updated, (hmem updated).mpr (.inl rfl), hid, hpassword⟩
    · exact ⟨user, (hmem user).mpr (.inr ⟨huser, hsame⟩), rfl, id⟩

omit [LetterCase] [AuthCalls] in
/-- A user with a Google account has access. -/
theorem HasAccess.linked {user : User} {hash : String} (hhash : hash ≠ "")
    (hgoogle : user.googleIdHash = some hash) (hpassword : user.password ≠ some "") :
    HasAccess user := by
  have hne : user.googleIdHash ≠ some "" := by
    rw [hgoogle]
    exact fun hempty => hhash (Option.some.inj hempty)
  refine ⟨hne, hpassword, ?_⟩
  rw [hasCredential, (is_set_iff hne).mpr ⟨hash, hgoogle⟩, Bool.true_or]

omit [LetterCase] [AuthCalls] in
/-- A user with a password has access. -/
theorem HasAccess.of_password {user : User} (hpassword : user.password ≠ some "")
    (hset : isSet user.password = true) (hgoogle : user.googleIdHash ≠ some "") :
    HasAccess user :=
  ⟨hgoogle, hpassword, by rw [hasCredential, hset, Bool.or_true]⟩

omit [AuthCalls] in
/-- A write leaves every user with access. -/
theorem access_of_write (h : Writes users control users') (hsound : IsSound users control)
    (hbefore : ∀ user ∈ users, HasAccess user) :
    (∀ user ∈ users', HasAccess user) ∧ PasswordsKept users users' := by
  cases h with
  | @linked loaded saved profile users' h =>
      obtain ⟨-, stored, hstored, hid, hmem⟩ := save_ok h
      rw [write_linked, ← hid] at hmem
      refine access_of_replaced hstored ?_ hmem ?_ id hbefore
      · rfl
      · have haccess := hbefore stored hstored
        rcases written_field_cases loaded.googleIdHash (some (trim profile.googleIdHash))
          stored.googleIdHash with hsame | hnew
        · exact ⟨by rw [hsame]; exact haccess.googleIdHash, haccess.password, by
            rw [hasCredential, hsame]
            exact haccess.credential⟩
        · exact .linked hsound hnew haccess.password
  | @unlinked loaded saved users' h =>
      obtain ⟨hchecked, stored, hstored, hid, hmem⟩ := save_ok h
      obtain ⟨hloaded, user, huser, huserId, hpassword⟩ := hsound
      obtain rfl := eq_of_external_id huser hstored (huserId.trans hid.symm)
      rw [write_unlinked, ← hid] at hmem
      have haccess := hbefore user huser
      -- the save has checked that the user was read with a password
      have hset : isSet loaded.password = true := by
        cases hread : loaded.password with
        | none =>
            refine absurd ⟨?_, ?_⟩ hchecked
            · rw [checksPassword, hread]
              rfl
            · rw [hasCredential, unlinked, hread]
              rfl
        | some text => rw [← hread, is_set_iff hloaded]; exact ⟨text, hread⟩
      refine access_of_replaced hstored ?_ hmem ?_ id hbefore
      · rfl
      · refine .of_password haccess.password (hpassword hset) ?_
        rcases written_field_cases loaded.googleIdHash none user.googleIdHash with hsame | hnone
        · rw [hsame]
          exact haccess.googleIdHash
        · rw [hnone]
          intro hempty
          cases hempty
  | @password loaded saved passwordHash users' h =>
      obtain ⟨-, stored, hstored, hid, hmem⟩ := save_ok h
      rw [write_password, ← hid] at hmem
      have haccess := hbefore stored hstored
      have hhash : some (trim passwordHash) ≠ some "" :=
        fun hempty => hsound (Option.some.inj hempty)
      rcases written_field_cases loaded.password (some (trim passwordHash)) stored.password with
        hsame | hnew
      · rw [hsame] at hmem
        exact access_of_replaced hstored rfl hmem haccess id hbefore
      · rw [hnew] at hmem
        have hset : isSet (some (trim passwordHash)) = true := (is_set_iff hhash).mpr ⟨_, rfl⟩
        refine access_of_replaced hstored ?_ hmem ?_ (fun _ => hset) hbefore
        · rfl
        · exact .of_password hhash hset haccess.googleIdHash
  | @created externalId data saved users' h =>
      obtain ⟨hvalid, -, hmem⟩ := save_new_ok h
      constructor
      · intro user huser
        rcases (hmem user).mp huser with hold | rfl
        · exact hbefore user hold
        · exact ⟨hsound.1, hsound.2, has_credential_of_valid hvalid⟩
      · intro user huser
        exact ⟨user, (hmem user).mpr (.inl huser), rfl, id⟩

/-- A call stays sound at its next control point. -/
theorem IsSound.moves (laws : HashesAreTexts) (h : Moves users control control')
    (hsound : IsSound users control) (hbefore : ∀ user ∈ users, HasAccess user) :
    IsSound users control' := by
  cases h with
  | mayLink huser hid hunlinked => exact hsound
  | isFree => exact hsound
  | loadLinked huser hid => exact hsound
  | mayUnlink => trivial
  | @loadUnlinked userExternalId user huser =>
      exact ⟨(hbefore user huser).password, user, huser, rfl, id⟩
  | notLinked => exact hsound
  | emailFound huser hunlinked => exact hsound
  | emailNotFound => exact hsound
  | googleApproved => exact ⟨fun hempty => hsound (Option.some.inj hempty), nofun⟩
  | @passwordApproved email password role =>
      exact ⟨nofun, fun hempty => laws.argon2Hash password (Option.some.inj hempty)⟩
  | emailFree => exact hsound
  | @userFound userExternalId newPassword externalId => exact laws.argon2Hash newPassword
  | loadPassword huser => exact hsound

theorem verified_hash (laws : HashesAreTexts) {idToken : String} {profile : GoogleProfile}
    (h : verifyIdToken idToken = .ok profile) : trim profile.googleIdHash ≠ "" := by
  unfold verifyIdToken at h
  split at h
  · cases h
  · split at h
    · cases h
    · split at h
      · split at h
        · cases h
          exact laws.sha256 _
        · cases h
      · cases h

/-- A call is sound when it starts. -/
theorem is_sound_begin (laws : HashesAreTexts) (request : AuthRequest) :
    IsSound users (begin request) := by
  cases request with
  | linkAccount userExternalId idToken =>
      dsimp only [begin]
      split
      · rename_i profile hprofile
        exact verified_hash laws hprofile
      · trivial
  | unlinkAccount userExternalId => trivial
  | login idToken =>
      dsimp only [begin]
      split
      · rename_i profile hprofile
        exact verified_hash laws hprofile
      · trivial
  | changePassword userExternalId newPassword => trivial
  | register email password totp =>
      dsimp only [begin]
      split
      · split
        · exact ⟨nofun, fun hempty => laws.argon2Hash password (Option.some.inj hempty)⟩
        · trivial
      · trivial

/-- A step leaves every user with access and the call sound. -/
theorem access_of_advance (laws : HashesAreTexts) {after : UserStore × Control}
    (h : Advances users control after) (hsound : IsSound users control)
    (hbefore : ∀ user ∈ users, HasAccess user) :
    (∀ user ∈ after.1, HasAccess user) ∧ PasswordsKept users after.1 ∧
      IsSound after.1 after.2 := by
  cases h with
  | ends => exact ⟨hbefore, .refl, trivial⟩
  | moves h => exact ⟨hbefore, .refl, hsound.moves laws h hbefore⟩
  | writes h =>
      obtain ⟨husers, hkept⟩ := access_of_write h hsound hbefore
      exact ⟨husers, hkept, trivial⟩

omit [LetterCase] [AuthCalls] in
theorem forall_calls {P : Control → Prop} {calls : Nat → Control} {call : Nat}
    (hcall : P control) (hothers : ∀ other, P (calls other)) (other : Nat) :
    P (Function.update calls call control other) := by
  rcases eq_or_ne other call with rfl | hne
  · rw [Function.update_self]
    exact hcall
  · rw [Function.update_of_ne hne]
    exact hothers other

/-- Every user has access, and every call is sound. -/
structure AccessInvariant (system : AuthSystem) : Prop where
  users : ∀ user ∈ system.users, HasAccess user
  calls : ∀ call, IsSound system.users (system.calls call)

/-- Every step keeps the access of the users. -/
theorem AccessInvariant.step (laws : HashesAreTexts) {action : AuthAction}
    (hinvariant : AccessInvariant system) (h : AuthStep system action system') :
    AccessInvariant system' := by
  cases h with
  | @start call request hfree =>
      exact ⟨hinvariant.users, forall_calls (is_sound_begin laws request) hinvariant.calls⟩
  | @advance call requests externalId =>
      have hadvances : Advances system.users (system.calls call)
          (next system.users requests externalId (system.calls call)) := next_advances
      obtain ⟨husers, hkept, hcontrol⟩ :=
        access_of_advance laws hadvances (hinvariant.calls call) hinvariant.users
      exact ⟨husers, forall_calls hcontrol fun other => (hinvariant.calls other).kept hkept⟩

/-! ## Links -/

omit [LetterCase] [AuthCalls] in
/-- The user and the Google account of a call that has passed the check of the user. -/
def pendingLink : Control → Option (String × String)
  | .findByGoogleIdHash userExternalId profile | .linkGoogleAccount userExternalId profile =>
      some (userExternalId, trim profile.googleIdHash)
  | .saveLinked user profile => some (user.externalId, trim profile.googleIdHash)
  | _ => none

omit [LetterCase] [AuthCalls] in
/-- The calls that link an account to the user bring this account. -/
def LinksOnly (system : AuthSystem) (userExternalId : String) (profile : GoogleProfile) : Prop :=
  ∀ call googleIdHash, pendingLink (system.calls call) = some (userExternalId, googleIdHash) →
    googleIdHash = trim profile.googleIdHash

omit [AuthCalls] in
/-- If the call passes the check that a user has no Google account, then the other calls that link
an account to the user bring the same account. -/
def PassesAlone (system : AuthSystem) : Control → Prop
  | .linkAccount userExternalId profile =>
      ∀ user ∈ system.users, user.externalId = userExternalId →
        isSet user.googleIdHash = false → LinksOnly system user.externalId profile
  | .findByEmail profile =>
      ∀ user, UsersService.findByEmail system.users profile.email = some user →
        isSet user.googleIdHash = false → LinksOnly system user.externalId profile
  | _ => True

omit [AuthCalls] in
/-- No call passes the check that a user has no Google account while another call links a different
account to the user. -/
def LinksInTurn (system : AuthSystem) : AuthAction → Prop
  | .start _ _ => True
  | .advance call _ _ => PassesAlone system (system.calls call)

omit [LetterCase] [AuthCalls] in
/-- The action unlinks the Google account of the user. -/
def Unlinks (system : AuthSystem) (userExternalId : String) : AuthAction → Prop
  | .start _ _ => False
  | .advance call _ _ =>
      ∃ user, system.calls call = .saveUnlinked user ∧ user.externalId = userExternalId

omit [LetterCase] [AuthCalls] in
/-- The Google account is linked to the user. -/
def IsLinked (users : UserStore) (userExternalId googleIdHash : String) : Prop :=
  ∃ user ∈ users, user.externalId = userExternalId ∧ user.googleIdHash = some googleIdHash

instance (users : UserStore) (userExternalId googleIdHash : String) :
    Decidable (IsLinked users userExternalId googleIdHash) :=
  inferInstanceAs (Decidable (∃ user ∈ users.docs,
    user.externalId = userExternalId ∧ user.googleIdHash = some googleIdHash))

omit [LetterCase] [AuthCalls] in
/-- The users after a step, with what has become of their Google accounts. -/
def LinksFollow (users users' : UserStore) (control : Control) : Prop :=
  ∀ user ∈ users, ∃ user' ∈ users', user'.externalId = user.externalId ∧
    (user'.googleIdHash = user.googleIdHash ∨
      (user'.googleIdHash = none ∧
        ∃ loaded, control = .saveUnlinked loaded ∧ loaded.externalId = user.externalId) ∨
      ∃ googleIdHash, pendingLink control = some (user.externalId, googleIdHash) ∧
        user'.googleIdHash = some googleIdHash)

omit [LetterCase] [AuthCalls] in
theorem LinksFollow.refl : LinksFollow users users control :=
  fun user huser => ⟨user, huser, rfl, .inl rfl⟩

omit [LetterCase] [AuthCalls] in
/-- What becomes of the Google accounts when one user is replaced. -/
theorem links_of_replaced {stored updated : User} (hstored : stored ∈ users)
    (hid : updated.externalId = stored.externalId)
    (hmem : ∀ other, other ∈ users' ↔ other = updated ∨
      (other ∈ users ∧ other.externalId ≠ stored.externalId))
    (hupdated : updated.googleIdHash = stored.googleIdHash ∨
      (updated.googleIdHash = none ∧
        ∃ loaded, control = .saveUnlinked loaded ∧ loaded.externalId = stored.externalId) ∨
      ∃ googleIdHash, pendingLink control = some (stored.externalId, googleIdHash) ∧
        updated.googleIdHash = some googleIdHash) : LinksFollow users users' control := by
  intro user huser
  by_cases hsame : user.externalId = stored.externalId
  · obtain rfl := eq_of_external_id huser hstored hsame
    exact ⟨updated, (hmem updated).mpr (.inl rfl), hid, hupdated⟩
  · exact ⟨user, (hmem user).mpr (.inr ⟨huser, hsame⟩), rfl, .inl rfl⟩

omit [AuthCalls] in
/-- A write changes the Google account of a user only by unlinking it or by linking the one of the
call. -/
theorem links_of_write (h : Writes users control users') : LinksFollow users users' control := by
  cases h with
  | @linked loaded saved profile users' h =>
      obtain ⟨-, stored, hstored, hid, hmem⟩ := save_ok h
      rw [write_linked, ← hid] at hmem
      refine links_of_replaced hstored ?_ hmem ?_
      · rfl
      · rcases written_field_cases loaded.googleIdHash (some (trim profile.googleIdHash))
          stored.googleIdHash with hsame | hnew
        · exact .inl hsame
        · exact .inr (.inr ⟨_, by rw [pendingLink, hid], hnew⟩)
  | @unlinked loaded saved users' h =>
      obtain ⟨-, stored, hstored, hid, hmem⟩ := save_ok h
      rw [write_unlinked, ← hid] at hmem
      refine links_of_replaced hstored ?_ hmem ?_
      · rfl
      · rcases written_field_cases loaded.googleIdHash none stored.googleIdHash with hsame | hnone
        · exact .inl hsame
        · exact .inr (.inl ⟨hnone, loaded, rfl, hid.symm⟩)
  | @password loaded saved passwordHash users' h =>
      obtain ⟨-, stored, hstored, hid, hmem⟩ := save_ok h
      rw [write_password, ← hid] at hmem
      refine links_of_replaced hstored ?_ hmem ?_
      · rfl
      · exact .inl rfl
  | @created externalId data saved users' h =>
      obtain ⟨-, -, hmem⟩ := save_new_ok h
      exact fun user huser => ⟨user, (hmem user).mpr (.inl huser), rfl, .inl rfl⟩

/-- A call that links an account goes on to link it, or it has just passed the check of the user. -/
theorem pending_of_move (h : Moves users control control') :
    pendingLink control' = none ∨ pendingLink control' = pendingLink control ∨
      ∃ user ∈ users, ∃ profile, isSet user.googleIdHash = false ∧
        pendingLink control' = some (user.externalId, trim profile.googleIdHash) ∧
          (control = .linkAccount user.externalId profile ∨
            (control = .findByEmail profile ∧
              UsersService.findByEmail users profile.email = some user)) := by
  cases h with
  | @mayLink userExternalId profile user huser hid hunlinked =>
      exact .inr (.inr ⟨user, huser, profile, hunlinked, rfl, .inl (by rw [hid])⟩)
  | isFree => exact .inr (.inl rfl)
  | @loadLinked userExternalId profile user huser hid =>
      exact .inr (.inl (by rw [pendingLink, pendingLink, hid]))
  | mayUnlink => exact .inl rfl
  | loadUnlinked huser => exact .inl rfl
  | notLinked => exact .inl rfl
  | @emailFound profile user huser hunlinked =>
      exact .inr (.inr ⟨user, List.mem_of_find?_eq_some huser, profile, hunlinked, rfl,
        .inr ⟨rfl, huser⟩⟩)
  | emailNotFound => exact .inl rfl
  | googleApproved => exact .inl rfl
  | passwordApproved => exact .inl rfl
  | emailFree => exact .inl rfl
  | userFound => exact .inl rfl
  | loadPassword huser => exact .inl rfl

omit [LetterCase] [AuthCalls] in
/-- Some call has passed the check of the user and links the account. -/
def IsPending (calls : Nat → Control) (userExternalId googleIdHash : String) : Prop :=
  ∃ call, pendingLink (calls call) = some (userExternalId, googleIdHash)

omit [LetterCase] [AuthCalls] in
/-- A user to whom a call links an account has no other one, and the calls that link an account to
one user agree. -/
structure LinksInvariant (system : AuthSystem) : Prop where
  known : ∀ userExternalId googleIdHash, IsPending system.calls userExternalId googleIdHash →
    ∃ user ∈ system.users, user.externalId = userExternalId ∧
      ∀ linkedHash, user.googleIdHash = some linkedHash → linkedHash = googleIdHash
  agree : ∀ userExternalId googleIdHash otherHash,
    IsPending system.calls userExternalId googleIdHash →
      IsPending system.calls userExternalId otherHash → otherHash = googleIdHash

omit [LetterCase] [AuthCalls] in
theorem pending_of_update {calls : Nat → Control} {call : Nat}
    {userExternalId googleIdHash : String}
    (h : IsPending (Function.update calls call control) userExternalId googleIdHash) :
    pendingLink control = some (userExternalId, googleIdHash) ∨
      IsPending calls userExternalId googleIdHash := by
  obtain ⟨other, hpending⟩ := h
  rcases eq_or_ne other call with rfl | hne
  · rw [Function.update_self] at hpending
    exact .inl hpending
  · rw [Function.update_of_ne hne] at hpending
    exact .inr ⟨other, hpending⟩

omit [LetterCase] [AuthCalls] in
/-- The invariant is kept while no call passes the check of a user. -/
theorem LinksInvariant.follow {call : Nat} (hinvariant : LinksInvariant system)
    (hfollow : LinksFollow system.users users' (system.calls call))
    (hpending : pendingLink control = none ∨
      pendingLink control = pendingLink (system.calls call)) :
    LinksInvariant ⟨users', Function.update system.calls call control⟩ := by
  have hbefore : ∀ userExternalId googleIdHash,
      IsPending (Function.update system.calls call control) userExternalId googleIdHash →
        IsPending system.calls userExternalId googleIdHash := by
    intro userExternalId googleIdHash h
    rcases pending_of_update h with hnew | hold
    · rcases hpending with hnone | hsame
      · rw [hnone] at hnew
        cases hnew
      · exact ⟨call, hsame ▸ hnew⟩
    · exact hold
  constructor
  · intro userExternalId googleIdHash h
    obtain ⟨user, huser, hid, hlinked⟩ :=
      hinvariant.known userExternalId googleIdHash (hbefore _ _ h)
    obtain ⟨user', huser', hid', hcases⟩ := hfollow user huser
    refine ⟨user', huser', hid'.trans hid, fun linkedHash hhash => ?_⟩
    rcases hcases with hsame | ⟨hnone, -⟩ | ⟨savedHash, hcall, hsaved⟩
    · exact hlinked linkedHash (hsame ▸ hhash)
    · rw [hnone] at hhash
      cases hhash
    · -- the call has linked its account, on which all calls for the user agree
      rw [hid] at hcall
      rw [hsaved] at hhash
      cases hhash
      exact hinvariant.agree userExternalId googleIdHash linkedHash (hbefore _ _ h) ⟨call, hcall⟩
  · intro userExternalId googleIdHash otherHash h hother
    exact hinvariant.agree _ _ _ (hbefore _ _ h) (hbefore _ _ hother)

omit [LetterCase] [AuthCalls] in
/-- The invariant is kept when a call passes the check of a user to whom no other account is being
linked. -/
theorem LinksInvariant.pass {call : Nat} {user : User} {profile : GoogleProfile}
    (hinvariant : LinksInvariant system) (huser : user ∈ system.users)
    (hunlinked : user.googleIdHash = none)
    (hpending : pendingLink control = some (user.externalId, trim profile.googleIdHash))
    (honly : LinksOnly system user.externalId profile) :
    LinksInvariant ⟨system.users, Function.update system.calls call control⟩ := by
  constructor
  · intro userExternalId googleIdHash h
    rcases pending_of_update h with hnew | hold
    · obtain ⟨rfl, -⟩ := Prod.mk.inj (Option.some.inj (hpending.symm.trans hnew))
      refine ⟨user, huser, rfl, fun linkedHash hhash => ?_⟩
      rw [hunlinked] at hhash
      cases hhash
    · exact hinvariant.known userExternalId googleIdHash hold
  · intro userExternalId googleIdHash otherHash h hother
    rcases pending_of_update h with hnew | ⟨first, hfirst⟩
    · obtain ⟨rfl, rfl⟩ := Prod.mk.inj (Option.some.inj (hpending.symm.trans hnew))
      rcases pending_of_update hother with hnewer | ⟨second, hsecond⟩
      · exact (Prod.mk.inj (Option.some.inj (hpending.symm.trans hnewer))).2.symm
      · exact honly second otherHash hsecond
    · rcases pending_of_update hother with hnew | hold
      · obtain ⟨rfl, rfl⟩ := Prod.mk.inj (Option.some.inj (hpending.symm.trans hnew))
        exact (honly first googleIdHash hfirst).symm
      · exact hinvariant.agree _ _ _ ⟨first, hfirst⟩ hold

theorem pending_link_begin (request : AuthRequest) : pendingLink (begin request) = none := by
  cases request with
  | linkAccount userExternalId idToken => dsimp only [begin]; split <;> rfl
  | unlinkAccount userExternalId => rfl
  | login idToken => dsimp only [begin]; split <;> rfl
  | changePassword userExternalId newPassword => rfl
  | register email password totp =>
      dsimp only [begin]
      split
      · split <;> rfl
      · rfl

/-- A step by an allowed action keeps the invariant. -/
theorem LinksInvariant.step {action : AuthAction} (hinvariant : LinksInvariant system)
    (haccess : AccessInvariant system) (hallowed : LinksInTurn system action)
    (h : AuthStep system action system') : LinksInvariant system' := by
  cases h with
  | @start call request hfree => exact hinvariant.follow .refl (.inl (pending_link_begin request))
  | @advance call requests externalId =>
      have halone : PassesAlone system (system.calls call) := hallowed
      have hadvances : Advances system.users (system.calls call)
          (next system.users requests externalId (system.calls call)) := next_advances
      generalize next system.users requests externalId (system.calls call) = after at hadvances ⊢
      cases hadvances with
      | ends => exact hinvariant.follow .refl (.inl rfl)
      | writes h => exact hinvariant.follow (links_of_write h) (.inl rfl)
      | @moves control' h =>
          rcases pending_of_move h with hnone | hsame |
            ⟨user, huser, profile, hunlinked, hpending, hcontrol⟩
          · exact hinvariant.follow .refl (.inl hnone)
          · exact hinvariant.follow .refl (.inr hsame)
          · have hnone : user.googleIdHash = none := by
              cases hhash : user.googleIdHash with
              | none => rfl
              | some text =>
                  rw [(is_set_iff (haccess.users user huser).googleIdHash).mpr ⟨text, hhash⟩]
                    at hunlinked
                  cases hunlinked
            refine hinvariant.pass huser hnone hpending ?_
            rcases hcontrol with hcontrol | ⟨hcontrol, hfound⟩
            · rw [hcontrol] at halone
              exact halone user huser rfl hunlinked
            · rw [hcontrol] at halone
              exact halone user hfound hunlinked

/-- A step that does not unlink the account of a user keeps it. -/
theorem linked_of_step {action : AuthAction} {userExternalId googleIdHash : String}
    (hinvariant : LinksInvariant system) (h : AuthStep system action system')
    (hkeeps : ¬ Unlinks system userExternalId action)
    (hlinked : IsLinked system.users userExternalId googleIdHash) :
    IsLinked system'.users userExternalId googleIdHash := by
  obtain ⟨user, huser, rfl, hhash⟩ := hlinked
  cases h with
  | start hfree => exact ⟨user, huser, rfl, hhash⟩
  | @advance call requests externalId =>
      have hadvances : Advances system.users (system.calls call)
          (next system.users requests externalId (system.calls call)) := next_advances
      generalize next system.users requests externalId (system.calls call) = after at hadvances ⊢
      have hfollow : LinksFollow system.users after.1 (system.calls call) := by
        cases hadvances with
        | ends => exact .refl
        | moves h => exact .refl
        | writes h => exact links_of_write h
      obtain ⟨user', huser', hid, hcases⟩ := hfollow user huser
      refine ⟨user', huser', hid, ?_⟩
      rcases hcases with hsame | ⟨-, loaded, hcontrol, hloaded⟩ | ⟨savedHash, hcall, hsaved⟩
      · exact hsame.trans hhash
      · exact absurd ⟨loaded, hcontrol, hloaded⟩ hkeeps
      · -- the call links the account that the user has
        obtain ⟨known, hknown, hknownId, hagree⟩ := hinvariant.known _ _ ⟨call, hcall⟩
        obtain rfl := eq_of_external_id hknown huser hknownId
        rw [hsaved, hagree googleIdHash hhash]

/-! ## Runs -/

omit [LetterCase] [AuthCalls] in
theorem no_users_access : AccessInvariant noUsers :=
  ⟨fun _ huser => absurd huser List.not_mem_nil, fun _ => trivial⟩

omit [LetterCase] [AuthCalls] in
theorem no_users_links : LinksInvariant noUsers := by
  constructor
  · intro userExternalId googleIdHash h
    obtain ⟨call, hcall⟩ := h
    cases hcall
  · intro userExternalId googleIdHash otherHash h _
    obtain ⟨call, hcall⟩ := h
    cases hcall

/-- Users keep their access in every run. -/
theorem access_invariant_of_run (laws : HashesAreTexts)
    {allowed : AuthSystem → AuthAction → Prop}
    (hrun : Reaches AuthStep allowed noUsers system) : AccessInvariant system :=
  hrun.invariant no_users_access fun _ _ _ hinvariant _ h => hinvariant.step laws h

/-- The calls that link accounts agree in every run in which they do so in turn. -/
theorem links_invariant_of_run (laws : HashesAreTexts)
    (hrun : Reaches AuthStep LinksInTurn noUsers system) : LinksInvariant system := by
  have hboth := @Reaches.invariant _ _ _ _ _ _
    (fun system => AccessInvariant system ∧ LinksInvariant system) hrun
      ⟨no_users_access, no_users_links⟩ fun _ _ _ hboth hallowed h =>
        ⟨hboth.1.step laws h, hboth.2.step hboth.1 hallowed h⟩
  exact hboth.2

/-- In every run users have a password or a Google account, and no account has two users. In every
run whose calls link accounts in turn, a linked account stays until the user is unlinked. -/
theorem accounts_kept (laws : HashesAreTexts) :
    (∀ system, Reaches AuthStep anyAction noUsers system →
      (∀ user ∈ system.users, hasCredential user = true) ∧
        ∀ googleIdHash, ∀ user ∈ system.users, ∀ other ∈ system.users,
          user.googleIdHash = some googleIdHash → other.googleIdHash = some googleIdHash →
            user = other) ∧
    ∀ system system' userExternalId googleIdHash, Reaches AuthStep LinksInTurn noUsers system →
      Reaches AuthStep (fun system action => LinksInTurn system action ∧
        ¬ Unlinks system userExternalId action) system system' →
      IsLinked system.users userExternalId googleIdHash →
        IsLinked system'.users userExternalId googleIdHash := by
  constructor
  · intro system hrun
    have haccess := access_invariant_of_run laws hrun
    refine ⟨fun user huser => (haccess.users user huser).credential, ?_⟩
    intro googleIdHash user huser other hother hhash hotherHash
    exact Collection.eq_of_key google_id_hash_key_mem huser hother hhash hotherHash
  · intro system system' userExternalId googleIdHash hbefore hrun hlinked
    have hkept := @Reaches.invariant _ _ _ _ _ _
      (fun system => (AccessInvariant system ∧ LinksInvariant system) ∧
        IsLinked system.users userExternalId googleIdHash) hrun
      ⟨⟨access_invariant_of_run laws hbefore, links_invariant_of_run laws hbefore⟩, hlinked⟩
      fun _ _ _ hkept hallowed h => ⟨⟨hkept.1.1.step laws h,
        hkept.1.2.step hkept.1.1 hallowed.1 h⟩, linked_of_step hkept.1.2 h hallowed.2 hkept.2⟩
    exact hkept.2

/-- The system after an action, if the action can be taken. -/
def act (system : AuthSystem) : AuthAction → Option AuthSystem
  | .start call request =>
      match system.calls call with
      | .finished =>
          some { system with calls := Function.update system.calls call (begin request) }
      | _ => none
  | .advance call requests externalId =>
      some ⟨(next system.users requests externalId (system.calls call)).1,
        Function.update system.calls call
          (next system.users requests externalId (system.calls call)).2⟩

theorem act_step {action : AuthAction} (h : act system action = some system') :
    AuthStep system action system' := by
  cases action with
  | start call request =>
      unfold act at h
      dsimp only at h
      split at h
      · rename_i hfree
        cases h
        exact .start hfree
      · cases h
  | advance call requests externalId =>
      cases h
      exact .advance

/-- Actions that can be taken one after the other are a run. -/
theorem reaches_actions {actions : List AuthAction} (h : actions.foldlM act system = some system') :
    Reaches AuthStep anyAction system system' := by
  induction actions generalizing system with
  | nil =>
      cases h
      exact .refl
  | cons action actions ih =>
      rw [List.foldlM_cons, Option.bind_eq_bind, Option.bind_eq_some_iff] at h
      obtain ⟨middle, hfirst, hrest⟩ := h
      exact .head ⟨action, trivial, act_step hfirst⟩ (ih hrest)

end

/-! ## Two ID tokens -/

/-- The SHA-256 hash of the id of a Google account. -/
def firstHash : String :=
  "dc6afb7b57a525ecff236955b938bd48bbf5c64ac78076b5eb32fb23a27b9a63"

/-- The SHA-256 hash of the id of another Google account. -/
def secondHash : String :=
  "37c6a1f5c55726c88b506aa2f8b0366e99dd2eda0b1f6dda29b51cb4d6ee9d5f"

/-- The Argon2 hash of the password of the owner. -/
def ownerHash : String :=
  "$argon2id$v=19$m=65536,t=3,p=4$c29tZXNhbHQ$5t1cW0sZ8Qx2"

/-- Calls that know two ID tokens and one one-time password. -/
@[reducible] def tokenCalls : AuthCalls where
  verifyTotp totp := totp = "492039"
  argon2Hash _ := ownerHash
  sha256 text := if text = "104857600000000000001" then firstHash else secondHash
  verifyIdToken idToken :=
    if idToken = "first" then
      some ⟨some "104857600000000000001", some "owner@example.com", true⟩
    else if idToken = "second" then
      some ⟨some "104857600000000000002", some "second@example.com", true⟩
    else none
  googleClientIds := ["hub.apps.googleusercontent.com"]

/-- The external id of the owner of the hub. -/
def ownerId : String :=
  "8e1f7c30-52ab-4d19-9f6e-b3a4c5d6e7f8"

/-- The next step of a call. -/
def advanceCall (call : Nat) : AuthAction :=
  .advance call .empty ownerId

/-- The owner registers with a one-time password. -/
def registerOwner : List AuthAction :=
  [.start 0 (.register "owner@example.com" "secret" (some "492039")), advanceCall 0, advanceCall 0]

/-- The owner links two Google accounts at once: both calls check the owner before either saves. -/
def linkTwice : List AuthAction :=
  [.start 0 (.linkAccount ownerId "first"), .start 1 (.linkAccount ownerId "second"),
    advanceCall 0, advanceCall 1, advanceCall 0, advanceCall 1, advanceCall 0, advanceCall 1,
    advanceCall 0]

theorem token_calls_hash : @HashesAreTexts tokenCalls := by
  have hfirst : trim firstHash ≠ "" := by decide +kernel
  have hsecond : trim secondHash ≠ "" := by decide +kernel
  refine @HashesAreTexts.mk tokenCalls (fun _ => ?_) fun text => ?_
  · change trim ownerHash ≠ ""
    decide +kernel
  · change trim (if text = "104857600000000000001" then firstHash else secondHash) ≠ ""
    split
    · exact hfirst
    · exact hsecond

/-- The stored request of the owner, which is approved. -/
def ownerRequests : RequestStore :=
  ⟨[{
      externalId := "2b6d0f9e-1c3a-4e58-8b7d-6a5f4e3d2c1b"
      requesterEmail := "owner@example.com"
      requesterComment := .undefined
      status := .approved
      role := some .resident
      blackListed := .value false }], List.pairwise_singleton _ _⟩

/-- The owner registers with the first Google account. -/
def loginActions : List AuthAction :=
  [.start 0 (.login "first"), advanceCall 0, advanceCall 0, .advance 0 ownerRequests ownerId,
    advanceCall 0, advanceCall 0]

/-- The system after some of these actions. -/
def loginSystem (n : Nat) : AuthSystem :=
  ((loginActions.take n).foldlM (@act .ascii tokenCalls) noUsers).getD noUsers

theorem login_system_step (n : Nat) (action : AuthAction)
    (hrun : Reaches (@AuthStep .ascii tokenCalls) (@LinksInTurn .ascii) noUsers (loginSystem n))
    (hallowed : @LinksInTurn .ascii (loginSystem n) action)
    (hact : @act .ascii tokenCalls (loginSystem n) action = some (loginSystem (n + 1))) :
    Reaches (@AuthStep .ascii tokenCalls) (@LinksInTurn .ascii) noUsers (loginSystem (n + 1)) :=
  hrun.tail ⟨action, hallowed, @act_step .ascii tokenCalls _ _ _ hact⟩

theorem login_system_reached :
    Reaches (@AuthStep .ascii tokenCalls) (@LinksInTurn .ascii) noUsers (loginSystem 6) := by
  have hstart := login_system_step 0 (.start 0 (.login "first")) .refl trivial rfl
  have hhash := login_system_step 1 (advanceCall 0) hstart trivial rfl
  have hemail := login_system_step 2 (advanceCall 0) hhash ?_ rfl
  · have happroved := login_system_step 3 (.advance 0 ownerRequests ownerId) hemail trivial rfl
    have hfree := login_system_step 4 (advanceCall 0) happroved trivial rfl
    exact login_system_step 5 (advanceCall 0) hfree trivial rfl
  · -- no user has the email of the Google account
    intro user hfound
    cases hfound

theorem accounts_kept_owner :
    (∀ user ∈ (loginSystem 6).users, hasCredential user = true) ∧
      ∀ system', Reaches (@AuthStep .ascii tokenCalls) (fun system action =>
        @LinksInTurn .ascii system action ∧ ¬ Unlinks system ownerId action)
          (loginSystem 6) system' → IsLinked system'.users ownerId firstHash := by
  obtain ⟨hcredentials, hlinks⟩ := @accounts_kept .ascii tokenCalls token_calls_hash
  constructor
  · exact (hcredentials _ login_system_reached.of_allowed).1
  · intro system' hrun
    exact hlinks _ _ _ _ login_system_reached hrun (by decide +kernel)

/-- The system after some actions of the owner. -/
def ownerSystem (actions : List AuthAction) : AuthSystem :=
  ((registerOwner ++ actions).foldlM (@act .ascii tokenCalls) noUsers).getD noUsers

theorem owner_system_reached {actions : List AuthAction}
    (h : ((registerOwner ++ actions).foldlM (@act .ascii tokenCalls) noUsers).isSome = true) :
    Reaches (@AuthStep .ascii tokenCalls) anyAction noUsers (ownerSystem actions) := by
  obtain ⟨system, hsystem⟩ := Option.isSome_iff_exists.mp h
  rw [ownerSystem, hsystem, Option.getD_some]
  exact @reaches_actions .ascii tokenCalls _ _ _ hsystem

/-- The second account replaces the first one, and nothing was unlinked. -/
theorem linked_account_replaced :
    Reaches (@AuthStep .ascii tokenCalls) anyAction noUsers (ownerSystem linkTwice) ∧
      @AuthStep .ascii tokenCalls (ownerSystem linkTwice) (advanceCall 1)
        (ownerSystem (linkTwice ++ [advanceCall 1])) ∧
      ¬ Unlinks (ownerSystem linkTwice) ownerId (advanceCall 1) ∧
      IsLinked (ownerSystem linkTwice).users ownerId firstHash ∧
      ¬ IsLinked (ownerSystem (linkTwice ++ [advanceCall 1])).users ownerId firstHash := by
  have ⟨hpending, hlinked, hreplaced⟩ :
      pendingLink ((ownerSystem linkTwice).calls 1) = some (ownerId, secondHash) ∧
        IsLinked (ownerSystem linkTwice).users ownerId firstHash ∧
        ¬ IsLinked (ownerSystem (linkTwice ++ [advanceCall 1])).users ownerId firstHash := by
    decide +kernel
  refine ⟨owner_system_reached (by decide +kernel), ?_, ?_, hlinked, hreplaced⟩
  · exact @act_step .ascii tokenCalls _ _ _ rfl
  · intro h
    obtain ⟨user, hcontrol, -⟩ := h
    rw [hcontrol] at hpending
    cases hpending

end MyHomeHub.AuthService
