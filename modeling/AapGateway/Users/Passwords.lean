import AapGateway.Foundations.Text
import Mathlib.Data.List.Basic

/-!
# The password of a user

A request gives the password in plain, and `User.save` hashes the field of the instance on the way
to the database. Whether it does is decided by the shape of the field: a text that looks hashed, or
that looks like the marker of an unusable password, is left as it is. The validation of a new
password does not look at these shapes.

## Main definitions

* `Hashers`: the hashers of the web framework, with what is assumed of them;
* `validatePassword` and `newPassword`: the validation, and the password that a request leaves;
* `savePassword` and `Account.saves`: what one save, and any number of them, make of the field;
* `StoredOnce`: the stored field is a hash of the plain password, made once.

## Main results

* `storedOnce_iff`: a new password is stored so exactly if it does not have one of the two shapes.
-/

namespace AapGateway.Users

/-- `ENCRYPTED_STRING`, the mask of a secret. -/
def encryptedString : String := "$encrypted$"

/-- `PASSWORD_DISABLED`, which stands for an unusable password. -/
def passwordDisabled : String := "Password Disabled"

/-- `UNUSABLE_PASSWORD_PREFIX`. -/
def unusablePasswordPrefix : String := "!"

/-- `UNUSABLE_PASSWORD_SUFFIX_LENGTH`. -/
def unusablePasswordSuffixLength : ℕ := 40

/-- The hashers of the web framework. A salt stands for what `make_password` draws at random. -/
structure Hashers (Salt : Type) where
  /-- The keys of `get_hashers_by_algorithm`. -/
  algorithms : List String
  /-- The algorithm of the hasher that `identify_hasher` finds; it raises where there is none. -/
  identifyHasher : String → Option String
  makePassword : Option String → Salt → String
  /-- What `make_password` makes of a text is recognised by `identify_hasher`. -/
  identify_makePassword : ∀ password salt, ∃ algorithm ∈ algorithms,
    identifyHasher (makePassword (some password) salt) = some algorithm
  /-- No encoded hash begins with the prefix of unusable passwords. -/
  identify_unusable : ∀ text, Text.startsWith text unusablePasswordPrefix = true →
    identifyHasher text = none
  identify_empty : identifyHasher "" = none

/-- A user instance, as far as passwords go. -/
structure Account where
  username : String
  /-- The field of the instance. -/
  password : Option String
  /-- The column of the row; there is none before the first save. -/
  stored : Option String

/-- The field is set. -/
def Account.setPassword (account : Account) (password : Option String) : Account :=
  { account with password }

/-- `password_is_usable`. -/
def passwordIsUsable : Option String → Bool
  | none => true
  | some password =>
    !(Text.startsWith password unusablePasswordPrefix &&
      password.length == unusablePasswordPrefix.length + unusablePasswordSuffixLength)

section Hashers

variable {Salt : Type} (h : Hashers Salt)

/-- `password_is_hashed`. -/
def passwordIsHashed : Option String → Bool
  | none => false
  | some password =>
    match h.identifyHasher password with
    | some algorithm => h.algorithms.contains algorithm
    -- `identify_hasher` has raised a `ValueError`.
    | none => false

/-- What `User.save` makes of the field of the instance. -/
def savePassword (salt : Salt) (password : Option String) : Option String :=
  let password := if password = some "" then none else password
  -- No password counts as usable and not hashed, so that `make_password` gets to disable it.
  if passwordIsUsable password && !passwordIsHashed h password then
    some (h.makePassword password salt)
  else password

/-- One call of `User.save`. -/
structure PasswordSave (Salt : Type) where
  salt : Salt
  /-- The column is among those that the save writes, and the database takes the write. -/
  writes : Bool

/-- `User.save`. -/
def Account.save (account : Account) (call : PasswordSave Salt) : Account :=
  let password := savePassword h call.salt account.password
  { account with password, stored := if call.writes then password else account.stored }

/-- Calls of `User.save`, one after the other. -/
def Account.saves (account : Account) (calls : List (PasswordSave Salt)) : Account :=
  calls.foldl (Account.save h) account

end Hashers

/-! ### The validation of a new password -/

/-- The preferences of the section `local_login` on passwords. -/
structure PasswordPreferences where
  passwordMinLength : ℤ
  passwordMinDigits : ℤ
  passwordMinUpper : ℤ
  passwordMinSpecial : ℤ
  allowAdminsToSetInsecure : Bool

/-- `str.isdigit`, `str.isupper` and `str.isalnum` of one character. -/
structure CharacterClasses where
  isDigit : Char → Bool
  isUpper : Char → Bool
  isAlnum : Char → Bool

/-- What the validation of a password raises. -/
inductive PasswordError where
  | validation (messages : List String)
  deriving DecidableEq, Repr

/-- The request that sets a password. -/
structure PasswordRequest where
  preferences : PasswordPreferences
  /-- `self.instance`; there is none in a creation. -/
  instance? : Option Account
  /-- `initial_data.get('username')`. -/
  initialUsername : Option String
  /-- `is_superuser_making_request`. -/
  isSuperuserMakingRequest : Bool

section Validation

variable (classes : CharacterClasses) (canUserChangePassword : Account → Bool)

/-- `_perform_password_validation`. -/
def performPasswordValidation (preferences : PasswordPreferences) (password : String) :
    List String :=
  -- A bound of zero or less switches its rule off.
  let short (bound : ℤ) (count : ℕ) (message : String) : List String :=
    if bound > 0 ∧ (count : ℤ) < bound then [message] else []
  short preferences.passwordMinLength password.length
      ("Password must be at least " ++ toString preferences.passwordMinLength ++
        " characters long.") ++
    short preferences.passwordMinDigits (password.toList.countP classes.isDigit)
      ("Password must contain at least " ++ toString preferences.passwordMinDigits ++
        " digits.") ++
    short preferences.passwordMinUpper (password.toList.countP classes.isUpper)
      ("Password must contain at least " ++ toString preferences.passwordMinUpper ++
        " uppercase characters.") ++
    short preferences.passwordMinSpecial (password.toList.countP fun c => !classes.isAlnum c)
      ("Password must contain at least " ++ toString preferences.passwordMinSpecial ++
        " special characters.")

/-- `_allow_insecure_password_override`. -/
def allowInsecurePasswordOverride (request : PasswordRequest) : Except PasswordError Bool :=
  if request.isSuperuserMakingRequest && request.preferences.allowAdminsToSetInsecure then
    match request.initialUsername, request.instance? with
    -- The log entry needs a username, and there is neither a new nor an old one.
    | none, none =>
      .error (.validation ["Either username needs to be present or we need an active instance"])
    | _, _ => .ok true
  else .ok false

/-- `UserSerializer.validate_password`. -/
def validatePassword (request : PasswordRequest) (value : String) : Except PasswordError String :=
  if value = "" ∨ value = encryptedString ∨ value = passwordDisabled then .ok value
  else if request.instance?.any (!canUserChangePassword ·) then
    .error (.validation ["Password can not be set for this user"])
  else
    match performPasswordValidation classes request.preferences value with
    | [] => .ok value
    | errors => do
      if ← allowInsecurePasswordOverride request then .ok value else .error (.validation errors)

/-- The password that a request leaves for the instance: an update takes the two masks out. -/
def newPassword (request : PasswordRequest) (value : String) :
    Except PasswordError (Option String) := do
  let password ← validatePassword classes canUserChangePassword request value
  if request.instance?.isSome && (password = encryptedString || password = passwordDisabled) then
    return none
  return some password

variable {classes canUserChangePassword}

/-- A password that is accepted is the one of the request. -/
theorem validatePassword_eq {request : PasswordRequest} {value password : String}
    (h : validatePassword classes canUserChangePassword request value = .ok password) :
    password = value := by
  unfold validatePassword at h
  split at h
  · exact (Except.ok.inj h).symm
  split at h
  · cases h
  split at h
  · exact (Except.ok.inj h).symm
  · -- The policy is not met: only an override accepts the password.
    cases hoverride : allowInsecurePasswordOverride request with
    | error e => rw [hoverride] at h; cases h
    | ok allowed =>
        rw [hoverride] at h
        cases allowed with
        | true => exact (Except.ok.inj h).symm
        | false => cases h

/-- A new password is the one of the request. -/
theorem newPassword_eq {request : PasswordRequest} {value password : String}
    (h : newPassword classes canUserChangePassword request value = .ok (some password)) :
    password = value := by
  unfold newPassword at h
  cases hvalid : validatePassword classes canUserChangePassword request value with
  | error e => rw [hvalid] at h; cases h
  | ok accepted =>
      rw [hvalid] at h
      change (if _ then _ else _ : Except PasswordError (Option String)) = _ at h
      split at h
      · cases h
      · exact (Option.some.inj (Except.ok.inj h)).symm.trans (validatePassword_eq hvalid)

end Validation

/-! ### Saves -/

section Saves

variable {Salt : Type} {h : Hashers Salt} {password : String}

/-- What `make_password` makes of a text looks hashed. -/
theorem passwordIsHashed_makePassword (password : String) (salt : Salt) :
    passwordIsHashed h (some (h.makePassword (some password) salt)) = true := by
  obtain ⟨algorithm, hmem, hidentify⟩ := h.identify_makePassword password salt
  simp [passwordIsHashed, hidentify, hmem]

/-- A text that looks hashed does not look unusable. -/
theorem passwordIsUsable_of_hashed (hhashed : passwordIsHashed h (some password) = true) :
    passwordIsUsable (some password) = true := by
  cases hinitial : Text.startsWith password unusablePasswordPrefix with
  | false => simp [passwordIsUsable, hinitial]
  | true =>
      rw [passwordIsHashed, h.identify_unusable password hinitial] at hhashed
      cases hhashed

/-- A non-empty text is hashed by a save if it has neither of the two shapes, and kept otherwise. -/
theorem savePassword_some (salt : Salt) (hne : password ≠ "") :
    savePassword h salt (some password) =
      if passwordIsUsable (some password) && !passwordIsHashed h (some password) then
        some (h.makePassword (some password) salt)
      else some password := by
  unfold savePassword
  rw [if_neg (mt Option.some.inj hne)]

/-- What `make_password` makes of a text is kept by every save. -/
theorem savePassword_makePassword (password : String) (first salt : Salt) :
    savePassword h salt (some (h.makePassword (some password) first)) =
      some (h.makePassword (some password) first) := by
  have hencoded := passwordIsHashed_makePassword (h := h) password first
  have hne : h.makePassword (some password) first ≠ "" := by
    intro hempty
    rw [hempty, passwordIsHashed, h.identify_empty] at hencoded
    cases hencoded
  rw [savePassword_some salt hne, hencoded, Bool.not_true, Bool.and_false,
    if_neg Bool.false_ne_true]

/-- A call that writes is the first one or a later one. -/
theorem stored_save_or {account : Account} {first : PasswordSave Salt}
    {rest : List (PasswordSave Salt)} (hwritten : ∃ call ∈ first :: rest, call.writes = true) :
    (account.save h first).stored = (account.save h first).password ∨
      ∃ call ∈ rest, call.writes = true := by
  cases hwrites : first.writes with
  | true => exact Or.inl (if_pos hwrites)
  | false =>
      obtain ⟨call, hcall, hcallWrites⟩ := hwritten
      refine Or.inr ⟨call, (List.mem_cons.mp hcall).resolve_left ?_, hcallWrites⟩
      rintro rfl
      rw [hwrites] at hcallWrites
      cases hcallWrites

/-- A field that every save keeps is stored once a save has written the column. -/
theorem stored_saves_of_fixed {account : Account} {calls : List (PasswordSave Salt)}
    (hfixed : ∀ salt, savePassword h salt account.password = account.password)
    (hwritten : account.stored = account.password ∨ ∃ call ∈ calls, call.writes = true) :
    (account.saves h calls).stored = account.password := by
  induction calls generalizing account with
  | nil =>
      rcases hwritten with hstored | ⟨call, hcall, -⟩
      · exact hstored
      · cases hcall
  | cons call calls ih =>
      have hpassword : (account.save h call).password = account.password := hfixed call.salt
      refine (@ih (account.save h call) (by rwa [hpassword]) ?_).trans hpassword
      rcases hwritten with hstored | hcalls
      · -- Whether or not this save writes, the field is stored.
        left
        show (if call.writes then _ else account.stored) = savePassword h call.salt account.password
        rw [hfixed, hstored]
        exact ite_self _
      · exact stored_save_or hcalls

/-- The stored field is what `make_password` made of the password with this salt; it is not the
password in plain, and not the marker of an unusable one. -/
structure StoredOnce (h : Hashers Salt) (password : String) (salt : Salt) (stored : Option String) :
    Prop where
  eq_makePassword : stored = some (h.makePassword (some password) salt)
  ne_plain : stored ≠ some password
  usable : passwordIsUsable stored = true

/-- A password in plain with neither of the two shapes is stored as its hash of the first save. -/
theorem storedOnce_of_plain {account : Account} {first : PasswordSave Salt}
    {rest : List (PasswordSave Salt)} (hne : password ≠ "")
    (hpassword : account.password = some password)
    (hhashed : passwordIsHashed h (some password) = false)
    (husable : passwordIsUsable (some password) = true)
    (hwritten : ∃ call ∈ first :: rest, call.writes = true) :
    StoredOnce h password first.salt (account.saves h (first :: rest)).stored := by
  have hencoded := passwordIsHashed_makePassword (h := h) password first.salt
  have hfirst : (account.save h first).password =
      some (h.makePassword (some password) first.salt) := by
    show savePassword h first.salt account.password = _
    rw [hpassword, savePassword_some first.salt hne, husable, hhashed]
    rfl
  have hstored : (account.saves h (first :: rest)).stored =
      some (h.makePassword (some password) first.salt) := by
    rw [← hfirst]
    refine stored_saves_of_fixed (fun salt => ?_) (stored_save_or hwritten)
    rw [hfirst]
    exact savePassword_makePassword password first.salt salt
  refine ⟨hstored, ?_, ?_⟩
  · -- The hash looks hashed, and the password does not.
    rw [hstored]
    intro heq
    rw [Option.some.inj heq, hhashed] at hencoded
    cases hencoded
  · rw [hstored]
    exact passwordIsUsable_of_hashed hencoded

/-- A password in plain with one of the two shapes is stored in plain. -/
theorem stored_eq_plain {account : Account} {calls : List (PasswordSave Salt)}
    (hne : password ≠ "") (hpassword : account.password = some password)
    (hshape : passwordIsHashed h (some password) = true ∨
      passwordIsUsable (some password) = false)
    (hwritten : ∃ call ∈ calls, call.writes = true) :
    (account.saves h calls).stored = some password := by
  rw [← hpassword]
  refine stored_saves_of_fixed (fun salt => ?_) (Or.inr hwritten)
  rw [hpassword, savePassword_some salt hne]
  rcases hshape with hhashed | hunusable
  · rw [hhashed, Bool.not_true, Bool.and_false, if_neg Bool.false_ne_true]
  · rw [hunusable, Bool.false_and, if_neg Bool.false_ne_true]

/-- For every request that is accepted and leaves a new password for the instance, and every
sequence of saves that writes the column at least once, the password is stored as one hash of
itself exactly if it neither looks hashed nor like the marker of an unusable password. -/
theorem storedOnce_iff (h : Hashers Salt) (classes : CharacterClasses)
    (canUserChangePassword : Account → Bool) (request : PasswordRequest) (value password : String)
    (account : Account) (first : PasswordSave Salt) (rest : List (PasswordSave Salt))
    (hne : value ≠ "")
    (hnew : newPassword classes canUserChangePassword request value = .ok (some password))
    (hwritten : ∃ call ∈ first :: rest, call.writes = true) :
    StoredOnce h value first.salt
        ((account.setPassword (some password)).saves h (first :: rest)).stored ↔
      passwordIsHashed h (some value) = false ∧ passwordIsUsable (some value) = true := by
  obtain rfl := newPassword_eq hnew
  constructor
  · -- With one of the two shapes the password itself is stored, which is no hash of it.
    intro hstored
    by_contra hshape
    rw [not_and_or, Bool.not_eq_false, Bool.not_eq_true] at hshape
    exact hstored.ne_plain (stored_eq_plain hne rfl hshape hwritten)
  · intro ⟨hhashed, husable⟩
    exact storedOnce_of_plain hne rfl hhashed husable hwritten

/-- The algorithms of the gateway's hashers. -/
def gatewayAlgorithms : List String :=
  ["argon2", "pbkdf2_sha256", "pbkdf2_sha1", "bcrypt_sha256", "scrypt"]

/-- The text before the first `$`. -/
def beforeDollar (text : String) : String := String.ofList (text.toList.takeWhile (· ≠ '$'))

/-- An encoded password. The one of `Correct-Horse-7` with this salt is what Argon2 makes of it; of
the others only the beginning is right. -/
def argonEncode (password salt : String) : String :=
  "argon2$" ++
    if password = "Correct-Horse-7" ∧ salt = "seasalt2016abcdefghijk" then
      "argon2id$v=19$m=102400,t=1,p=1$c2Vhc2FsdDIwMTZhYmNkZWZnaGlqaw" ++
        "$8+X8+uoI7uJSk/1H5SdHm1K69LTjbyEqM9GbeG5GMpU"
    else salt ++ "$" ++ password

/-- An encoded password begins with the name of the algorithm. -/
theorem beforeDollar_argonEncode (password salt : String) :
    beforeDollar (argonEncode password salt) = "argon2" := by
  unfold argonEncode beforeDollar
  rw [String.toList_append]
  rfl

/-- Hashers that read the algorithm as the web framework does. -/
def gatewayHashers : Hashers String where
  algorithms := gatewayAlgorithms
  identifyHasher text :=
    if beforeDollar text = "default" then some "argon2"
    else gatewayAlgorithms.find? (· = beforeDollar text)
  makePassword
    | none, salt => unusablePasswordPrefix ++ salt
    | some password, salt => argonEncode password salt
  identify_makePassword password salt := by
    refine ⟨"argon2", by decide, ?_⟩
    dsimp only
    rw [beforeDollar_argonEncode]
    decide
  identify_unusable text htext := by
    obtain ⟨rest, hrest⟩ := List.isPrefixOf_iff_prefix.mp htext
    have hbefore : (beforeDollar text).toList.head? = some '!' := by
      simp [beforeDollar, ← hrest, unusablePasswordPrefix]
    have hheads : ∀ name ∈ "default" :: gatewayAlgorithms, name.toList.head? ≠ some '!' := by
      decide
    have hnot : ∀ name ∈ "default" :: gatewayAlgorithms, name ≠ beforeDollar text :=
      fun name hname heq => hheads name hname (heq ▸ hbefore)
    rw [if_neg (hnot "default" (by decide)).symm, List.find?_eq_none]
    exact fun name hname heq =>
      hnot name (List.mem_cons_of_mem _ hname) (of_decide_eq_true heq)
  identify_empty := by decide

/-- A policy that asks for every kind of character. -/
def strictPreferences : PasswordPreferences where
  passwordMinLength := 12
  passwordMinDigits := 1
  passwordMinUpper := 1
  passwordMinSpecial := 1
  allowAdminsToSetInsecure := false

/-- The classes of the characters up to 127. -/
def asciiClasses : CharacterClasses where
  isDigit := Char.isDigit
  isUpper := Char.isUpper
  isAlnum := Char.isAlphanum

/-- Bob, whose password is unusable. -/
def accountBob : Account where
  username := "bob"
  password := some "!Z0FBQUFBQm5kTU1xZGVmZ2hpamtsbW5vcHFyc3R1"
  stored := some "!Z0FBQUFBQm5kTU1xZGVmZ2hpamtsbW5vcHFyc3R1"

/-- Bob's own request for a new password. -/
def passwordRequest : PasswordRequest where
  preferences := strictPreferences
  instance? := some accountBob
  initialUsername := none
  isSuperuserMakingRequest := false

/-- A save with the salt of the example that writes the column. -/
def saltedSave : PasswordSave String := ⟨"seasalt2016abcdefghijk", true⟩

/-- A password in plain is stored as its hash. -/
theorem storedOnce_correctHorse :
    StoredOnce gatewayHashers "Correct-Horse-7" saltedSave.salt
      ((accountBob.setPassword (some "Correct-Horse-7")).saves gatewayHashers
        [saltedSave, ⟨"othersalt", true⟩]).stored :=
  (storedOnce_iff gatewayHashers asciiClasses (fun _ => true) passwordRequest "Correct-Horse-7"
    "Correct-Horse-7" accountBob saltedSave [⟨"othersalt", true⟩] (by decide) (by decide)
    ⟨saltedSave, List.mem_cons_self, rfl⟩).mpr (by decide)

/-- A password that is an encoded hash. -/
def encodedPassword : String :=
  "pbkdf2_sha256$1000000$seasalt2016abcdefghijk" ++ "$9xsrY2dXnBEroKuF/Jd2o29CvXHX/ePRGOlRH+FM8ak="

/-- A password that has the form of the marker. -/
def markedPassword : String :=
  "!ThisIsTheLongPassphraseOfBobFromSection7"

/-- Both passwords are accepted by a strict policy and stored in plain. -/
theorem not_storedOnce_encoded :
    (newPassword asciiClasses (fun _ => true) passwordRequest encodedPassword =
        .ok (some encodedPassword) ∧
      ¬StoredOnce gatewayHashers encodedPassword saltedSave.salt
        ((accountBob.setPassword (some encodedPassword)).saves gatewayHashers
          [saltedSave]).stored) ∧
    (newPassword asciiClasses (fun _ => true) passwordRequest markedPassword =
        .ok (some markedPassword) ∧
      ¬StoredOnce gatewayHashers markedPassword saltedSave.salt
        ((accountBob.setPassword (some markedPassword)).saves gatewayHashers
          [saltedSave]).stored) := by
  have hplain : ∀ {value : String}, value ≠ "" →
      passwordIsHashed gatewayHashers (some value) = true ∨ passwordIsUsable (some value) = false →
      ¬StoredOnce gatewayHashers value saltedSave.salt
        ((accountBob.setPassword (some value)).saves gatewayHashers [saltedSave]).stored := by
    intro value hne hshape hstored
    refine hstored.ne_plain ?_
    exact stored_eq_plain hne rfl hshape ⟨saltedSave, List.mem_cons_self, rfl⟩
  refine ⟨⟨by decide, hplain (by decide) ?_⟩, by decide, hplain (by decide) ?_⟩
  · -- The hashers know the algorithm that the text begins with.
    exact Or.inl (by decide)
  · -- The text is the prefix with forty characters after it.
    exact Or.inr (by decide)

end Saves

end AapGateway.Users
