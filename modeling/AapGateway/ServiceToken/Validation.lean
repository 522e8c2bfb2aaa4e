import AapGateway.ServiceToken.PopulateServiceId

/-!
# Validation of service tokens

`validate_service_token`: the issuer is read from the token before its signature is checked, the
service cluster is looked up by it, with the fallback that asks the services, and the active keys of
that cluster are tried, the newest first, until one verifies the token. The token type and the user
are read from the verified payload.

PyJWT is a parameter. What is assumed of it is that it decodes only tokens that verify, that a
required claim is not null, and that `sub` is a text where a token has it.

## Main definitions

* `PyJWT` and `PyJWT.Documented`: the two calls, and the assumptions;
* `verifyTokenSignature`, `getUserFromPayload` and `validateServiceToken`: the code;
* `ReadsAs`: the UUIDs an issuer is read as.

## Main results

* `validateServiceToken_sound`: what a validated token guarantees.
-/

namespace AapGateway

namespace ServiceToken

/-- `ServiceKey`. -/
structure ServiceKey where
  pk : ℕ
  serviceCluster : ℕ
  isActive : Bool
  /-- The time of creation. -/
  created : ℕ
  secret : String
  algorithm : String
  deriving DecidableEq, Repr

/-- A user, with the id of its resource. Managed users are hidden from `User.objects`. -/
structure TokenUser where
  pk : ℕ
  username : String
  managed : Bool
  ansibleId : Option Uuid
  deriving DecidableEq

/-- An exception of the JWT library. -/
inductive JWTException where
  /-- A `PyJWTError`. -/
  | pyJWTError (message : String)
  /-- Any other exception. -/
  | other
  deriving DecidableEq, Repr

/-- `full_data`: what `decode_complete` returns. -/
structure DecodedToken where
  payload : Dict Json

/-- The calls to the JWT library. -/
structure PyJWT where
  /-- `jwt.decode(token, options={"verify_signature": False, "require": ["iss", "exp"]})`. -/
  decode : String → Except JWTException (Dict Json)
  /-- `jwt.api_jwt.decode_complete(token, secret, algorithms=algorithm)`. -/
  decodeComplete : String → String → String → Except JWTException DecodedToken

/-- The behaviour of the library that the code relies on. `verifies` says of a token, a secret and
an algorithm that signature and algorithm match and that the token has not expired. -/
structure PyJWT.Documented (jwt : PyJWT) (verifies : String → String → String → Prop) : Prop where
  /-- `decode_complete` returns only for a valid signature, algorithm and expiry. -/
  decodeComplete_verifies : ∀ {token secret algorithm data},
    jwt.decodeComplete token secret algorithm = .ok data → verifies token secret algorithm
  /-- A claim that is required is not null. -/
  decode_requires : ∀ {token payload}, jwt.decode token = .ok payload →
    payload.get? "iss" ≠ some .null
  /-- `decode_complete` rejects a subject that is not a text. -/
  decodeComplete_subject : ∀ {token secret algorithm data sub},
    jwt.decodeComplete token secret algorithm = .ok data → data.payload.get? "sub" = some sub →
      ∃ s, sub = .str s

/-- What `validate_service_token` raises. -/
inductive TokenError where
  /-- `Token is not a valid JWT: %(exception)s` -/
  | notAJWT (message : String)
  /-- `Token issuer %(iss)s does not exist.` -/
  | issuerDoesNotExist (iss : Json)
  /-- `Verified token data does not match unverified data.` -/
  | dataMismatch
  /-- `Unable to validate JWT token against any keys for %(iss)s.` -/
  | noKeyValidates (iss : Json)
  /-- `Expected token of type %(required_type)s, but got token of type %(token_type)s` -/
  | unexpectedType (requiredType : Option String) (tokenType : Option Json)
  /-- `Token subject %(sub)s does not exist.` -/
  | subjectDoesNotExist (sub : Json)
  /-- An exception that the code does not turn into a `ValidationError` of its own. -/
  | raised

/-- `key.is_active` keys of a cluster, `order_by("-created")`. -/
def activeKeys (keys : List ServiceKey) (cluster : ℕ) : List ServiceKey :=
  (keys.filter fun k => k.serviceCluster = cluster ∧ k.isActive).insertionSort
    fun a b => b.created ≤ a.created

/-- The loop of `_verify_token_signature` over the keys. Both issuers are read from the payload of
one token, so values that are equal are the same JSON value. -/
def verifyTokenSignature (jwt : PyJWT) (token : String) (unverifiedServiceId : Json) :
    List ServiceKey → Except TokenError (DecodedToken × ServiceKey)
  | [] => .error (.noKeyValidates unverifiedServiceId)
  | key :: keys =>
    match jwt.decodeComplete token key.secret key.algorithm with
    | .error (.pyJWTError _) => verifyTokenSignature jwt token unverifiedServiceId keys
    | .error .other => .error .raised
    | .ok fullData =>
      match fullData.payload.get? "iss" with
      | none => .error .raised
      | some iss => if iss ≠ unverifiedServiceId then .error .dataMismatch else .ok (fullData, key)

/-- The value a `UUIDField` looks up for a JSON value, `none` where it raises. A null is looked up
as `IS NULL`. -/
def uuidLookup : Json → Option (Option Uuid)
  | .null => some none
  | .str s => (Uuid.parse s).map some
  | .num n => (n.int?.bind Uuid.ofInt).map some
  | .bool b => (Uuid.ofInt (if b then 1 else 0)).map some
  | .arr _ => none
  | .obj _ => none

/-- `str(iss)` of an issuer that can be looked up. -/
def issuerText : Json → String
  | .null => "None"
  | .str s => s
  | .num n => ((n.int?.map Int.repr).getD "")
  | .bool b => if b then "True" else "False"
  | .arr _ => ""
  | .obj _ => ""

/-- `_get_user_from_payload`. -/
def getUserFromPayload (users : List TokenUser) (systemUsername : String)
    (verifiedPayload : Dict Json) : Except TokenError TokenUser :=
  match verifiedPayload.get? "sub" with
  | some sub =>
    match uuidLookup sub with
    | none => .error .raised
    | some ansibleId =>
      match getOne (users.filter fun u => ¬u.managed ∧ u.ansibleId = ansibleId) with
      | .ok u => .ok u
      | .error .doesNotExist => .error (.subjectDoesNotExist sub)
      | .error .multipleObjectsReturned => .error .raised
  | none =>
    match getOne (users.filter fun u => u.username = systemUsername) with
    | .ok u => .ok u
    | .error _ => .error .raised

/-- `ValidatedToken`. -/
structure ValidatedToken where
  user : TokenUser
  serviceCluster : ServiceCluster ServiceType
  tokenData : DecodedToken
  key : ServiceKey

/-- What a validation reads besides the token. -/
structure TokenEnv extends PopulateEnv where
  jwt : PyJWT
  keys : List ServiceKey
  users : List TokenUser
  /-- `settings.SYSTEM_USERNAME`. -/
  systemUsername : String

/-- `ServiceCluster.objects.get(service_id=...)`. -/
def clusterByServiceId (t : Tables) (serviceId : Option Uuid) :
    Except LookupError (ServiceCluster ServiceType) :=
  getOne ((t.serviceClusters.filter fun c => c.serviceId = serviceId.map Uuid.str).filterMap
    t.resolveCluster)

/-- The cluster of an issuer, found or populated, with the database and the cooldown afterwards. -/
def clusterOfIssuer (env : TokenEnv) (cooldown : Dict ℚ) (db : Database) (iss : Json) :
    Except TokenError (ServiceCluster ServiceType) × Database × Dict ℚ :=
  match uuidLookup iss with
  | none => (.error .raised, db, cooldown)
  | some serviceId =>
    match clusterByServiceId db.toTables serviceId with
    | .ok c => (.ok c, db, cooldown)
    | .error .multipleObjectsReturned => (.error .raised, db, cooldown)
    | .error .doesNotExist =>
      let populated := populateServiceId env.toPopulateEnv cooldown db (issuerText iss)
      match populated.cluster with
      | none => (.error (.issuerDoesNotExist iss), populated.db, populated.cooldown)
      | some c => (.ok c, populated.db, populated.cooldown)

/-- `required_type != token_type`, where a missing claim and a null are both `None`. -/
def typeMatches (requiredType : Option String) (tokenType : Option Json) : Bool :=
  tokenType.getD .null = (requiredType.map Json.str).getD .null

/-- `validate_service_token` after the cluster is found. -/
def validateAgainst (env : TokenEnv) (token : String) (requiredType : Option String) (iss : Json)
    (serviceCluster : ServiceCluster ServiceType) : Except TokenError ValidatedToken :=
  match verifyTokenSignature env.jwt token iss (activeKeys env.keys serviceCluster.pk) with
  | .error e => .error e
  | .ok (fullData, key) =>
    let tokenType := fullData.payload.get? "type"
    if ¬typeMatches requiredType tokenType then .error (.unexpectedType requiredType tokenType)
    else
      match getUserFromPayload env.users env.systemUsername fullData.payload with
      | .error e => .error e
      | .ok user => .ok { user, serviceCluster, tokenData := fullData, key }

/-- `validate_service_token`, with the database and the cooldown afterwards. -/
def validateServiceToken (env : TokenEnv) (cooldown : Dict ℚ) (db : Database) (token : String)
    (requiredType : Option String) : Except TokenError ValidatedToken × Database × Dict ℚ :=
  match env.jwt.decode token with
  | .error (.pyJWTError message) => (.error (.notAJWT message), db, cooldown)
  | .error .other => (.error .raised, db, cooldown)
  | .ok payload =>
    match payload.get? "iss" with
    | none => (.error .raised, db, cooldown)
    | some iss =>
      match clusterOfIssuer env cooldown db iss with
      | (.error e, db', cooldown') => (.error e, db', cooldown')
      | (.ok serviceCluster, db', cooldown') =>
        (validateAgainst env token requiredType iss serviceCluster, db', cooldown')

/-- The UUID a JSON value is read as: a text by its digits, an integer by its value or by the digits
of its decimal text. -/
def ReadsAs : Json → Uuid → Prop
  | .str s, u => Uuid.parse s = some u
  | .num n, u => ∃ i, n.int? = some i ∧ (Uuid.ofInt i = some u ∨ Uuid.parse i.repr = some u)
  | .bool b, u => Uuid.ofInt (if b then 1 else 0) = some u
  | _, _ => False

/-- The user that a payload names: the visible user with the resource id `sub`, or the system user
where there is no `sub`. -/
def NamesUser (users : List TokenUser) (systemUsername : String) (payload : Dict Json)
    (user : TokenUser) : Prop :=
  user ∈ users ∧
    match payload.get? "sub" with
    | some sub => ∃ s u, sub = .str s ∧ Uuid.parse s = some u ∧
        user.managed = false ∧ user.ansibleId = some u ∧
        ∀ other ∈ users, other.managed = false → other.ansibleId = some u → other = user
    | none => user.username = systemUsername ∧
        ∀ other ∈ users, other.username = systemUsername → other = user

/-- What a validated token guarantees. -/
structure Genuine (verifies : String → String → String → Prop) (env : TokenEnv) (token : String)
    (requiredType : Option String) (v : ValidatedToken) : Prop where
  /-- Signature, algorithm and expiry verify under the key. -/
  verified : verifies token v.key.secret v.key.algorithm
  /-- The key is an active key of the cluster. -/
  key : v.key ∈ env.keys ∧ v.key.isActive = true ∧ v.key.serviceCluster = v.serviceCluster.pk
  /-- The cluster is the issuer's. -/
  issuer : ∃ iss u, v.tokenData.payload.get? "iss" = some iss ∧ ReadsAs iss u ∧
    v.serviceCluster.serviceId = some u.str
  /-- The type is the required one. Where none is required there is none. -/
  type : (v.tokenData.payload.get? "type").getD .null = (requiredType.map Json.str).getD .null
  /-- The user is the one the token names. -/
  user : NamesUser env.users env.systemUsername v.tokenData.payload v.user

/-- The keys that are tried are active keys of the cluster. -/
theorem mem_activeKeys {keys : List ServiceKey} {cluster : ℕ} {key : ServiceKey}
    (h : key ∈ activeKeys keys cluster) :
    key ∈ keys ∧ key.isActive = true ∧ key.serviceCluster = cluster := by
  obtain ⟨hmem, htest⟩ := List.mem_filter.mp ((List.perm_insertionSort _ _).mem_iff.mp h)
  obtain ⟨hcluster, hactive⟩ := of_decide_eq_true htest
  exact ⟨hmem, hactive, hcluster⟩

/-- The loop returns the first key that decodes the token, and the issuer of what it decoded is the
one the loop was given. -/
theorem verifyTokenSignature_ok {jwt : PyJWT} {token : String} {iss : Json}
    {keys : List ServiceKey} {fullData : DecodedToken} {key : ServiceKey}
    (h : verifyTokenSignature jwt token iss keys = .ok (fullData, key)) :
    key ∈ keys ∧ jwt.decodeComplete token key.secret key.algorithm = .ok fullData ∧
      fullData.payload.get? "iss" = some iss := by
  induction keys with
  | nil => cases h
  | cons first rest ih =>
      rw [verifyTokenSignature] at h
      cases hdecode : jwt.decodeComplete token first.secret first.algorithm with
      | error e =>
          rw [hdecode] at h
          cases e with
          | pyJWTError message =>
              obtain ⟨hmem, hrest⟩ := ih h
              exact ⟨List.mem_cons_of_mem _ hmem, hrest⟩
          | other => cases h
      | ok data =>
          rw [hdecode] at h
          dsimp only at h
          split at h
          · cases h
          · rename_i verified hverified
            split at h
            · cases h
            · rename_i hsame
              -- The loop ends here, with this key and what it decoded.
              cases h
              obtain rfl := not_not.mp hsame
              exact ⟨List.mem_cons_self, hdecode, hverified⟩

/-- A cluster that is found by an id has it. -/
theorem clusterByServiceId_ok {t : Tables} {serviceId : Option Uuid}
    {c : ServiceCluster ServiceType} (h : clusterByServiceId t serviceId = .ok c) :
    c.serviceId = serviceId.map Uuid.str := by
  have hmem : c ∈ (t.serviceClusters.filter fun c => c.serviceId = serviceId.map Uuid.str).filterMap
      t.resolveCluster := by
    rw [eq_singleton_of_getOne h]
    exact List.mem_singleton_self c
  obtain ⟨row, hrow, hresolve⟩ := List.mem_filterMap.mp hmem
  obtain ⟨s, -, rfl⟩ := Option.map_eq_some_iff.mp hresolve
  exact of_decide_eq_true (List.mem_filter.mp hrow).2

/-- The UUID that an issuer is looked up by is one it is read as. -/
theorem readsAs_of_uuidLookup {iss : Json} {u : Uuid} (h : uuidLookup iss = some (some u)) :
    ReadsAs iss u := by
  cases iss with
  | null => simp [uuidLookup] at h
  | bool b => simpa [uuidLookup, ReadsAs] using h
  | num n =>
      simp only [uuidLookup, Option.map_eq_some_iff, Option.bind_eq_some_iff, Option.some.injEq,
        exists_eq_right] at h
      obtain ⟨i, hi, hofInt⟩ := h
      exact ⟨i, hi, Or.inl hofInt⟩
  | str s => simpa [uuidLookup, ReadsAs] using h
  | arr vs => simp [uuidLookup] at h
  | obj kvs => simp [uuidLookup] at h

/-- Only a null is looked up as `IS NULL`. -/
theorem eq_null_of_uuidLookup {iss : Json} (h : uuidLookup iss = some none) : iss = .null := by
  have hsome : ∀ found : Option Uuid, found.map some ≠ some none := by
    intro found
    cases found <;> simp
  cases iss with
  | null => rfl
  | bool b => exact absurd h (hsome _)
  | num n => exact absurd h (hsome _)
  | str s => exact absurd h (hsome _)
  | arr vs => simp [uuidLookup] at h
  | obj kvs => simp [uuidLookup] at h

/-- The fallback reads the text of an issuer that can be looked up as one of its UUIDs. -/
theorem readsAs_of_issuerText {iss : Json} {serviceId : Option Uuid} {u : Uuid}
    (hlookup : uuidLookup iss = some serviceId) (hnull : iss ≠ .null)
    (h : Uuid.parse (issuerText iss) = some u) : ReadsAs iss u := by
  cases iss with
  | null => exact absurd rfl hnull
  | bool b =>
      -- Neither `True` nor `False` is the text of a UUID.
      have hnone : Uuid.parse (issuerText (.bool b)) = none := by cases b <;> decide
      rw [hnone] at h
      cases h
  | num n =>
      simp only [uuidLookup, Option.map_eq_some_iff, Option.bind_eq_some_iff] at hlookup
      obtain ⟨-, ⟨i, hi, -⟩, -⟩ := hlookup
      refine ⟨i, hi, Or.inr ?_⟩
      rw [issuerText, hi] at h
      exact h
  | str s => exact h
  | arr vs => simp [uuidLookup] at hlookup
  | obj kvs => simp [uuidLookup] at hlookup

/-- The cluster of an issuer has an id that the issuer is read as, whether it was found or
populated. -/
theorem clusterOfIssuer_ok {env : TokenEnv} {cooldown : Dict ℚ} {db : Database} {iss : Json}
    {c : ServiceCluster ServiceType} (hnull : iss ≠ .null)
    (h : (clusterOfIssuer env cooldown db iss).1 = .ok c) :
    ∃ u, ReadsAs iss u ∧ c.serviceId = some u.str := by
  unfold clusterOfIssuer at h
  cases hlookup : uuidLookup iss with
  | none => rw [hlookup] at h; cases h
  | some serviceId =>
      rw [hlookup] at h
      dsimp only at h
      cases hfound : clusterByServiceId db.toTables serviceId with
      | ok c' =>
          rw [hfound] at h
          cases h
          have hid := clusterByServiceId_ok hfound
          cases serviceId with
          | none => exact absurd (eq_null_of_uuidLookup hlookup) hnull
          | some u => exact ⟨u, readsAs_of_uuidLookup hlookup, hid⟩
      | error e =>
          rw [hfound] at h
          cases e with
          | multipleObjectsReturned => cases h
          | doesNotExist =>
              dsimp only at h
              split at h
              · cases h
              · rename_i c' hpopulated
                cases h
                obtain ⟨u, hparse, hid⟩ := serviceId_of_populateServiceId hpopulated
                exact ⟨u, readsAs_of_issuerText hlookup hnull hparse, hid⟩

/-- The only row that a query selects. -/
theorem mem_of_getOne_filter {α : Type} {p : α → Bool} {rows : List α} {a : α}
    (h : getOne (rows.filter p) = .ok a) :
    a ∈ rows ∧ p a = true ∧ ∀ b ∈ rows, p b = true → b = a := by
  have hrows := eq_singleton_of_getOne h
  have hmem : a ∈ rows.filter p := by
    rw [hrows]
    exact List.mem_singleton_self a
  refine ⟨(List.mem_filter.mp hmem).1, (List.mem_filter.mp hmem).2, fun b hb hpb => ?_⟩
  have hb' : b ∈ rows.filter p := List.mem_filter.mpr ⟨hb, hpb⟩
  rw [hrows] at hb'
  exact List.mem_singleton.mp hb'

/-- The user that is returned is the one the payload names. -/
theorem getUserFromPayload_ok {users : List TokenUser} {systemUsername : String}
    {payload : Dict Json} {user : TokenUser}
    (hsubject : ∀ sub, payload.get? "sub" = some sub → ∃ s, sub = .str s)
    (h : getUserFromPayload users systemUsername payload = .ok user) :
    NamesUser users systemUsername payload user := by
  unfold getUserFromPayload at h
  unfold NamesUser
  cases hsub : payload.get? "sub" with
  | none =>
      rw [hsub] at h
      dsimp only at h
      split at h
      · rename_i u hget
        cases h
        obtain ⟨hmem, hname, honly⟩ := mem_of_getOne_filter hget
        exact ⟨hmem, of_decide_eq_true hname, fun other hother hname' =>
          honly other hother (decide_eq_true hname')⟩
      · cases h
  | some sub =>
      obtain ⟨s, rfl⟩ := hsubject sub hsub
      rw [hsub] at h
      dsimp only at h
      cases hparse : Uuid.parse s with
      | none => rw [uuidLookup, hparse] at h; cases h
      | some u =>
          rw [uuidLookup, hparse] at h
          dsimp only [Option.map_some] at h
          split at h
          · rename_i u' hget
            cases h
            obtain ⟨hmem, hnamed, honly⟩ := mem_of_getOne_filter hget
            obtain ⟨hvisible, hid⟩ := of_decide_eq_true hnamed
            refine ⟨hmem, s, u, rfl, hparse, Bool.eq_false_iff.mpr hvisible, hid, ?_⟩
            intro other hother hvisible' hid'
            exact honly other hother (decide_eq_true ⟨Bool.eq_false_iff.mp hvisible', hid'⟩)
          · cases h
          · cases h

/-- What the second half of the validation checks. -/
theorem validateAgainst_ok {env : TokenEnv} {token : String} {requiredType : Option String}
    {iss : Json} {serviceCluster : ServiceCluster ServiceType} {v : ValidatedToken}
    (h : validateAgainst env token requiredType iss serviceCluster = .ok v) :
    verifyTokenSignature env.jwt token iss (activeKeys env.keys serviceCluster.pk) =
        .ok (v.tokenData, v.key) ∧
      v.serviceCluster = serviceCluster ∧
      typeMatches requiredType (v.tokenData.payload.get? "type") = true ∧
      getUserFromPayload env.users env.systemUsername v.tokenData.payload = .ok v.user := by
  unfold validateAgainst at h
  cases hverify : verifyTokenSignature env.jwt token iss
      (activeKeys env.keys serviceCluster.pk) with
  | error e => rw [hverify] at h; cases h
  | ok result =>
      obtain ⟨fullData, key⟩ := result
      rw [hverify] at h
      dsimp only at h
      split at h
      · cases h
      · rename_i htype
        cases huser : getUserFromPayload env.users env.systemUsername fullData.payload with
        | error e => rw [huser] at h; cases h
        | ok user =>
            rw [huser] at h
            cases h
            exact ⟨rfl, rfl, by simpa using htype, huser⟩

/-- What the two halves of the validation guarantee. -/
theorem genuine_of_validateServiceToken {verifies : String → String → String → Prop}
    {env : TokenEnv} (hjwt : env.jwt.Documented verifies) {cooldown : Dict ℚ} {db : Database}
    {token : String} {requiredType : Option String} {v : ValidatedToken}
    (h : (validateServiceToken env cooldown db token requiredType).1 = .ok v) :
    Genuine verifies env token requiredType v := by
  unfold validateServiceToken at h
  split at h
  · cases h
  · cases h
  · rename_i payload hdecode
    split at h
    · cases h
    · rename_i iss hiss
      -- The issuer selects the cluster before anything is verified.
      have hnull : iss ≠ .null := fun heq => hjwt.decode_requires hdecode (heq ▸ hiss)
      split at h
      · cases h
      · rename_i serviceCluster db' cooldown' hcluster
        obtain ⟨u, hreads, hid⟩ := clusterOfIssuer_ok hnull (congrArg Prod.fst hcluster)
        obtain ⟨hverify, rfl, htype, huser⟩ := validateAgainst_ok h
        obtain ⟨hkey, hdecoded, hverified⟩ := verifyTokenSignature_ok hverify
        exact
          { verified := hjwt.decodeComplete_verifies hdecoded
            key := mem_activeKeys hkey
            issuer := ⟨iss, u, hverified, hreads, hid⟩
            type := of_decide_eq_true htype
            user := getUserFromPayload_ok
              (fun sub hsub => hjwt.decodeComplete_subject hdecoded hsub) huser }

/-- A token that is validated is genuine, whatever the keys and the answers of the services. -/
theorem validateServiceToken_sound {verifies : String → String → String → Prop} (env : TokenEnv)
    (hjwt : env.jwt.Documented verifies) (cooldown : Dict ℚ) (db : Database) (token : String)
    (requiredType : Option String) {v : ValidatedToken}
    (h : (validateServiceToken env cooldown db token requiredType).1 = .ok v) :
    Genuine verifies env token requiredType v :=
  genuine_of_validateServiceToken hjwt h

/-- The token of the fourth controller, for the system user. -/
def fourthPayload : Dict Json :=
  Dict.ofList [("iss", .str (controllerId 4).str), ("type", .str "service")]

/-- A library for which one token verifies, under one secret. -/
def oneTokenJwt (payload : Dict Json) : PyJWT where
  decode := fun token =>
    if token = "token" then .ok payload else .error (.pyJWTError "Not enough segments")
  decodeComplete := fun token secret algorithm =>
    if token = "token" ∧ secret = "secret" ∧ algorithm = "HS256" then .ok ⟨payload⟩
    else .error (.pyJWTError "Signature verification failed")

/-- The fourth controller has two active keys, of which the older one signed the token. -/
def fourthEnv (payload : Dict Json) : TokenEnv :=
  { controllersAnswer with
    jwt := oneTokenJwt payload
    keys := [⟨1, 4, true, 1, "secret", "HS256"⟩, ⟨2, 4, true, 2, "other", "HS256"⟩,
      ⟨3, 4, false, 3, "secret", "HS256"⟩, ⟨4, 5, true, 4, "secret", "HS256"⟩]
    users := [⟨1, "_system", true, none⟩, ⟨2, "admin", false, some (controllerId 1)⟩]
    systemUsername := "_system" }

/-- The library accepts only the one token. -/
theorem documented_oneTokenJwt {payload : Dict Json} (hiss : payload.get? "iss" ≠ some .null)
    (hsub : payload.get? "sub" = none) :
    (oneTokenJwt payload).Documented fun token secret algorithm =>
      token = "token" ∧ secret = "secret" ∧ algorithm = "HS256" where
  decodeComplete_verifies := by
    intro token secret algorithm data h
    unfold oneTokenJwt at h
    dsimp only at h
    split at h
    · assumption
    · cases h
  decode_requires := by
    intro token decoded h
    unfold oneTokenJwt at h
    dsimp only at h
    split at h
    · cases h
      exact hiss
    · cases h
  decodeComplete_subject := by
    intro token secret algorithm data sub h hsubject
    unfold oneTokenJwt at h
    dsimp only at h
    split at h
    · cases h
      rw [hsub] at hsubject
      cases hsubject
    · cases h

/-- The fourth controller's database after its id is known. -/
def knownController : Database where
  toTables :=
    { fiveControllers.toTables with
      serviceClusters :=
        fiveControllers.serviceClusters.map (assignServiceId 4 (controllerId 4).str) }
  integrity := by decide

/-- The token of the fourth controller is validated with its older key, for the system user. -/
theorem genuine_fourthController :
    ∃ v, (validateServiceToken (fourthEnv fourthPayload) Dict.empty knownController "token"
        (some "service")).1 = .ok v ∧ v.key.pk = 1 ∧ v.user.username = "_system" ∧
      Genuine (fun token secret algorithm =>
        token = "token" ∧ secret = "secret" ∧ algorithm = "HS256") (fourthEnv fourthPayload) "token"
        (some "service") v := by
  refine ⟨_, rfl, rfl, rfl, ?_⟩
  exact validateServiceToken_sound (fourthEnv fourthPayload)
    (documented_oneTokenJwt (by decide) rfl) Dict.empty knownController "token" (some "service") rfl

end ServiceToken

end AapGateway
