import AapGateway.Foundations.Canonical
import AapGateway.Oidc.RoleClaims
import AapGateway.ServiceToken.Authentication

/-!
# Workload identity tokens

The automation controller asks the gateway for tokens that identify its jobs to other systems. The
request names a scope, an audience and the claims about the job. The gateway checks that the caller
is a service that may use the scope and that the scope knows all the claims, and signs a token in
which its own claims take the place of those in the request.

The scopes are classes of another package: the claims that a scope lists, and the subject that it
makes of the claims. The checks of the serializer's fields are those of the REST framework; what
they guarantee is in the type of the validated request.

## Main definitions

* `WorkloadRequest`: a validated request;
* `post` and `issueToken`: the view, and the view behind the authentication;
* `getDiscoveryClaims`: the claims that the OpenID provider advertises.

## Main results

* `vouched_of_issueToken`: an issued token is vouched for by a key of a controller;
* `payload_of_granted`: what a payload holds, and that every claim in it is advertised.
-/

namespace AapGateway.Oidc

open ServiceToken

/-- A scope of `SCOPE_REGISTRY`. -/
structure ScopeClass where
  listClaims : List String
  /-- `generate_sub_claim`, `none` where it raises. -/
  generateSubClaim : Dict Json → Option String

/-- The validated data of `WorkloadIdentityTokenRequestSerializer`. -/
structure WorkloadRequest (maxTtl : ℕ) where
  scope : String
  audience : String
  claims : Dict Json
  workloadTtlSeconds : Option ℕ
  /-- `allow_blank=False`. -/
  scope_ne : scope ≠ ""
  audience_ne : audience ≠ ""
  /-- `allow_empty=False`. -/
  claims_ne : claims.items ≠ []
  /-- `min_value` and `max_value`. -/
  ttl_bounds : ∀ ttl ∈ workloadTtlSeconds, 1 ≤ ttl ∧ ttl ≤ maxTtl

/-- A claim of a token: a JSON value, or a time. -/
inductive ClaimValue where
  | json (v : Json)
  | timestamp (t : ℚ)

/-- What the view reads besides the request. -/
structure WorkloadEnv where
  /-- `SCOPE_REGISTRY`. -/
  scopeRegistry : Dict ScopeClass
  /-- `AutomationControllerJobScope.name`. -/
  jobScope : String
  /-- `GATEWAY_WIT_MAX_TOKEN_TTL`. -/
  maxTtl : ℕ
  /-- The serializer: its errors, or the validated data. -/
  validate : Json → Except Json (WorkloadRequest maxTtl)
  /-- `get_jwt_rsa_key()`. -/
  privateKey : String
  /-- The preference `workload_identity__jwt_default_ttl_seconds`. -/
  defaultTtlSeconds : ℤ
  /-- The current time. -/
  timestamp : ℚ
  /-- `uuid4()`. -/
  jti : String
  /-- The URL of the view `oauth2_provider:oauth_authorization_root_view`. -/
  issuer : String
  /-- `jwt.encode(payload, key, algorithm="RS256")`, `none` where it raises. -/
  encode : Dict ClaimValue → String → Option String

/-- A response of the view. -/
inductive WorkloadResponse where
  /-- Status 400 with the errors of the serializer. -/
  | rejected (errors : Json)
  /-- A status with an `error` text. -/
  | error (status : ℕ) (text : String)
  /-- Not authenticated: status 401, or 403 where the first class has no challenge. -/
  | unauthenticated (detail : String)
  /-- Status 200 with the token. -/
  | token (jwt : String)
  /-- An exception that is not handled. -/
  | raised

/-- `SCOPE_SERVICE_AUTHORIZATION`. -/
def scopeServiceAuthorization (env : WorkloadEnv) : Dict String :=
  Dict.empty.set env.jobScope DefaultServiceType.controller.value

/-- `_validate_claims_for_scope`: the claims that the scope does not list. -/
def validateClaimsForScope (scopeClass : ScopeClass) (claims : Dict Json) : List String :=
  (claims.items.map Prod.fst).filter (· ∉ scopeClass.listClaims)

/-- `OIDC_JWT_TTL_CLOCK_SKEW_SECONDS`. -/
def clockSkewSeconds : ℤ := 60

/-- `get_jwt_ttl_with_skew`. -/
def getJwtTtlWithSkew (baseTtlSeconds : ℤ) : ℤ :=
  baseTtlSeconds + clockSkewSeconds

/-- `workload_ttl_seconds or get_preference_value(...)`. -/
def baseTtl (env : WorkloadEnv) (workloadTtlSeconds : Option ℕ) : ℤ :=
  match workloadTtlSeconds with
  | none => env.defaultTtlSeconds
  | some ttl => if ttl = 0 then env.defaultTtlSeconds else ttl

/-- `jwt_default_claims`. -/
def jwtDefaultClaims (env : WorkloadEnv) (r : WorkloadRequest env.maxTtl) (sub : String) :
    Dict ClaimValue :=
  Dict.ofList
    [("jti", .json (.str env.jti)), ("iss", .json (.str env.issuer)), ("sub", .json (.str sub)),
      ("aud", .json (.str r.audience)),
      ("exp", .timestamp (env.timestamp + getJwtTtlWithSkew (baseTtl env r.workloadTtlSeconds))),
      ("iat", .timestamp env.timestamp)]

/-- `workload_claims`, as claims of a token. -/
def workloadClaims (claims : Dict Json) : Dict ClaimValue where
  items := claims.items.map fun item => (item.1, .json item.2)
  nodup := by
    rw [List.map_map]
    exact claims.nodup

/-- `{**workload_claims, **jwt_default_claims}`. -/
def issuedPayload (env : WorkloadEnv) (r : WorkloadRequest env.maxTtl) (sub : String) :
    Dict ClaimValue :=
  (workloadClaims r.claims).merge (jwtDefaultClaims env r sub)

/-- `WorkloadIdentityTokensView.post`. -/
def post (env : WorkloadEnv) (serviceCluster : Option (ServiceCluster ServiceType))
    (data : Json) : WorkloadResponse :=
  match env.validate data with
  | .error errors => .rejected errors
  | .ok r =>
    match env.scopeRegistry.get? r.scope with
    | none => .error 400 ("Unknown scope: " ++ r.scope)
    | some scopeClass =>
      match serviceCluster with
      | none => .error 403 "Service authentication required"
      | some cluster =>
        let serviceTypeName := cluster.serviceType.name
        if (scopeServiceAuthorization env).get? r.scope ≠ some serviceTypeName then
          .error 403 ("Service '" ++ serviceTypeName ++ "' is not authorized for scope '" ++
            r.scope ++ "'")
        else
          let invalidClaims := validateClaimsForScope scopeClass r.claims
          if invalidClaims ≠ [] then
            .error 400 ("Invalid claims for scope '" ++ r.scope ++ "': " ++
              String.intercalate ", " (Canonical.sorted id invalidClaims))
          else
            match scopeClass.generateSubClaim r.claims with
            | none => .raised
            | some sub =>
              match env.encode (issuedPayload env r sub) env.privateKey with
              | none => .raised
              | some jwt => .token jwt

/-- The permission `ServiceTokenAuthOnly`, and then the view. -/
def viewForServices (env : WorkloadEnv) (authenticated : Option AuthenticatedRequest)
    (data : Json) : WorkloadResponse :=
  match authenticated with
  | none => .unauthenticated "Authentication credentials were not provided."
  | some a =>
    if a.auth = .text serviceTokenAuthString then post env a.serviceCluster data
    else .error 403 "You do not have permission to perform this action."

/-- A request for a workload token. -/
def issueToken (auth : AuthenticationEnv) (env : WorkloadEnv) (completed : Bool)
    (cooldown : Dict ℚ) (db : Database) (req : ClientHttpRequest) (data : Json) :
    WorkloadResponse :=
  match authenticateRequest auth completed cooldown db req with
  | .error .locked =>
    .error 423 "Service authentication is locked until migrate_service_data is complete."
  | .error (.failed detail) => .unauthenticated detail
  | .error .raised => .raised
  | .ok authenticated => viewForServices env authenticated data

/-- `USER_IDENTITY_CLAIMS`. -/
def userIdentityClaims : List String :=
  ["sub", "preferred_username", "email", "name", "given_name", "family_name"]

/-- `ROLE_CLAIMS`. -/
def advertisedRoleClaims : List String :=
  ["aap_organizations", "aap_teams", "aap_system_role"]

/-- `get_discovery_claims`, on top of those of the base class. -/
def getDiscoveryClaims (scopeRegistry : Dict ScopeClass) (base : List String) : List String :=
  Canonical.sorted id
    (base ++ ["iss", "aud", "exp", "iat", "jti"] ++
      scopeRegistry.items.flatMap (fun item => item.2.listClaims) ++ userIdentityClaims ++
      advertisedRoleClaims).dedup

/-- The claims that the gateway sets in every token. -/
def gatewayClaims : List String :=
  ["jti", "iss", "sub", "aud", "exp", "iat"]

section Issued

variable {auth : AuthenticationEnv} {env : WorkloadEnv} {completed : Bool} {cooldown : Dict ℚ}
  {db : Database} {req : ClientHttpRequest} {data : Json} {jwt : String}

/-- What a request for a token has passed when the caller is the cluster. -/
structure Granted (env : WorkloadEnv) (cluster : ServiceCluster ServiceType) (data : Json)
    (r : WorkloadRequest env.maxTtl) (scopeClass : ScopeClass) (sub : String) : Prop where
  valid : env.validate data = .ok r
  scope : r.scope = env.jobScope
  registered : env.scopeRegistry.get? r.scope = some scopeClass
  controller : cluster.serviceType.name = DefaultServiceType.controller.value
  claims : ∀ item ∈ r.claims.items, item.1 ∈ scopeClass.listClaims
  subject : scopeClass.generateSubClaim r.claims = some sub

/-- Only the controller may use a scope, and only the one of its jobs. -/
theorem scopeServiceAuthorization_iff {scope name : String} :
    (scopeServiceAuthorization env).get? scope = some name ↔
      scope = env.jobScope ∧ name = DefaultServiceType.controller.value := by
  rw [scopeServiceAuthorization, Dict.get?_set]
  by_cases hscope : scope = env.jobScope
  · rw [if_pos hscope, Option.some_inj]
    exact ⟨fun h => ⟨hscope, h.symm⟩, fun h => h.2.symm⟩
  · rw [if_neg hscope]
    exact ⟨(fun h => by cases h), fun h => absurd h.1 hscope⟩

/-- All claims are listed. -/
theorem validateClaimsForScope_eq_nil_iff {scopeClass : ScopeClass} {claims : Dict Json} :
    validateClaimsForScope scopeClass claims = [] ↔
      ∀ item ∈ claims.items, item.1 ∈ scopeClass.listClaims := by
  simp [validateClaimsForScope, List.filter_eq_nil_iff]

/-- When the view issues a token. -/
theorem post_eq_token_iff {cluster : Option (ServiceCluster ServiceType)} :
    post env cluster data = .token jwt ↔
      ∃ c r scopeClass sub, cluster = some c ∧ Granted env c data r scopeClass sub ∧
        env.encode (issuedPayload env r sub) env.privateKey = some jwt := by
  constructor
  · intro h
    rw [post] at h
    -- Every branch that does not reach the last line is a refusal.
    split at h
    · cases h
    · rename_i r hvalid
      split at h
      · cases h
      · rename_i scopeClass hregistered
        split at h
        · cases h
        · rename_i c
          dsimp only at h
          split_ifs at h with hservice hclaims
          split at h
          · cases h
          · rename_i sub hsubject
            split at h
            · cases h
            · rename_i token hencode
              cases h
              obtain ⟨hscope, hcontroller⟩ := scopeServiceAuthorization_iff.mp (not_not.mp hservice)
              exact ⟨c, r, scopeClass, sub, rfl, ⟨hvalid, hscope, hregistered, hcontroller,
                validateClaimsForScope_eq_nil_iff.mp (not_not.mp hclaims), hsubject⟩, hencode⟩
  · rintro ⟨c, r, scopeClass, sub, rfl, hgranted, hencode⟩
    have hservice : (scopeServiceAuthorization env).get? r.scope = some c.serviceType.name :=
      scopeServiceAuthorization_iff.mpr ⟨hgranted.scope, hgranted.controller⟩
    have hclaims := validateClaimsForScope_eq_nil_iff.mpr hgranted.claims
    rw [post, hgranted.valid]
    simp only [hgranted.registered, hservice, hclaims, hgranted.subject, hencode, ne_eq,
      not_true_eq_false, if_false]

/-- Behind the authentication, a token is issued exactly to a request that a service token
authenticates and that the view grants. -/
theorem issueToken_eq_token_iff (hothers : auth.OthersUnmarked) :
    issueToken auth env completed cooldown db req data = .token jwt ↔
      (∀ cls ∈ auth.classesBefore, cls req = .ok none) ∧
        ∃ a token validated r scopeClass sub,
          Authenticates auth completed cooldown db req a token validated ∧
          Granted env validated.serviceCluster data r scopeClass sub ∧
          env.encode (issuedPayload env r sub) env.privateKey = some jwt := by
  constructor
  · intro h
    rw [issueToken] at h
    split at h
    · cases h
    · cases h
    · cases h
    · rename_i authenticated hauthenticated
      cases authenticated with
      | none => cases h
      | some a =>
        rw [viewForServices] at h
        split_ifs at h with hauth
        obtain ⟨hbefore, token, validated, hservice⟩ :=
          (authenticateRequest_serviceToken_iff hothers).mp ⟨hauthenticated, hauth⟩
        obtain ⟨c, r, scopeClass, sub, hcluster, hgranted, hencode⟩ := post_eq_token_iff.mp h
        obtain rfl := Option.some.inj (hservice.serviceCluster.symm.trans hcluster)
        exact ⟨hbefore, a, token, validated, r, scopeClass, sub, hservice, hgranted, hencode⟩
  · rintro ⟨hbefore, a, token, validated, r, scopeClass, sub, hservice, hgranted, hencode⟩
    obtain ⟨hauthenticated, hauth⟩ := (authenticateRequest_serviceToken_iff hothers).mpr
      ⟨hbefore, token, validated, hservice⟩
    rw [issueToken, hauthenticated]
    simp only [viewForServices, hauth, if_true, hservice.serviceCluster]
    exact post_eq_token_iff.mpr ⟨_, r, scopeClass, sub, rfl, hgranted, hencode⟩

/-- A service token of a controller stands behind a request. -/
structure Vouched (verifies : String → String → String → Prop) (auth : AuthenticationEnv)
    (req : ClientHttpRequest) (token : String) (validated : ValidatedToken) : Prop where
  header : req.serviceAuth = some token
  /-- An active key of the cluster that the token names as its issuer has signed it. -/
  genuine : Genuine verifies auth.toTokenEnv token none validated
  controller : validated.serviceCluster.serviceType.name = DefaultServiceType.controller.value
  authorized : (isUserAuthorized auth req).isSome

/-- Whichever other classes there are and whatever they answer, a token is issued only after the
migration, to a controller that vouches for the request, and is signed for what it asks. -/
theorem vouched_of_issueToken {verifies : String → String → String → Prop}
    (hjwt : auth.jwt.Documented verifies) (hothers : auth.OthersUnmarked)
    (h : issueToken auth env completed cooldown db req data = .token jwt) :
    completed = true ∧ ∃ token validated r scopeClass sub,
      Vouched verifies auth req token validated ∧
      Granted env validated.serviceCluster data r scopeClass sub ∧
      env.encode (issuedPayload env r sub) env.privateKey = some jwt := by
  obtain ⟨-, a, token, validated, r, scopeClass, sub, hservice, hgranted, hencode⟩ :=
    (issueToken_eq_token_iff hothers).mp h
  have hvouched : Vouched verifies auth req token validated :=
    { header := hservice.header
      genuine := genuine_of_validateServiceToken hjwt hservice.valid
      controller := hgranted.controller
      authorized := Option.isSome_of_eq_some hservice.authorized }
  exact ⟨hservice.unlocked, token, validated, r, scopeClass, sub, hvouched, hgranted, hencode⟩

/-- What the payload of an issued token holds. -/
structure IssuedClaims (env : WorkloadEnv) (r : WorkloadRequest env.maxTtl) (sub : String)
    (base : List String) (payload : Dict ClaimValue) : Prop where
  jti : payload.get? "jti" = some (.json (.str env.jti))
  iss : payload.get? "iss" = some (.json (.str env.issuer))
  sub : payload.get? "sub" = some (.json (.str sub))
  aud : payload.get? "aud" = some (.json (.str r.audience))
  iat : payload.get? "iat" = some (.timestamp env.timestamp)
  /-- The token lives as long as was asked for or as the preference says, and a minute longer. -/
  exp : ∃ ttl : ℤ, payload.get? "exp" = some (.timestamp (env.timestamp + (ttl + 60 : ℤ))) ∧
    (r.workloadTtlSeconds = none ∧ ttl = env.defaultTtlSeconds ∨
      ∃ n : ℕ, r.workloadTtlSeconds = some n ∧ ttl = n ∧ 1 ≤ n ∧ n ≤ env.maxTtl)
  /-- All other claims are those of the request. -/
  own : ∀ name ∉ gatewayClaims, payload.get? name = (r.claims.get? name).map .json
  /-- The provider advertises every claim of the token. -/
  advertised : ∀ name, (payload.get? name).isSome →
    name ∈ getDiscoveryClaims env.scopeRegistry base

/-- The gateway's own claims, one by one. -/
theorem get?_jwtDefaultClaims (r : WorkloadRequest env.maxTtl) (sub name : String) :
    (jwtDefaultClaims env r sub).get? name =
      if name = "iat" then some (.timestamp env.timestamp)
      else if name = "exp" then
        some (.timestamp (env.timestamp + getJwtTtlWithSkew (baseTtl env r.workloadTtlSeconds)))
      else if name = "aud" then some (.json (.str r.audience))
      else if name = "sub" then some (.json (.str sub))
      else if name = "iss" then some (.json (.str env.issuer))
      else if name = "jti" then some (.json (.str env.jti))
      else none := by
  rw [jwtDefaultClaims, Dict.ofList]
  simp only [List.foldl_cons, List.foldl_nil, Dict.get?_set]
  rfl

/-- The gateway has no other claims of its own. -/
theorem get?_jwtDefaultClaims_eq_none {r : WorkloadRequest env.maxTtl} {sub name : String}
    (h : name ∉ gatewayClaims) : (jwtDefaultClaims env r sub).get? name = none := by
  simp only [gatewayClaims, List.mem_cons, List.not_mem_nil, or_false, not_or] at h
  obtain ⟨hjti, hiss, hsub, haud, hexp, hiat⟩ := h
  rw [get?_jwtDefaultClaims, if_neg hiat, if_neg hexp, if_neg haud, if_neg hsub, if_neg hiss,
    if_neg hjti]

/-- The claims of the request, as claims of the token. -/
theorem get?_workloadClaims (claims : Dict Json) (name : String) :
    (workloadClaims claims).get? name = (claims.get? name).map .json := by
  rw [Dict.get?, Dict.get?, workloadClaims, List.find?_map, Option.map_map, Option.map_map]
  rfl

/-- A claim of the gateway takes the place of one in the request. -/
theorem get?_issuedPayload_of_gateway {r : WorkloadRequest env.maxTtl} {sub name : String}
    {v : ClaimValue} (h : (jwtDefaultClaims env r sub).get? name = some v) :
    (issuedPayload env r sub).get? name = some v := by
  rw [issuedPayload, Dict.get?_merge, h, Option.some_or]

/-- The other claims are those of the request. -/
theorem get?_issuedPayload_of_notMem {r : WorkloadRequest env.maxTtl} {sub name : String}
    (h : name ∉ gatewayClaims) :
    (issuedPayload env r sub).get? name = (r.claims.get? name).map .json := by
  rw [issuedPayload, Dict.get?_merge, get?_jwtDefaultClaims_eq_none h, Option.none_or,
    get?_workloadClaims]

/-- The lifetime of a token is the one that was asked for, or the preference. -/
theorem baseTtl_eq (r : WorkloadRequest env.maxTtl) :
    (r.workloadTtlSeconds = none ∧ baseTtl env r.workloadTtlSeconds = env.defaultTtlSeconds) ∨
      ∃ n : ℕ, r.workloadTtlSeconds = some n ∧ baseTtl env r.workloadTtlSeconds = n ∧ 1 ≤ n ∧
        n ≤ env.maxTtl := by
  cases httl : r.workloadTtlSeconds with
  | none => exact Or.inl ⟨rfl, rfl⟩
  | some n =>
      obtain ⟨hmin, hmax⟩ := r.ttl_bounds n httl
      have hne : n ≠ 0 := by omega
      exact Or.inr ⟨n, rfl, if_neg hne, hmin, hmax⟩

/-- What the provider advertises. -/
theorem mem_getDiscoveryClaims {scopeRegistry : Dict ScopeClass} {base : List String}
    {name : String} :
    name ∈ getDiscoveryClaims scopeRegistry base ↔
      name ∈ base ∨ name ∈ ["iss", "aud", "exp", "iat", "jti"] ∨
        (∃ item ∈ scopeRegistry.items, name ∈ item.2.listClaims) ∨ name ∈ userIdentityClaims ∨
        name ∈ advertisedRoleClaims := by
  rw [getDiscoveryClaims, Canonical.mem_sorted, List.mem_dedup]
  simp only [List.mem_append, List.mem_flatMap, or_assoc]

/-- The payload of a token that is granted, and what is advertised of it. -/
theorem payload_of_granted {cluster : ServiceCluster ServiceType} {r : WorkloadRequest env.maxTtl}
    {scopeClass : ScopeClass} {sub : String} (h : Granted env cluster data r scopeClass sub)
    (base : List String) : IssuedClaims env r sub base (issuedPayload env r sub) where
  jti := get?_issuedPayload_of_gateway (get?_jwtDefaultClaims r sub "jti")
  iss := get?_issuedPayload_of_gateway (get?_jwtDefaultClaims r sub "iss")
  sub := get?_issuedPayload_of_gateway (get?_jwtDefaultClaims r sub "sub")
  aud := get?_issuedPayload_of_gateway (get?_jwtDefaultClaims r sub "aud")
  iat := get?_issuedPayload_of_gateway (get?_jwtDefaultClaims r sub "iat")
  exp := ⟨baseTtl env r.workloadTtlSeconds,
    get?_issuedPayload_of_gateway (get?_jwtDefaultClaims r sub "exp"), baseTtl_eq r⟩
  own := fun _ hname => get?_issuedPayload_of_notMem hname
  advertised := by
    intro name hname
    rw [mem_getDiscoveryClaims]
    by_cases hgateway : name ∈ gatewayClaims
    · -- The subject is advertised as a claim of users, the others as standard claims.
      simp only [gatewayClaims, List.mem_cons, List.not_mem_nil, or_false] at hgateway
      rcases hgateway with rfl | rfl | rfl | rfl | rfl | rfl <;>
        simp [userIdentityClaims]
    · rw [get?_issuedPayload_of_notMem hgateway, Option.isSome_map] at hname
      obtain ⟨v, hv⟩ := Option.isSome_iff_exists.mp hname
      have hlisted := h.claims _ ((Dict.get?_eq_some _).mp hv)
      have hscope := (Dict.get?_eq_some _).mp h.registered
      exact Or.inr (Or.inr (Or.inl ⟨_, hscope, hlisted⟩))

end Issued

/-- A job asks for a token that lives ten minutes. -/
def jobRequest : WorkloadRequest 86400 where
  scope := "aap_controller_automation_job"
  audience := "vault"
  claims := Dict.empty.set "aap_controller_job_id" (.str "7")
  workloadTtlSeconds := some 600
  scope_ne := by decide
  audience_ne := by decide
  claims_ne := by decide
  ttl_bounds := by
    intro ttl httl
    obtain rfl := Option.some.inj httl
    decide

/-- The scope of the jobs. -/
def jobScopeClass : ScopeClass where
  listClaims := ["aap_controller_job_id", "aap_controller_job_name"]
  generateSubClaim _ := some "job:7"

/-- A gateway with this scope. -/
def jobEnv : WorkloadEnv where
  scopeRegistry := Dict.empty.set "aap_controller_automation_job" jobScopeClass
  jobScope := "aap_controller_automation_job"
  maxTtl := 86400
  validate _ := .ok jobRequest
  privateKey := "key"
  defaultTtlSeconds := 300
  timestamp := 1000
  jti := "e9b3c1d2"
  issuer := "https://gateway.example.org/o/"
  encode _ _ := some "token"

/-- A controller. -/
def jobController : ServiceCluster ServiceType where
  pk := 1
  name := "controller"
  serviceType := ⟨1, "controller", none, none, none, none⟩
  serviceId := none

/-- The token of the job. -/
theorem payload_of_job :
    IssuedClaims jobEnv jobRequest "job:7" [] (issuedPayload jobEnv jobRequest "job:7") :=
  payload_of_granted
    (show Granted jobEnv jobController .null jobRequest jobScopeClass "job:7" from
      { valid := rfl
        scope := rfl
        registered := rfl
        controller := rfl
        claims := by decide
        subject := rfl }) []

/-- The claims of a service token of the fourth controller. It has no type. -/
def untypedPayload : Dict Json :=
  Dict.ofList [("iss", .str (controllerId 4).str)]

/-- A deployment with basic authentication, whose users have no other credentials. -/
def fourthAuthentication : AuthenticationEnv :=
  { fourthEnv untypedPayload with
    reverse := fun viewName _ =>
      if viewName = "workload-identity-tokens-view" then
        some "/api/gateway/v1/workload_identity_tokens/"
      else none
    serviceIndexRoot := "/api/gateway/v1/service-index/"
    classesBefore := [fun req =>
      match req.authorization with
      | none => .ok none
      | some _ => .error (.failed "Invalid username/password.")]
    classesAfter := [] }

/-- The fourth controller asks for a token. -/
def fourthRequest : ClientHttpRequest where
  path := "/api/gateway/v1/workload_identity_tokens/"
  method := "post"
  serviceAuth := some "token"
  authorization := none
  session := none

/-- The fourth controller vouches for its request with its service token. -/
theorem vouched_fourthController :
    issueToken fourthAuthentication jobEnv true Dict.empty knownController fourthRequest .null =
        .token "token" ∧
      ∃ token validated r scopeClass sub,
        Vouched (fun token secret algorithm =>
          token = "token" ∧ secret = "secret" ∧ algorithm = "HS256") fourthAuthentication
          fourthRequest token validated ∧
        Granted jobEnv validated.serviceCluster .null r scopeClass sub ∧
        jobEnv.encode (issuedPayload jobEnv r sub) jobEnv.privateKey = some "token" := by
  have hissued : issueToken fourthAuthentication jobEnv true Dict.empty knownController
      fourthRequest .null = .token "token" := rfl
  have hothers : fourthAuthentication.OthersUnmarked := by
    intro cls hcls req a hanswer
    obtain rfl : cls = _ := List.mem_singleton.mp hcls
    dsimp only at hanswer
    split at hanswer <;> cases hanswer
  exact ⟨hissued, (vouched_of_issueToken (documented_oneTokenJwt (by decide) rfl) hothers
    hissued).2⟩

end AapGateway.Oidc
