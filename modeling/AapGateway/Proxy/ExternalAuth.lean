import AapGateway.Xds.RouteConfig

/-!
# The external authorization server

`_ExternalAuth.Check` decides every proxied request. It reads the context extensions of the
matched route entry, authenticates the request with the REST framework and answers with a
response that lets Envoy pass the request on, with headers added, or denies it.

Authentication itself, the OAuth2 scope permission, token signing and the CSRF page are
library code; `ServerEnv` holds them as functions that may raise. Logging is left out.

## Main definitions

* `check`: the decision for one request;
* `CheckResponse.CarriesGatewayToken`: the response adds a token issued for a user.

## Main results

* `check_spec`: every answer is an anonymous pass, a pass with a token issued to a user that
  was authenticated and passed the scope check, or a denial that carries only its content
  type.
-/

namespace AapGateway.Proxy

/-- `SERVICE_TOKEN_AUTH_STRING`. -/
def serviceTokenAuthString : String := "ServiceTokenAuthentication"

/-- The exceptions the server tells apart. -/
inductive Raised where
  | authenticationFailed
  /-- `PermissionDenied` with the text of its detail. -/
  | permissionDenied (detail : String)
  | other (description : String)
  deriving DecidableEq, Repr

/-- The user of a request. An anonymous user has no primary key. -/
structure RequestUser where
  pk : Option ℕ
  username : String
  deriving DecidableEq, Repr

/-- `request.auth`: nothing, a marker text, or an OAuth2 token. -/
inductive RequestAuth where
  | none
  | text (s : String)
  | oauth2Token (pk : ℕ) (scope : String)
  deriving DecidableEq, Repr

/-- The parts of the REST framework request that the server reads. `user` is the outcome of
evaluating the lazy property, and `auth` its companion afterwards. -/
structure DRFRequest where
  method : String
  httpAccept : String
  httpAuthorization : String
  user : Except Raised (Option RequestUser)
  auth : RequestAuth

/-- The HTTP part of an authorization request. -/
structure HttpRequest where
  method : String
  path : String
  headers : List (String × String)
  rawBody : List UInt8
  deriving DecidableEq, Repr

/-- The values the server puts in headers, by where they come from. -/
inductive HeaderValue where
  /-- A token issued for a user by `get_jwt_for_user`. -/
  | gatewayToken (jwt : String)
  | trustedProxy (signature : String)
  | contentType (value : String)
  deriving DecidableEq, Repr

/-- One `HeaderValueOption`. -/
structure Header where
  key : String
  value : HeaderValue
  deriving DecidableEq, Repr

/-- The body of a denied response. -/
inductive DeniedBody where
  | json (details : String)
  | html (page : String)
  | text (reason : String)
  deriving DecidableEq, Repr

/-- `CheckResponse`. -/
inductive CheckResponse where
  | okResponse (headers : List Header) (headersToRemove : List String)
  | deniedResponse (code : ℕ) (message : String) (httpStatus : ℕ) (headers : List Header)
      (body : DeniedBody)
  deriving DecidableEq, Repr

/-- The library code and stored values the server calls on. -/
structure ServerEnv where
  getDrfRequest : HttpRequest → Except Raised DRFRequest
  /-- `OAuth2ScopePermission().has_permission`. -/
  hasPermission : DRFRequest → Except Raised Bool
  /-- `get_preference_value('proxy', 'gateway_token_name')`. -/
  gatewayTokenName : Except Raised String
  /-- `JWTSessionCache.get`. -/
  cachedJwt : Option ℕ → Option String
  createSignedJwt : RequestUser → Except Raised String
  generateXTrustedProxyHeader : Except Raised String
  /-- The page of `csrf_failure`. -/
  csrfFailure : DRFRequest → String → Except Raised String

/-- `context_extensions[key]`: a missing key of a protobuf map of texts reads as empty. -/
def getItem (ce : ContextExtensions) (key : String) : String :=
  (ce.lookup key).getD ""

/-- `_ExternalAuth.is_route_internal`. -/
def isRouteInternal (ce : ContextExtensions) : Bool :=
  getItem ce "is_internal_route" = "t"

/-- `_ExternalAuth.should_reject_failed_basic_auth`. -/
def shouldRejectFailedBasicAuth (ce : ContextExtensions) : Bool :=
  ce.lookup "reject_failed_basic_auth" = some "t"

/-- The prefixes of `_is_oidc_public_path`. -/
def oidcPublicPrefixes : List String :=
  ["/o/authorize/", "/o/token/", "/o/revoke_token/", "/o/.well-known/", "/o/userinfo/"]

/-- `_ExternalAuth._is_oidc_public_path`. -/
def isOidcPublicPath (requestPath : String) : Bool :=
  oidcPublicPrefixes.any (Text.startsWith requestPath)

/-- The request is for the gateway's own API or its static files. -/
def isGatewayPath (requestPath : String) : Bool :=
  Text.startsWith requestPath "/api/gateway/" || Text.startsWith requestPath "/static/"

variable (env : ServerEnv)

/-- `_ExternalAuth._add_trusted_proxy_header`: a failure to sign is logged and swallowed. -/
def addTrustedProxyHeader (headers : List Header) : List Header :=
  match env.generateXTrustedProxyHeader with
  | .ok signature => headers ++ [⟨"x-trusted-proxy", .trustedProxy signature⟩]
  | .error _ => headers

/-- `_ExternalAuth._return_authenticated`. -/
def returnAuthenticated (headers : List Header) : CheckResponse :=
  let headersToRemove :=
    if headers.any (fun h => h.key = "Authorization") then [] else ["Authorization"]
  .okResponse (addTrustedProxyHeader env headers) headersToRemove

/-- `_return_no_authentication_required` and `_return_not_authenticated`: the request passes
without a token, and the service decides. -/
def returnNoAuthenticationRequired (headers : List Header) : CheckResponse :=
  .okResponse (addTrustedProxyHeader env headers) []

/-- `_ExternalAuth._return_no_auth_with_reason`. The headers collected so far are replaced. -/
def returnNoAuthWithReason (req : DRFRequest) (reason : String) (htmlBody : Option String)
    (code httpStatus : ℕ) : CheckResponse :=
  if Text.contains req.httpAccept "application/json" then
    .deniedResponse code reason httpStatus
      [⟨"content-type", .contentType "application/json"⟩] (.json reason)
  else
    match htmlBody with
    | some page =>
      if page = "" then
        .deniedResponse code reason httpStatus
          [⟨"content-type", .contentType "text/plain"⟩] (.text reason)
      else
        .deniedResponse code reason httpStatus
          [⟨"content-type", .contentType "text/html"⟩] (.html page)
    | none =>
      .deniedResponse code reason httpStatus
        [⟨"content-type", .contentType "text/plain"⟩] (.text reason)

/-- `_ExternalAuth._return_bad_csrf`. -/
def returnBadCsrf (req : DRFRequest) (detail : String) : Except Raised CheckResponse := do
  let page ← env.csrfFailure req detail
  return returnNoAuthWithReason req detail (some page) 7 403

/-- `_ExternalAuth.get_jwt_for_user`: an empty cache entry counts as a miss. -/
def getJwtForUser (user : RequestUser) : Except Raised String :=
  match env.cachedJwt user.pk with
  | some jwt => if jwt = "" then env.createSignedJwt user else .ok jwt
  | none => env.createSignedJwt user

/-- `_ExternalAuth._check_oauth2_scope_permission`: a denial, or nothing. -/
def checkOauth2ScopePermission (req : DRFRequest) : Except Raised (Option CheckResponse) := do
  if ← env.hasPermission req then
    return none
  else if req.auth = .none then
    return none
  else
    return some (returnNoAuthWithReason req
      "Your token has insufficient scope to perform this action" none 7 403)

/-- The part of `try_authenticate_request` after `request.user` has been evaluated. -/
def decideForUser (req : DRFRequest) (requestPath : String) (isInternalRoute : Bool)
    (user : Option RequestUser) : Except Raised CheckResponse :=
  if isInternalRoute ∧ req.auth ≠ .text serviceTokenAuthString then
    .ok (returnNoAuthWithReason req "User is not authorized to reach internal route" none 16 401)
  else if isInternalRoute ∧ isGatewayPath requestPath then
    .ok (returnNoAuthenticationRequired env [])
  else
    match user with
    | none => .ok (returnNoAuthenticationRequired env [])
    | some u =>
      -- `not user.pk`: a missing key, or zero.
      if u.pk.getD 0 = 0 then .ok (returnNoAuthenticationRequired env [])
      else do
        match ← checkOauth2ScopePermission env req with
        | some denied => return denied
        | none =>
          let headerName ← env.gatewayTokenName
          let headerVal ← getJwtForUser env u
          return returnAuthenticated env [⟨headerName, .gatewayToken headerVal⟩]

/-- `_ExternalAuth.try_authenticate_request`. -/
def tryAuthenticateRequest (req : DRFRequest) (requestPath : String)
    (isInternalRoute rejectFailedBasicAuth : Bool) : Except Raised CheckResponse :=
  match req.user with
  | .ok user => decideForUser env req requestPath isInternalRoute user
  | .error .authenticationFailed =>
    if rejectFailedBasicAuth ∧
        (req.httpAuthorization.toList.take 6).map Char.toLower = "basic ".toList then
      .ok (returnNoAuthWithReason req "Invalid credentials." none 16 401)
    else
      decideForUser env req requestPath isInternalRoute none
  | .error e => .error e

/-- `_ExternalAuth.Check`. -/
def check (ce : ContextExtensions) (http : HttpRequest) : Except Raised CheckResponse := do
  let req ← env.getDrfRequest http
  let isInternalRoute := isRouteInternal ce
  if getItem ce "auth_type" = authTypeNone then
    return returnNoAuthenticationRequired env []
  else if isOidcPublicPath http.path then
    return returnNoAuthenticationRequired env []
  else if !isInternalRoute && isGatewayPath http.path then
    return returnNoAuthenticationRequired env []
  else
    match tryAuthenticateRequest env req http.path isInternalRoute
        (shouldRejectFailedBasicAuth ce) with
    | .error (.permissionDenied detail) => returnBadCsrf env req detail
    | outcome => outcome

/-- The answer lets the request pass. -/
def CheckResponse.isOk : CheckResponse → Bool
  | .okResponse _ _ => true
  | .deniedResponse .. => false

/-- The headers an answer adds. -/
def CheckResponse.headers : CheckResponse → List Header
  | .okResponse headers _ => headers
  | .deniedResponse _ _ _ headers _ => headers

/-- The answer carries a token that was issued for a user. -/
def CheckResponse.CarriesGatewayToken (response : CheckResponse) : Prop :=
  ∃ h ∈ response.headers, ∃ jwt, h.value = .gatewayToken jwt

/-- The answers of an authentication attempt on a route with internal flag `isInternal`. -/
inductive Decided (req : DRFRequest) (isInternal : Bool) : CheckResponse → Prop
  /-- A denial, whose only header is its content type. -/
  | denied (code : ℕ) (message : String) (httpStatus : ℕ) (value : String) (body : DeniedBody) :
      Decided req isInternal
        (.deniedResponse code message httpStatus [⟨"content-type", .contentType value⟩] body)
  /-- The request passes without a token. -/
  | passed (guard : isInternal = true → req.auth = .text serviceTokenAuthString) :
      Decided req isInternal (returnNoAuthenticationRequired env [])
  /-- The request passes with a token of the user it was authenticated as. -/
  | issued (guard : isInternal = true → req.auth = .text serviceTokenAuthString)
      {user : RequestUser} {pk : ℕ} {name jwt : String} (authenticated : req.user = .ok (some user))
      (hasPk : user.pk = some pk) (pkNeZero : pk ≠ 0)
      (permitted : checkOauth2ScopePermission env req = .ok none)
      (ofUser : getJwtForUser env user = .ok jwt) :
      Decided req isInternal (returnAuthenticated env [⟨name, .gatewayToken jwt⟩])

variable {env} {req : DRFRequest} {isInternal : Bool} {response : CheckResponse}

/-- A computation that succeeds has a first step that succeeds. -/
theorem bind_eq_ok {ε α β : Type} {x : Except ε α} {f : α → Except ε β} {b : β}
    (h : x >>= f = .ok b) : ∃ a, x = .ok a ∧ f a = .ok b := by
  cases x with
  | error e => cases h
  | ok a => exact ⟨a, rfl, h⟩

/-- Every denial the server builds is one that carries only its content type. -/
theorem decided_returnNoAuthWithReason (reason : String) (htmlBody : Option String)
    (code httpStatus : ℕ) :
    Decided env req isInternal (returnNoAuthWithReason req reason htmlBody code httpStatus) := by
  unfold returnNoAuthWithReason
  split
  · apply Decided.denied
  · split
    · split <;> apply Decided.denied
    · apply Decided.denied

/-- A denial of the scope check is one that carries only its content type. -/
theorem decided_of_checkOauth2ScopePermission
    (h : checkOauth2ScopePermission env req = .ok (some response)) :
    Decided env req isInternal response := by
  unfold checkOauth2ScopePermission at h
  obtain ⟨permitted, -, hrest⟩ := bind_eq_ok h
  split at hrest
  · cases hrest
  · split at hrest
    · cases hrest
    · cases hrest
      apply decided_returnNoAuthWithReason

/-- What the server answers once it knows the user of the request. -/
theorem decided_decideForUser {requestPath : String} {user : Option RequestUser}
    (huser : ∀ u, user = some u → req.user = .ok (some u))
    (h : decideForUser env req requestPath isInternal user = .ok response) :
    Decided env req isInternal response := by
  unfold decideForUser at h
  split at h
  · cases h
    apply decided_returnNoAuthWithReason
  · rename_i hinternal
    have guard : isInternal = true → req.auth = .text serviceTokenAuthString := by
      intro hi
      by_contra hauth
      exact hinternal ⟨hi, hauth⟩
    split at h
    · cases h
      exact .passed guard
    · cases user with
      | none =>
          cases h
          exact .passed guard
      | some u =>
          simp only at h
          split at h
          · cases h
            exact .passed guard
          · rename_i hpk
            obtain ⟨scope, hscope, hrest⟩ := bind_eq_ok h
            cases scope with
            | some denial =>
                cases hrest
                exact decided_of_checkOauth2ScopePermission hscope
            | none =>
                obtain ⟨name, -, hrest⟩ := bind_eq_ok hrest
                obtain ⟨jwt, hjwt, hrest⟩ := bind_eq_ok hrest
                cases hrest
                -- The key is present, since an absent one counts as zero.
                cases hkey : u.pk with
                | none => exact absurd (by rw [hkey]; rfl) hpk
                | some pk =>
                    have hne : pk ≠ 0 := by
                      intro hzero
                      exact hpk (by rw [hkey, hzero]; rfl)
                    exact .issued guard (huser u rfl) hkey hne hscope hjwt

/-- What the server answers to a request it tries to authenticate. -/
theorem decided_tryAuthenticateRequest {requestPath : String} {rejectFailedBasicAuth : Bool}
    (h : tryAuthenticateRequest env req requestPath isInternal rejectFailedBasicAuth =
      .ok response) :
    Decided env req isInternal response := by
  unfold tryAuthenticateRequest at h
  split at h
  · rename_i user huser
    refine decided_decideForUser ?_ h
    rintro u rfl
    exact huser
  · split at h
    · cases h
      apply decided_returnNoAuthWithReason
    · refine decided_decideForUser ?_ h
      intro u hu
      cases hu
  · cases h

/-- Every answer of the server: the route or the path asks for no authentication, or the answer
is the outcome of an authentication attempt. -/
theorem check_spec {ce : ContextExtensions} {http : HttpRequest}
    (h : check env ce http = .ok response) :
    ∃ req, env.getDrfRequest http = .ok req ∧
      ((getItem ce "auth_type" = authTypeNone ∨ isOidcPublicPath http.path = true) ∧
          response = returnNoAuthenticationRequired env [] ∨
        Decided env req (isRouteInternal ce) response) := by
  unfold check at h
  obtain ⟨req, hreq, hrest⟩ := bind_eq_ok h
  refine ⟨req, hreq, ?_⟩
  dsimp only at hrest
  split at hrest
  · rename_i hnone
    cases hrest
    exact Or.inl ⟨Or.inl hnone, rfl⟩
  · split at hrest
    · rename_i hoidc
      cases hrest
      exact Or.inl ⟨Or.inr hoidc, rfl⟩
    · right
      split at hrest
      · rename_i hgateway
        cases hrest
        refine .passed fun hinternal => ?_
        simp [hinternal] at hgateway
      · split at hrest
        · -- A failed CSRF check raises out of the attempt and is answered with its page.
          obtain ⟨page, -, hpage⟩ := bind_eq_ok hrest
          cases hpage
          apply decided_returnNoAuthWithReason
        · exact decided_tryAuthenticateRequest hrest

/-- The trusted proxy header is the only header the server appends to those it collected. -/
theorem mem_addTrustedProxyHeader {headers : List Header} {h : Header}
    (hmem : h ∈ addTrustedProxyHeader env headers) :
    h ∈ headers ∨ ∃ signature, h.value = .trustedProxy signature := by
  unfold addTrustedProxyHeader at hmem
  split at hmem
  · rename_i signature _
    rcases List.mem_append.mp hmem with hold | hnew
    · exact Or.inl hold
    · rw [List.mem_singleton.mp hnew]
      exact Or.inr ⟨signature, rfl⟩
  · exact Or.inl hmem

/-- An anonymous pass carries no token. -/
theorem not_carriesGatewayToken_returnNoAuthenticationRequired :
    ¬ (returnNoAuthenticationRequired env []).CarriesGatewayToken := by
  rintro ⟨h, hmem, jwt, hjwt⟩
  rcases mem_addTrustedProxyHeader hmem with hold | ⟨signature, hsignature⟩
  · exact absurd hold List.not_mem_nil
  · rw [hsignature] at hjwt
    cases hjwt

/-- On an internal route a request only passes an authentication attempt as a service. -/
theorem Decided.auth_of_isOk (h : Decided env req true response) (hok : response.isOk = true) :
    req.auth = .text serviceTokenAuthString := by
  cases h with
  | denied => cases hok
  | passed guard => exact guard rfl
  | issued guard => exact guard rfl

/-- The declared choices of `auth_type` all ask for authentication. -/
theorem authType_ne_none {T : Type} {c : ServiceCluster T} (h : c.AuthTypeDeclared) :
    c.authType ≠ authTypeNone := by
  obtain ⟨choice, hchoice⟩ := h
  rw [hchoice]
  cases choice <;> decide

/-- Internal routes are guarded end to end, and tokens are only given to authenticated users.

Every entry an internal route with gateway authentication compiles to runs the authorization
check, and decoding the entry's own context extensions lets a request pass only as a service
token or on a public path of the OIDC flow. On any route, an answer that carries a token was
given for an authenticated user with a primary key that the scope check did not deny, and a
denial carries neither a token nor the trusted proxy header. -/
theorem check_guards_internal_routes_and_tokens (env : ServerEnv) :
    (∀ (t : Tables) (r : RouteInstance) (gw : GatewayClusterArg) (e : RouteEntry),
      r.isInternalRoute = true → r.enableGatewayAuth = true →
      r.serviceCluster.AuthTypeDeclared → e ∈ r.getXdsRouteConfig t gw →
      ∃ ce, e.extAuthz = some (.checkSettings ce) ∧
        ∀ (http : HttpRequest) (response : CheckResponse),
          e.pathMatch.matches http.path = true → check env ce http = .ok response →
          response.isOk = true →
          (∃ req, env.getDrfRequest http = .ok req ∧ req.auth = .text serviceTokenAuthString) ∨
            isOidcPublicPath http.path = true) ∧
    (∀ (ce : ContextExtensions) (http : HttpRequest) (response : CheckResponse),
      check env ce http = .ok response →
      (response.isOk = true → response.CarriesGatewayToken →
        ∃ req user pk, env.getDrfRequest http = .ok req ∧ req.user = .ok (some user) ∧
          user.pk = some pk ∧ checkOauth2ScopePermission env req = .ok none) ∧
      (response.isOk = false →
        ¬ response.CarriesGatewayToken ∧
          ∀ h ∈ response.headers, h.key ≠ "x-trusted-proxy" ∧
            ∀ signature, h.value ≠ .trustedProxy signature)) := by
  constructor
  · intro t r gw e hinternal hauth hdeclared he
    obtain ⟨ce, hce, hflag, htype⟩ := Route.contextExtensions_of_mem_getXdsRouteConfig he hauth
    refine ⟨ce, hce, ?_⟩
    intro http response _ hcheck hok
    have hroute : isRouteInternal ce = true := by
      simp [isRouteInternal, getItem, hflag, Route.isInternalRouteString, hinternal]
    obtain ⟨req, hreq, ⟨hopen, -⟩ | hdecided⟩ := check_spec hcheck
    · rcases hopen with hnone | hoidc
      · -- The entry states the cluster's own `auth_type`, which is never `NONE`.
        rw [getItem, htype] at hnone
        exact absurd hnone (authType_ne_none hdeclared)
      · exact Or.inr hoidc
    · rw [hroute] at hdecided
      exact Or.inl ⟨req, hreq, hdecided.auth_of_isOk hok⟩
  · intro ce http response hcheck
    -- The answer that asks for no authentication carries no token.
    obtain ⟨req, hreq, ⟨-, rfl⟩ | hdecided⟩ := check_spec hcheck
    · refine ⟨fun _ htoken => ?_, fun hdenied => by cases hdenied⟩
      exact absurd htoken not_carriesGatewayToken_returnNoAuthenticationRequired
    · cases hdecided with
      | denied code message httpStatus value body =>
          refine ⟨(by intro hok; cases hok), fun _ => ⟨?_, ?_⟩⟩
          · rintro ⟨h, hmem, jwt, hjwt⟩
            rw [List.mem_singleton.mp hmem] at hjwt
            cases hjwt
          · intro h hmem
            rw [List.mem_singleton.mp hmem]
            exact ⟨by simp, fun signature => by simp⟩
      | passed _ =>
          refine ⟨fun _ htoken => ?_, fun hdenied => by cases hdenied⟩
          exact absurd htoken not_carriesGatewayToken_returnNoAuthenticationRequired
      | issued _ authenticated hasPk _ permitted _ =>
          exact ⟨fun _ _ => ⟨req, _, _, hreq, authenticated, hasPk, permitted⟩,
            fun hdenied => by cases hdenied⟩

/-- A server whose requests carry a service token when their `authorization` header says so. -/
def serviceTokenServer : ServerEnv where
  getDrfRequest http :=
    .ok { method := http.method
          httpAccept := ""
          httpAuthorization := (http.headers.lookup "authorization").getD ""
          user := .ok (some ⟨some 7, "_service"⟩)
          auth := if http.headers.lookup "authorization" = some "service" then
            .text serviceTokenAuthString else .none }
  hasPermission _ := .ok true
  gatewayTokenName := .ok "X-DAB-JW-TOKEN"
  cachedJwt _ := none
  createSignedJwt user := .ok ("jwt-of-" ++ user.username)
  generateXTrustedProxyHeader := .ok "signature"
  csrfFailure _ _ := .ok "<html></html>"

/-- An internal route of a controller cluster. -/
def internalControllerRoute : RouteInstance where
  pk := 4
  name := "controller internal"
  httpPort := 1
  serviceCluster :=
    { pk := 2, name := "controller", serviceId := none,
      serviceType := ⟨3, "controller", none, some "/login/", some "/logout/", none⟩ }
  servicePort := 8043
  isServiceHttps := true
  servicePath := "/api/"
  gatewayPath := "/api/controller/"
  isInternalRoute := true
  envoyClusterName := "cluster-2-8043-nodes:*"

/-- A service request to `internalControllerRoute`. -/
def serviceRequest : HttpRequest where
  method := "GET"
  path := "/api/controller/v2/me/"
  headers := [("authorization", "service")]
  rawBody := []

/-- The guard at work: the service request passes the main entry with a token. -/
theorem serviceRequest_passes_internalControllerRoute :
    (∃ req, serviceTokenServer.getDrfRequest serviceRequest = .ok req ∧
        req.auth = .text serviceTokenAuthString) ∧
      ∃ response, check serviceTokenServer internalControllerRoute.mainContextExtensions
          serviceRequest = .ok response ∧
        response.CarriesGatewayToken ∧
        ∃ req user pk, serviceTokenServer.getDrfRequest serviceRequest = .ok req ∧
          req.user = .ok (some user) ∧ user.pk = some pk ∧
          checkOauth2ScopePermission serviceTokenServer req = .ok none := by
  obtain ⟨hguard, hissued⟩ := check_guards_internal_routes_and_tokens serviceTokenServer
  have hcheck : check serviceTokenServer internalControllerRoute.mainContextExtensions
      serviceRequest = .ok (.okResponse
        [⟨"X-DAB-JW-TOKEN", .gatewayToken "jwt-of-_service"⟩,
         ⟨"x-trusted-proxy", .trustedProxy "signature"⟩] ["Authorization"]) := rfl
  have htoken : (CheckResponse.okResponse
      [⟨"X-DAB-JW-TOKEN", .gatewayToken "jwt-of-_service"⟩,
       ⟨"x-trusted-proxy", .trustedProxy "signature"⟩] ["Authorization"]).CarriesGatewayToken :=
    ⟨_, List.mem_cons_self, "jwt-of-_service", rfl⟩
  constructor
  · obtain ⟨ce, hce, hentry⟩ := hguard {} internalControllerRoute (some (some "gw"))
      (internalControllerRoute.mainEntry {}) rfl rfl ⟨.jwtAuth, rfl⟩ (by decide)
    cases hce
    rcases hentry serviceRequest _ (by decide) hcheck rfl with hservice | hoidc
    · exact hservice
    · exact absurd hoidc (by decide)
  · exact ⟨_, hcheck, htoken, (hissued _ _ _ hcheck).1 rfl htoken⟩

end AapGateway.Proxy
