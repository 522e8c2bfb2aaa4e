import AapGateway.ServiceToken.Validation
import AapGateway.ServiceToken.MigrationLock

/-!
# Authentication with a service token

`ServiceTokenAuthentication` reads the token from a header, refuses it while the migration is not
complete, validates it, and then decides from the path and the method of the request whether the
user of the token may be authenticated in this way. The paths of views come from `reverse` and are a
parameter; a view that has no path is skipped.

A request is authenticated by the first class that returns a user. The settings name basic
authentication before the service tokens, and other packages put their classes for sessions and
access tokens in front. All of them are a parameter; what is used of them is that they do not give a
request the mark of service tokens.

## Main definitions

* `authenticate`: `ServiceTokenAuthentication.authenticate`;
* `isUserAuthorized`: the paths and methods that service tokens are for;
* `authenticateRequest`: the classes of the REST framework in their order.

## Main results

* `authenticate_eq_some_iff`: when a service token authenticates a request;
* `authenticateRequest_serviceToken_iff`: when a request bears the mark of service tokens.
-/

namespace AapGateway.ServiceToken

/-- What an HTTP request shows to the authentication. -/
structure ClientHttpRequest where
  path : String
  /-- The method in lower case. -/
  method : String
  /-- The header `X-ANSIBLE-SERVICE-AUTH`. -/
  serviceAuth : Option String
  /-- The header `Authorization`. -/
  authorization : Option String
  /-- The session cookie. -/
  session : Option String
  deriving DecidableEq, Repr

/-- A view, the arguments of its path, and the methods that are allowed. -/
structure AuthorizedPath where
  viewName : String
  kwargs : List (String × String)
  methods : List String
  deriving DecidableEq, Repr

/-- `authorized_paths`. -/
def authorizedPaths : List AuthorizedPath :=
  [⟨"setting-section-list", [("category_slug", "analytics")], ["get"]⟩,
    ⟨"roleuserassignment-list", [], ["get"]⟩,
    ⟨"authenticator-list", [], ["get", "post", "patch"]⟩,
    ⟨"authenticatormap-list", [], ["get", "post", "patch"]⟩,
    ⟨"setting-section-list", [("category_slug", "all")], ["get", "put"]⟩,
    ⟨"ca_certificate-list", [], ["get", "post", "delete", "patch"]⟩,
    ⟨"workload-identity-tokens-view", [], ["post"]⟩]

/-- `allowed_actions` of the resource registry. -/
def registryActions : List String :=
  ["list", "retrieve", "service-metadata", "manifest", "create", "update", "destroy", "assign",
    "unassign", "bulk_assign", "bulk_unassign"]

/-- `SERVICE_TOKEN_AUTH_STRING`. -/
def serviceTokenAuthString : String := "ServiceTokenAuthentication"

/-- `request.auth`. -/
inductive RequestAuth where
  | absent
  | text (mark : String)
  /-- Any other object, such as an access token. -/
  | object
  deriving DecidableEq, Repr

/-- An authenticated request. -/
structure AuthenticatedRequest where
  user : TokenUser
  /-- `request.auth`. -/
  auth : RequestAuth
  /-- `user.resource_api_actions`, where it is set. -/
  resourceApiActions : Option (List String)
  /-- `request.service_cluster`, where it is set. -/
  serviceCluster : Option (ServiceCluster ServiceType)
  deriving DecidableEq

/-- How an authentication fails. -/
inductive AuthenticationError where
  /-- `MigrateDataNotCompleteError`, with status 423. -/
  | locked
  /-- `AuthenticationFailed`. -/
  | failed (detail : String)
  /-- An exception that is not handled. -/
  | raised
  deriving DecidableEq, Repr

/-- An authentication class of the REST framework: it returns a user, leaves the request alone, or
fails. -/
abbrev AuthenticationClass :=
  ClientHttpRequest → Except AuthenticationError (Option AuthenticatedRequest)

/-- What the authentication reads besides the request. -/
structure AuthenticationEnv extends TokenEnv where
  /-- `get_relative_url(view_name, kwargs)`, `none` for `NoReverseMatch`. -/
  reverse : String → List (String × String) → Option String
  /-- `get_relative_url("service-index-root")`. -/
  serviceIndexRoot : String
  /-- The classes in front of `ServiceTokenAuthentication`, with `LoggedBasicAuthentication`. -/
  classesBefore : List AuthenticationClass
  /-- The classes after it. -/
  classesAfter : List AuthenticationClass

section Authenticate

variable (env : AuthenticationEnv)

/-- A path of the list covers the request. -/
def AuthorizedPath.covers (p : AuthorizedPath) (req : ClientHttpRequest) : Bool :=
  (env.reverse p.viewName p.kwargs).any fun url =>
    Text.startsWith req.path url && req.method ∈ p.methods

/-- `is_user_authorized`: the actions that the user gets, if the request is authorized. -/
def isUserAuthorized (req : ClientHttpRequest) : Option (Option (List String)) :=
  if Text.startsWith req.path env.serviceIndexRoot then some (some registryActions)
  else if Text.startsWith req.path "/api/gateway/v1/jwt_claims/" ∧ req.method = "get" then
    some (some ["retrieve"])
  else if authorizedPaths.any (·.covers env req) then some none
  else none

/-- `authenticate`, with the database and the cooldown afterwards. A token that is not valid leaves
the request to the next class. -/
def authenticate (completed : Bool) (cooldown : Dict ℚ) (db : Database) (req : ClientHttpRequest) :
    Except AuthenticationError (Option AuthenticatedRequest) × Database × Dict ℚ :=
  match req.serviceAuth with
  | none => (.ok none, db, cooldown)
  | some token =>
    if completed = false then (.error .locked, db, cooldown)
    else
      match validateServiceToken env.toTokenEnv cooldown db token none with
      | (.error .raised, db', cooldown') => (.error .raised, db', cooldown')
      | (.error _, db', cooldown') => (.ok none, db', cooldown')
      | (.ok data, db', cooldown') =>
        match isUserAuthorized env req with
        | none => (.ok none, db', cooldown')
        | some actions =>
          (.ok (some
            { user := data.user
              auth := .text serviceTokenAuthString
              resourceApiActions := actions
              serviceCluster := some data.serviceCluster }), db', cooldown')

/-- `Request._authenticate`: the first class that does not leave the request alone decides. -/
def firstAnswer (req : ClientHttpRequest) :
    List AuthenticationClass → Except AuthenticationError (Option AuthenticatedRequest)
  | [] => .ok none
  | cls :: classes =>
    match cls req with
    | .ok none => firstAnswer req classes
    | answer => answer

/-- The classes of `DEFAULT_AUTHENTICATION_CLASSES`. -/
def authenticateRequest (completed : Bool) (cooldown : Dict ℚ) (db : Database)
    (req : ClientHttpRequest) : Except AuthenticationError (Option AuthenticatedRequest) :=
  firstAnswer req
    (env.classesBefore ++
      (fun req => (authenticate env completed cooldown db req).1) :: env.classesAfter)

/-- No other class gives a request the mark of service tokens. -/
def AuthenticationEnv.OthersUnmarked : Prop :=
  ∀ cls ∈ env.classesBefore ++ env.classesAfter, ∀ req a, cls req = .ok (some a) →
    a.auth ≠ .text serviceTokenAuthString

end Authenticate

section Inversion

variable {env : AuthenticationEnv} {completed : Bool} {cooldown : Dict ℚ} {db : Database}
  {req : ClientHttpRequest} {a : AuthenticatedRequest}

/-- What a service token that authenticates a request has passed. -/
structure Authenticates (env : AuthenticationEnv) (completed : Bool) (cooldown : Dict ℚ)
    (db : Database) (req : ClientHttpRequest) (a : AuthenticatedRequest) (token : String)
    (data : ValidatedToken) : Prop where
  header : req.serviceAuth = some token
  unlocked : completed = true
  valid : (validateServiceToken env.toTokenEnv cooldown db token none).1 = .ok data
  authorized : isUserAuthorized env req = some a.resourceApiActions
  user : a.user = data.user
  auth : a.auth = .text serviceTokenAuthString
  serviceCluster : a.serviceCluster = some data.serviceCluster

/-- When a service token authenticates a request. -/
theorem authenticate_eq_some_iff :
    (authenticate env completed cooldown db req).1 = .ok (some a) ↔
      ∃ token data, Authenticates env completed cooldown db req a token data := by
  rw [authenticate]
  cases hheader : req.serviceAuth with
  | none =>
      refine ⟨(fun h => by cases h), ?_⟩
      rintro ⟨token, data, hauth⟩
      rw [hauth.header] at hheader
      cases hheader
  | some token =>
      cases completed with
      | false =>
          refine ⟨(fun h => by cases h), ?_⟩
          rintro ⟨token', data, hauth⟩
          exact absurd hauth.unlocked Bool.false_ne_true
      | true =>
          dsimp only
          rw [if_neg Bool.noConfusion]
          constructor
          · intro h
            split at h
            · cases h
            · cases h
            · rename_i data db' cooldown' hvalid
              split at h
              · cases h
              · rename_i actions hactions
                cases h
                exact ⟨token, data, hheader, rfl, congrArg Prod.fst hvalid, hactions, rfl, rfl, rfl⟩
          · rintro ⟨token', data, hauth⟩
            obtain rfl : token = token' := Option.some.inj (hheader.symm.trans hauth.header)
            rcases hresult : validateServiceToken env.toTokenEnv cooldown db token none with
              ⟨outcome, db', cooldown'⟩
            have hvalid := hauth.valid
            rw [hresult] at hvalid
            dsimp only at hvalid
            subst hvalid
            have hauthorized := hauth.authorized
            simp only [hauthorized]
            obtain ⟨user, auth, actions, cluster⟩ := a
            have huser : user = data.user := hauth.user
            have hstring : auth = .text serviceTokenAuthString := hauth.auth
            have hcluster : cluster = some data.serviceCluster := hauth.serviceCluster
            rw [huser, hstring, hcluster]

/-- Classes that leave the request alone do not count. -/
theorem firstAnswer_append (before classes : List AuthenticationClass)
    (h : ∀ cls ∈ before, cls req = .ok none) :
    firstAnswer req (before ++ classes) = firstAnswer req classes := by
  induction before with
  | nil => rfl
  | cons cls before ih =>
      obtain ⟨hcls, hbefore⟩ := List.forall_mem_cons.mp h
      rw [List.cons_append, firstAnswer, hcls]
      exact ih hbefore

/-- A class that does not leave the request alone decides, whatever comes after it. -/
theorem firstAnswer_append_of_exists {before : List AuthenticationClass}
    (classes : List AuthenticationClass) (h : ∃ cls ∈ before, cls req ≠ .ok none) :
    firstAnswer req (before ++ classes) = firstAnswer req before := by
  induction before with
  | nil => simp at h
  | cons cls before ih =>
      rw [List.cons_append, firstAnswer, firstAnswer]
      split
      · rename_i hcls
        refine ih ?_
        obtain ⟨cls', hmem, hne⟩ := h
        rcases List.mem_cons.mp hmem with rfl | hmem
        · exact absurd hcls hne
        · exact ⟨cls', hmem, hne⟩
      · rfl

/-- The answer is that of one of the classes. -/
theorem exists_of_firstAnswer {classes : List AuthenticationClass}
    (h : firstAnswer req classes = .ok (some a)) : ∃ cls ∈ classes, cls req = .ok (some a) := by
  induction classes with
  | nil => cases h
  | cons cls classes ih =>
      rw [firstAnswer] at h
      split at h
      · obtain ⟨cls', hmem, hcls'⟩ := ih h
        exact ⟨cls', List.mem_cons_of_mem _ hmem, hcls'⟩
      · exact ⟨cls, List.mem_cons_self, h⟩

/-- A request bears the mark of service tokens if no class in front takes it and a service token
authenticates it. -/
theorem authenticateRequest_serviceToken_iff (hothers : env.OthersUnmarked) :
    (authenticateRequest env completed cooldown db req = .ok (some a) ∧
        a.auth = .text serviceTokenAuthString) ↔
      (∀ cls ∈ env.classesBefore, cls req = .ok none) ∧
        ∃ token data, Authenticates env completed cooldown db req a token data := by
  have hunmarked : ∀ {classes : List AuthenticationClass},
      classes ⊆ env.classesBefore ++ env.classesAfter → firstAnswer req classes = .ok (some a) →
        a.auth ≠ .text serviceTokenAuthString := by
    intro classes hclasses hanswer
    obtain ⟨cls, hmem, hcls⟩ := exists_of_firstAnswer hanswer
    exact hothers cls (hclasses hmem) req a hcls
  rw [authenticateRequest, ← authenticate_eq_some_iff]
  by_cases hbefore : ∀ cls ∈ env.classesBefore, cls req = .ok none
  · rw [firstAnswer_append _ _ hbefore, firstAnswer]
    constructor
    · rintro ⟨hanswer, hmark⟩
      refine ⟨hbefore, ?_⟩
      split at hanswer
      · exact absurd hmark (hunmarked (List.subset_append_right _ _) hanswer)
      · exact hanswer
    · rintro ⟨-, hauthenticate⟩
      obtain ⟨token, data, hservice⟩ := authenticate_eq_some_iff.mp hauthenticate
      rw [hauthenticate]
      exact ⟨rfl, hservice.auth⟩
  · -- A class in front decides, and does not give the mark.
    have hexists : ∃ cls ∈ env.classesBefore, cls req ≠ .ok none := by
      simpa only [not_forall, exists_prop] using hbefore
    rw [firstAnswer_append_of_exists _ hexists]
    constructor
    · rintro ⟨hanswer, hmark⟩
      exact absurd hmark (hunmarked (List.subset_append_left _ _) hanswer)
    · rintro ⟨hnone, -⟩
      exact absurd hnone hbefore

end Inversion

end AapGateway.ServiceToken
