import AapGateway.Models.Database
import AapGateway.Foundations.JsonDict

/-!
# Requests to all services

`AllServicesClient` sends one request to every downstream service, each from a thread of its own.
When the caller waits, the answers are collected in the order in which they come in; a callback may
see each of them. A request that times out raises there, any other failure counts as no answer. When
the caller does not wait, nothing is collected and no failure gets out of a thread.

What `requests.request` does with a call is a parameter. Logging is left out.

## Main definitions

* `getServices`: the downstream services;
* `makeServiceRequest`: the request to one service;
* `makeSynchronousRequest` and `asyncWorker`: what is done with its outcome.

## Main results

* `mem_getServices`: which services are called;
* `makeSynchronousRequest_perm`: what a caller who waits gets does not depend on the order of the
  answers.
-/

namespace AapGateway.Resources

/-- The parts of a response that the client reads. -/
structure Response where
  statusCode : ℕ
  text : String
  deriving DecidableEq, Repr

/-- A call of `requests.request`. -/
structure Call where
  method : String
  url : String
  /-- The name and the value of the one header. -/
  header : String × String
  /-- The timeouts for the connection and for reading. -/
  timeout : Option (ℕ × ℕ)
  verify : Bool
  json : Option (Dict Json)
  params : Option (Dict Json)

/-- What a call does. -/
inductive Outcome where
  | response (r : Response)
  /-- `Timeout`. -/
  | timeout
  | raised (description : String)
  deriving DecidableEq, Repr

/-- What a request of the client raises. -/
inductive ClientError where
  | timeout
  | other (description : String)
  deriving DecidableEq, Repr

/-- The settings of a client and of the host it calls. -/
structure AllServicesClient where
  envoyHostname : String
  headerName : String
  readTimeout : ℕ
  verifyHttps : Bool
  waitForResponse : Bool
  /-- `service_filter`. -/
  serviceFilter : RouteInstance → Bool := fun _ => true

/-- A request to be sent to every service. -/
structure ServicesRequest where
  method : String
  path : String
  data : Option (Dict Json) := none
  params : Option (Dict Json) := none

/-- A class of row that is a service API. -/
def isServiceAPIRoute {C : Type} (r : Route C) : Bool :=
  match r.kind with
  | .serviceAPIRoute _ => true
  | _ => false

/-- `_get_services`: the services but the gateway and those without a service index. -/
def AllServicesClient.getServices (client : AllServicesClient) (t : Tables) : List RouteInstance :=
  ((t.routes.filter isServiceAPIRoute).filterMap t.resolveRoute).filter fun r =>
    r.serviceCluster.serviceType.name ≠ DefaultServiceType.gateway.value &&
      r.serviceCluster.serviceType.serviceIndexPath ≠ none &&
      r.serviceCluster.serviceType.serviceIndexPath ≠ some "" && client.serviceFilter r

/-- `s.strip('/')`. -/
def stripSlashes (s : String) : String :=
  String.ofList ((s.toList.dropWhile (· = '/')).rdropWhile (· = '/'))

/-- `get_url_for_service`, with the port of the service. -/
def AllServicesClient.getUrlForService (client : AllServicesClient) (p : HTTPPort)
    (r : RouteInstance) : String :=
  (if p.useHttps then "https" else "http") ++ "://" ++ client.envoyHostname ++ ":" ++
    p.number.repr ++ "/" ++ stripSlashes r.gatewayPath ++ "/" ++
    stripSlashes (r.serviceCluster.serviceType.serviceIndexPath.getD "") ++ "/"

/-- A dictionary that is given and not empty. -/
def truthy (d : Option (Dict Json)) : Option (Dict Json) :=
  d.filter fun d => !d.items.isEmpty

/-- The call for one service. -/
def AllServicesClient.call (client : AllServicesClient) (p : HTTPPort) (r : RouteInstance)
    (req : ServicesRequest) (jwt : String) : Call where
  method := req.method
  url := client.getUrlForService p r ++
    String.ofList (req.path.toList.dropWhile (· = '/'))
  header := (client.headerName, jwt)
  timeout := if client.waitForResponse then none else some (5, client.readTimeout)
  verify := client.verifyHttps
  json := truthy req.data
  params := truthy req.params

/-- `_make_service_request`: a timeout is only raised to a caller who waits. -/
def makeServiceRequest (waitForResponse : Bool) : Outcome → Except ClientError (Option Response)
  | .response r => .ok (some r)
  | .timeout => if waitForResponse then .error .timeout else .ok none
  | .raised description => .error (.other description)

/-- The responses by service. -/
abbrev Responses := ℕ → Option (Option Response)

/-- A callback, which may raise. -/
abbrev Callback := RouteInstance → Option Response → Except ClientError Unit

/-- The answer of a service that goes into the responses. -/
def collected : Except ClientError (Option Response) → Except ClientError (Option Response)
  | .ok response => .ok response
  | .error .timeout => .error .timeout
  | .error (.other _) => .ok none

/-- The callback sees the answer of a service. -/
def runCallback (callback : Option Callback) (service : RouteInstance)
    (response : Option Response) : Except ClientError Unit :=
  match callback with
  | some f => f service response
  | none => .ok ()

/-- The body of the loop over the futures that are done. -/
def collect (outcome : RouteInstance → Outcome) (callback : Option Callback)
    (responses : Responses) (service : RouteInstance) : Except ClientError Responses := do
  let response ← collected (makeServiceRequest true (outcome service))
  runCallback callback service response
  return Function.update responses service.pk (some response)

/-- `_make_synchronous_request`, with the services in the order in which they answer. -/
def makeSynchronousRequest (outcome : RouteInstance → Outcome) (callback : Option Callback)
    (done : List RouteInstance) : Except ClientError Responses :=
  done.foldlM (collect outcome callback) fun _ => none

/-- `_async_worker`: the response that the callback is called with. Whatever happens, it is called
once, and what it raises is logged. -/
def asyncWorker (outcome : RouteInstance → Outcome) (service : RouteInstance) :
    RouteInstance × Option Response :=
  match makeServiceRequest false (outcome service) with
  | .ok response => (service, response)
  | .error _ => (service, none)

section Services

variable {client : AllServicesClient} {t : Tables} {ri : RouteInstance}

/-- The services that are called. -/
theorem mem_getServices : ri ∈ client.getServices t ↔
    (∃ r ∈ t.routes, isServiceAPIRoute r = true ∧ t.resolveRoute r = some ri) ∧
      ri.serviceCluster.serviceType.name ≠ DefaultServiceType.gateway.value ∧
      (∃ path, ri.serviceCluster.serviceType.serviceIndexPath = some path ∧ path ≠ "") ∧
      client.serviceFilter ri = true := by
  rw [AllServicesClient.getServices, List.mem_filter, List.mem_filterMap]
  simp only [List.mem_filter, Bool.and_eq_true, decide_eq_true_eq, ne_eq, and_assoc]
  constructor
  · rintro ⟨⟨r, hr, hkind, hresolve⟩, hname, hnone, hempty, hfilter⟩
    refine ⟨⟨r, hr, hkind, hresolve⟩, hname, ?_, hfilter⟩
    obtain ⟨path, hpath⟩ := Option.ne_none_iff_exists'.mp hnone
    refine ⟨path, hpath, ?_⟩
    rintro rfl
    exact hempty hpath
  · rintro ⟨⟨r, hr, hkind, hresolve⟩, hname, ⟨path, hpath, hne⟩, hfilter⟩
    refine ⟨⟨r, hr, hkind, hresolve⟩, hname, ?_, ?_, hfilter⟩
    · simp [hpath]
    · rw [hpath]
      exact fun hsome => hne (Option.some.inj hsome)

/-- Services have different keys. -/
theorem nodup_pk_getServices (client : AllServicesClient) (db : Database) :
    ((client.getServices db.toTables).map Route.pk).Nodup := by
  have hrows : (db.routes.map Route.pk).Nodup := db.integrity.1.2.2.2.2.2.2.2.2.2.2.2.1
  have hsub : ((client.getServices db.toTables).map Route.pk).Sublist (db.routes.map Route.pk) := by
    have hfilter : ((client.getServices db.toTables).map Route.pk).Sublist
        (((db.routes.filter isServiceAPIRoute).filterMap db.resolveRoute).map Route.pk) :=
      (List.filter_sublist).map Route.pk
    refine hfilter.trans ?_
    have hresolved : ∀ rows : List (Route ℕ),
        ((rows.filterMap db.resolveRoute).map Route.pk).Sublist (rows.map Route.pk) := by
      intro rows
      -- A route that is resolved keeps its key, and one that is not is left out.
      induction rows with
      | nil => exact List.Sublist.slnil
      | cons r rows ih =>
          rcases hresolve : db.resolveRoute r with _ | ri
          · rw [List.filterMap_cons_none hresolve]
            exact ih.cons _
          · rw [List.filterMap_cons_some hresolve, List.map_cons, List.map_cons]
            obtain ⟨c, -, rfl⟩ := Option.map_eq_some_iff.mp hresolve
            exact ih.cons_cons _
    exact (hresolved _).trans ((List.filter_sublist).map Route.pk)
  exact hrows.sublist hsub

end Services

section Synchronous

variable {outcome : RouteInstance → Outcome} {callback : Option Callback}

/-- The answer of a service, if it is not a timeout. -/
def answerOf : Outcome → Option (Option Response)
  | .response r => some (some r)
  | .timeout => none
  | .raised _ => some none

/-- A service lets the loop go on: it has not timed out, and the callback has not raised. -/
def Proceeds (outcome : RouteInstance → Outcome) (callback : Option Callback)
    (service : RouteInstance) : Prop :=
  ∃ response, answerOf (outcome service) = some response ∧
    runCallback callback service response = .ok ()

/-- A computation goes on after a step that succeeds. -/
theorem ok_bind {ε α β : Type} (a : α) (f : α → Except ε β) : (Except.ok a >>= f) = f a :=
  rfl

/-- What is collected of an outcome. -/
theorem collected_eq_ok_iff {o : Outcome} {response : Option Response} :
    collected (makeServiceRequest true o) = .ok response ↔ answerOf o = some response := by
  rcases o with r | _ | description
  · simp [makeServiceRequest, collected, answerOf]
  · simp [makeServiceRequest, collected, answerOf]
  · simp [makeServiceRequest, collected, answerOf]

/-- One turn of the loop. -/
theorem collect_eq_ok_iff {responses responses' : Responses} {service : RouteInstance} :
    collect outcome callback responses service = .ok responses' ↔
      Proceeds outcome callback service ∧
        responses' = Function.update responses service.pk (answerOf (outcome service)) := by
  rw [collect]
  constructor
  · intro h
    rcases hanswer : collected (makeServiceRequest true (outcome service)) with e | response
    · rw [hanswer] at h
      cases h
    · rw [hanswer] at h
      rcases hcallback : runCallback callback service response with e | u
      · rw [ok_bind, hcallback] at h
        cases h
      · rw [ok_bind, hcallback] at h
        rw [collected_eq_ok_iff] at hanswer
        rw [hanswer]
        exact ⟨⟨response, hanswer, hcallback⟩, (Except.ok.inj h).symm⟩
  · rintro ⟨⟨response, hanswer, hcallback⟩, rfl⟩
    rw [collected_eq_ok_iff.mpr hanswer, hanswer, ok_bind, hcallback]
    rfl

/-- The loop succeeds if every service lets it go on. Then each of them has its answer, and nothing
else has been collected. -/
theorem foldlM_collect_eq_ok_iff {done : List RouteInstance} {responses responses' : Responses}
    (hpk : (done.map Route.pk).Nodup) :
    done.foldlM (collect outcome callback) responses = .ok responses' ↔
      (∀ service ∈ done, Proceeds outcome callback service) ∧
        (∀ service ∈ done, responses' service.pk = answerOf (outcome service)) ∧
        ∀ pk ∉ done.map Route.pk, responses' pk = responses pk := by
  induction done generalizing responses with
  | nil =>
      rw [List.foldlM_nil]
      constructor
      · intro h
        cases h
        simp
      · rintro ⟨-, -, hrest⟩
        exact congrArg Except.ok (funext fun pk => (hrest pk (by simp)).symm)
  | cons service done ih =>
      rw [List.map_cons, List.nodup_cons] at hpk
      rw [List.foldlM_cons]
      constructor
      · intro h
        rcases hturn : collect outcome callback responses service with e | responses₁
        · rw [hturn] at h
          cases h
        · rw [hturn, ok_bind] at h
          obtain ⟨hproceeds, rfl⟩ := collect_eq_ok_iff.mp hturn
          obtain ⟨hall, hanswers, hrest⟩ := (ih hpk.2).mp h
          refine ⟨?_, ?_, ?_⟩
          · intro s hs
            rcases List.mem_cons.mp hs with rfl | hs
            · exact hproceeds
            · exact hall s hs
          · intro s hs
            rcases List.mem_cons.mp hs with rfl | hs
            · -- The later services have other keys.
              rw [hrest _ hpk.1, Function.update_self]
            · exact hanswers s hs
          · intro pk hne
            rw [List.map_cons, List.mem_cons, not_or] at hne
            rw [hrest pk hne.2, Function.update_of_ne hne.1]
      · rintro ⟨hall, hanswers, hrest⟩
        have hturn := collect_eq_ok_iff.mpr ⟨hall service List.mem_cons_self,
          (rfl : Function.update responses service.pk (answerOf (outcome service)) = _)⟩
        rw [hturn, ok_bind]
        apply (ih hpk.2).mpr
        refine ⟨fun s hs => hall s (List.mem_cons_of_mem _ hs),
          fun s hs => hanswers s (List.mem_cons_of_mem _ hs), ?_⟩
        intro pk hne
        by_cases hself : pk = service.pk
        · rw [hself, Function.update_self]
          exact hanswers service List.mem_cons_self
        · rw [Function.update_of_ne hself]
          apply hrest
          rw [List.map_cons, List.mem_cons, not_or]
          exact ⟨hself, hne⟩

/-- The answers of services, by their keys. -/
def responsesOf (outcome : RouteInstance → Outcome) (services : List RouteInstance) : Responses :=
  fun pk => (services.find? (·.pk = pk)).bind fun service => answerOf (outcome service)

/-- The answers, one by one. -/
theorem eq_responsesOf_iff {services : List RouteInstance} {responses : Responses}
    (hpk : (services.map Route.pk).Nodup) :
    responses = responsesOf outcome services ↔
      (∀ service ∈ services, responses service.pk = answerOf (outcome service)) ∧
        ∀ pk ∉ services.map Route.pk, responses pk = none := by
  have hfound : ∀ service ∈ services,
      responsesOf outcome services service.pk = answerOf (outcome service) := by
    intro service hservice
    rw [responsesOf]
    rcases hfind : services.find? (·.pk = service.pk) with _ | found
    · have hnone := List.find?_eq_none.mp hfind service hservice
      exact absurd rfl (of_decide_eq_false (Bool.eq_false_iff.mpr hnone))
    · have hkey : found.pk = service.pk := of_decide_eq_true (List.find?_some hfind :)
      rw [hfind, Option.bind_some,
        List.inj_on_of_nodup_map hpk (List.mem_of_find?_eq_some hfind) hservice hkey]
  have hmissing : ∀ pk ∉ services.map Route.pk, responsesOf outcome services pk = none := by
    intro pk hpk'
    rw [responsesOf, List.find?_eq_none.mpr]
    · rfl
    · intro service hservice hkey
      exact hpk' (List.mem_map.mpr ⟨service, hservice, of_decide_eq_true hkey⟩)
  constructor
  · rintro rfl
    exact ⟨hfound, hmissing⟩
  · rintro ⟨hanswers, hrest⟩
    funext pk
    by_cases hmem : pk ∈ services.map Route.pk
    · obtain ⟨service, hservice, rfl⟩ := List.mem_map.mp hmem
      rw [hanswers service hservice, hfound service hservice]
    · rw [hrest pk hmem, hmissing pk hmem]

/-- What a caller who waits gets is the answer or the failure of every service that is called, in
whatever order they answer. The request raises exactly if one of them times out or the callback
raises for one of them. -/
theorem makeSynchronousRequest_perm {client : AllServicesClient} {db : Database}
    {done : List RouteInstance} {responses : Responses}
    (hperm : done.Perm (client.getServices db.toTables)) :
    makeSynchronousRequest outcome callback done = .ok responses ↔
      (∀ service ∈ client.getServices db.toTables, Proceeds outcome callback service) ∧
        responses = responsesOf outcome (client.getServices db.toTables) := by
  have hservices := nodup_pk_getServices client db
  have hdone : (done.map Route.pk).Nodup := (hperm.map Route.pk).nodup_iff.mpr hservices
  rw [makeSynchronousRequest, foldlM_collect_eq_ok_iff hdone, eq_responsesOf_iff hservices]
  simp only [hperm.mem_iff, (hperm.map Route.pk).mem_iff]

end Synchronous

/-- A service of a type. -/
def sampleRoute (pk : ℕ) (name : String) : Route ℕ where
  pk := pk
  name := name
  kind := .serviceAPIRoute name
  httpPort := 1
  serviceCluster := pk
  servicePort := 8000
  isServiceHttps := true
  servicePath := "/api/" ++ name ++ "/"
  gatewayPath := "/api/" ++ name ++ "/"

/-- A controller and a hub. -/
def sampleDatabase : Database where
  serviceTypes := [⟨1, "controller", none, none, none, some "/service-index/"⟩,
    ⟨2, "hub", none, none, none, some "/service-index/"⟩]
  serviceClusters := [{ pk := 1, name := "controller", serviceType := 1, serviceId := none },
    { pk := 2, name := "hub", serviceType := 2, serviceId := none }]
  httpPorts := [{ pk := 1, name := "api", number := 443, isApiPort := true }]
  routes := [sampleRoute 1 "controller", sampleRoute 2 "hub"]
  integrity := by decide

/-- A client that waits. -/
def sampleClient : AllServicesClient where
  envoyHostname := "localhost"
  headerName := "X-DAB-JW-TOKEN"
  readTimeout := 10
  verifyHttps := true
  waitForResponse := true

/-- The hub fails, and the controller answers. -/
def hubFails (service : RouteInstance) : Outcome :=
  if service.name = "hub" then .raised "ConnectionError" else .response ⟨200, "{}"⟩

/-- The hub fails before the controller answers. -/
theorem makeSynchronousRequest_perm_hubFails :
    let services := sampleClient.getServices sampleDatabase.toTables
    services.reverse.Perm services ∧
      makeSynchronousRequest hubFails none services.reverse =
        .ok (responsesOf hubFails services) := by
  intro services
  have hperm : services.reverse.Perm services := List.reverse_perm services
  have hproceeds : ∀ service ∈ services, Proceeds hubFails none service := by
    intro service _
    rw [Proceeds, hubFails]
    split_ifs
    · exact ⟨none, rfl, rfl⟩
    · exact ⟨some ⟨200, "{}"⟩, rfl, rfl⟩
  exact ⟨hperm, (makeSynchronousRequest_perm hperm).mpr ⟨hproceeds, rfl⟩⟩

end AapGateway.Resources
