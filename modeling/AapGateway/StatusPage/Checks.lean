import AapGateway.Foundations.JsonDict
import AapGateway.Models.Database

/-!
# The status page

Every node of the services behind the gateway is asked for its status, and so is Redis. What a node
answers is kept as it is. The statuses of the nodes of a service are then counted into the status of
the service, and those of the services into the one of the platform. What a node says of itself
comes before the status of its answer.

## Main definitions

* `getServices`: the nodes that are asked;
* `checkNode`: what is kept of an answer;
* `Service.determineServiceStatus`: the status of a service by those of its nodes;
* `processStatuses` and `createResponse`: the status of the platform.
-/

namespace AapGateway.StatusPage

/-- `STATUS_GOOD`, `STATUS_DEGRADED` and `STATUS_FAILED`. -/
inductive Status where
  | good
  | degraded
  | failed
  deriving DecidableEq, Repr

/-- The text of a status. -/
def Status.value : Status → String
  | .good => "good"
  | .degraded => "degraded"
  | .failed => "failed"

/-- The status of a service that is still to be determined. -/
def unknown : Json := .str "Unknown"

/-! ## The checks -/

/-- `ServiceCheck`, before there is a response. -/
structure ServiceCheck where
  serviceName : String
  serviceType : String
  nodeId : String
  url : String
  timeout : ℤ
  verify : Bool
  deriving DecidableEq, Repr

/-- `service['nodes'][node]`. -/
structure NodeStatus where
  url : Option String := none
  status : Option Json := none
  response : Option Json := none
  responseCode : Option ℕ := none
  body : Option String := none
  exception : Option String := none
  /-- What Redis says about the nodes of its cluster. -/
  details : List (String × Json) := []

/-- What `check_redis` returns. -/
structure RedisStatus where
  status : Json
  clusterNodes : Option (Dict NodeStatus)
  /-- The other entries. -/
  details : List (String × Json)

/-- The answer to a request. -/
structure HttpResponse where
  statusCode : ℕ
  text : String
  /-- `json()`, which may raise. -/
  json : Except String Json

/-- What is outside of the gateway. -/
structure Network where
  /-- `requests.get(url, timeout=timeout, verify=verify)`, which may raise. -/
  get : ServiceCheck → Except String HttpResponse
  /-- `redis_settings['LOCATION']`. -/
  location : String
  /-- `ping()` over the socket, which may raise. -/
  ping : ℤ → Except String Unit
  /-- `get_redis_status` of the base library. -/
  getRedisStatus : ℤ → RedisStatus

/-- `ServiceCheck.response`. -/
inductive CheckResponse where
  | redis (status : RedisStatus)
  | node (nodeStatus : NodeStatus)

/-- The response is one of Redis. -/
def CheckResponse.isRedis : CheckResponse → Bool
  | .redis _ => true
  | .node _ => false

/-- `ServiceCheck` with its response. -/
structure CheckResult where
  check : ServiceCheck
  response : CheckResponse
  isRedis_eq : response.isRedis = decide (check.serviceName = "redis")

namespace Network

variable (network : Network)

/-- `_check_redis_unix_socket`. -/
def checkRedisUnixSocket (timeout : ℤ) : RedisStatus :=
  match network.ping timeout with
  | .ok () => ⟨.str Status.good.value, none, [("mode", .str "standalone")]⟩
  | .error e =>
    ⟨.str Status.failed.value, none, [("mode", .str "standalone"), ("exception", .str e)]⟩

/-- `check_redis`. -/
def checkRedis (timeout : ℤ) : RedisStatus :=
  if Text.startsWith network.location "unix://" then network.checkRedisUnixSocket timeout
  else network.getRedisStatus timeout

/-- What `check_node` keeps of the answer of a node. -/
def nodeStatus (check : ServiceCheck) : NodeStatus :=
  match network.get check with
  | .error e =>
    { url := some check.url, status := some (.str Status.failed.value), exception := some e }
  | .ok nodeResponse =>
    if nodeResponse.statusCode ≠ 200 then
      { url := some check.url, status := some (.str Status.failed.value),
        responseCode := some nodeResponse.statusCode, body := some nodeResponse.text }
    else
      match nodeResponse.json with
      | .ok response =>
        { url := some check.url, status := some (.str Status.good.value),
          response := some response }
      -- The body is no JSON: the status that was set before is replaced.
      | .error e =>
        { url := some check.url, status := some (.str Status.failed.value), exception := some e }

/-- `check_node`. -/
def checkNode (check : ServiceCheck) : CheckResult :=
  if h : check.serviceName = "redis" then
    ⟨check, .redis (network.checkRedis check.timeout), by simp [CheckResponse.isRedis, h]⟩
  else ⟨check, .node (network.nodeStatus check), by simp [CheckResponse.isRedis, h]⟩

end Network

/-! ## The nodes that are asked -/

section Services

variable (timeout : ℤ) (verify : Bool)

/-- The check of a node of a route. -/
def checkOf (route : RouteInstance) (node : ServiceNode) : ServiceCheck :=
  let url := (if route.isServiceHttps then "https" else "http") ++ "://" ++ node.address ++ ":" ++
    toString route.servicePort
  { serviceName := route.serviceCluster.name
    serviceType := route.serviceCluster.serviceType.name
    nodeId := node.address ++ ":" ++ toString route.servicePort
    url :=
      match route.serviceCluster.serviceType.pingUrl with
      | some pingUrl => if pingUrl = "" then url else url ++ pingUrl
      | none => url
    timeout
    verify }

/-- What a check is recognised by. -/
def ServiceCheck.key (check : ServiceCheck) : String × String := (check.serviceName, check.nodeId)

/-- A check is added unless the node of the service is there already. -/
def addCheck (processes : List ServiceCheck) (check : ServiceCheck) : List ServiceCheck :=
  if processes.any (·.key = check.key) then processes else processes ++ [check]

/-- `get_services`. -/
def getServices (t : Tables) : List ServiceCheck :=
  let routes := (t.routes.filter (·.enableGatewayAuth)).filterMap t.resolveRoute
  routes.foldl (fun processes route =>
    (t.nodesOf route.serviceCluster.pk).foldl
      (fun processes node => addCheck processes (checkOf timeout verify route node))
      processes) []

/-- The check of Redis. -/
def redisCheck : ServiceCheck :=
  { serviceName := "redis", serviceType := "redis", nodeId := "redis", url := "", timeout, verify }

/-- All checks of the page. -/
def checks (t : Tables) : List ServiceCheck :=
  getServices timeout verify t ++ [redisCheck timeout verify]

end Services

/-! ## The statuses -/

/-- An entry of `response['services']`. -/
structure Service where
  serviceName : String
  status : Json := unknown
  nodes : Dict NodeStatus := Dict.empty
  response : Option RedisStatus := none

/-- The status that counts for a node, and the node with that status noted. `none` is an
`AttributeError`. -/
def NodeStatus.resolve (node : NodeStatus) : Option (Json × NodeStatus) := do
  let response ← (node.response.getD (.obj [])).asDict?
  let responseStatus := (response.get? "status").getD .null
  if responseStatus.truthy then
    -- `OK` is what EDA says.
    let overallStatus := if responseStatus = .str "OK" then .str Status.good.value
      else responseStatus
    return (overallStatus, { node with status := some overallStatus })
  else return (node.status.getD unknown, node)

/-- A status is counted as good or bad, or not at all if it is `degraded`. An unknown one is bad. -/
def countNode (counts : ℕ × ℕ) (overallStatus : Json) : ℕ × ℕ :=
  if overallStatus = .str Status.good.value then (counts.1 + 1, counts.2)
  else if overallStatus = .str Status.failed.value then (counts.1, counts.2 + 1)
  else if overallStatus ≠ .str Status.degraded.value then (counts.1, counts.2 + 1)
  else counts

namespace Service

/-- `_get_good_and_bad_node_counts`, which notes the statuses of the nodes. -/
def getGoodAndBadNodeCounts (service : Service) : Option ((ℕ × ℕ) × Service) :=
  (service.nodes.mapValues? NodeStatus.resolve).map fun resolved =>
    (resolved.items.foldl (fun counts item => countNode counts item.2.1) (0, 0),
      { service with nodes := resolved.mapValues Prod.snd })

/-- The status of a service with so many good and bad nodes. -/
def statusOfCounts (goodNodes badNodes : ℕ) : Status :=
  if goodNodes > 0 ∧ badNodes = 0 then .good
  else if goodNodes = 0 ∧ badNodes > 0 then .failed
  else .degraded

/-- `_determine_service_status`. -/
def determineServiceStatus (service : Service) : Option (Status × Service) :=
  service.getGoodAndBadNodeCounts.map fun ((goodNodes, badNodes), service) =>
    (statusOfCounts goodNodes badNodes, service)

/-- The service with its status, determined by its nodes if it is not known. -/
def process (service : Service) : Option Service :=
  if service.status = unknown then
    service.determineServiceStatus.map fun (serviceStatus, service) =>
      { service with status := .str serviceStatus.value }
  else some service

end Service

/-- How many services have which status. -/
structure ServiceCounts where
  good : ℕ := 0
  bad : ℕ := 0
  degraded : ℕ := 0

/-- A service is counted. An unknown status is bad. -/
def ServiceCounts.count (counts : ServiceCounts) (service : Service) : ServiceCounts :=
  if service.status = .str Status.failed.value then { counts with bad := counts.bad + 1 }
  else if service.status = .str Status.degraded.value then
    { counts with degraded := counts.degraded + 1 }
  else if service.status = .str Status.good.value then { counts with good := counts.good + 1 }
  else { counts with bad := counts.bad + 1 }

/-- The status of the platform. -/
def ServiceCounts.overall (counts : ServiceCounts) : Status :=
  if counts.bad > 0 then .failed else if counts.degraded > 0 then .degraded else .good

/-- The response object. -/
structure Response where
  /-- `datetime.now()`. -/
  time : ℚ
  status : Status
  services : List Service

/-- `process_statuses`. -/
def processStatuses (response : Response) : Option Response :=
  (response.services.mapM Service.process).map fun services =>
    { response with services, status := (services.foldl ServiceCounts.count {}).overall }

/-- The response of a check is added to its service. -/
def Service.add (service : Service) (result : CheckResult) : Service :=
  match result.response with
  | .redis redisStatus =>
    -- The nodes of a cluster are pulled up to those of the service.
    { service with
      status := redisStatus.status
      nodes := redisStatus.clusterNodes.getD service.nodes
      response := some { redisStatus with clusterNodes := none } }
  | .node nodeStatus => { service with nodes := service.nodes.set result.check.nodeId nodeStatus }

/-- The service that a result belongs to, a new one if there is none, with its response. -/
def addResult (services : List Service) (result : CheckResult) : List Service :=
  let serviceName := result.check.serviceName
  let currentService := (services.find? (·.serviceName = serviceName)).getD { serviceName }
  Table.upsert Service.serviceName (currentService.add result) services

/-- `create_response`. -/
def createResponse (now : ℚ) (results : List CheckResult) : Option Response :=
  processStatuses { time := now, status := .good, services := results.foldl addResult [] }

end AapGateway.StatusPage
