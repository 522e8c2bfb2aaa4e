import AapGateway.StatusPage.Aggregation

/-!
# The response of the status page

The results of the checks are gathered by service, where a later result of a node takes the place of
an earlier one. A degraded node counts neither as good nor as bad, so next to a good one it does not
show in the status of its service, and then not in that of the platform.

What a node answers with status 200 is kept unchecked. If it is no JSON object, the response cannot
be made.

## Main definitions

* `nodesOf` and `serviceOf`: what a list of results says of a service;
* `HidesNoSickNode`: a good platform has only good nodes;
* `Survives`: there is a response.

## Main results

* `hidesNoSickNode_iff`: when a good status of the platform means that all nodes are good;
* `survives_iff`: when there is a response.
-/

namespace AapGateway.StatusPage

section Gather

variable {results : List CheckResult} {name : String} {service : Service}

/-- The results of a service. -/
def resultsOf (results : List CheckResult) (name : String) : List CheckResult :=
  results.filter (·.check.serviceName = name)

/-- The service that its results make. -/
def serviceOf (results : List CheckResult) (name : String) : Service :=
  (resultsOf results name).foldl Service.add { serviceName := name }

/-- The status of a node, if that is what the response is. -/
def CheckResult.node? (result : CheckResult) : Option NodeStatus :=
  match result.response with
  | .redis _ => none
  | .node nodeStatus => some nodeStatus

/-- The nodes of a service. Of several results of a node the last one counts. -/
def nodesOf (results : List CheckResult) (name : String) : Dict NodeStatus :=
  Dict.ofList ((resultsOf results name).filterMap fun result =>
    result.node?.map (result.check.nodeId, ·))

/-- A response keeps the name of its service. -/
@[simp]
theorem serviceName_add (service : Service) (result : CheckResult) :
    (service.add result).serviceName = service.serviceName := by
  unfold Service.add
  split <;> rfl

/-- The service has its name. -/
@[simp]
theorem serviceName_serviceOf (results : List CheckResult) (name : String) :
    (serviceOf results name).serviceName = name := by
  unfold serviceOf
  generalize resultsOf results name = rs
  induction rs using List.reverseRecOn with
  | nil => rfl
  | append_singleton rs result ih => rw [List.foldl_append]; exact (serviceName_add _ _).trans ih

/-- One more result is one of its own service. -/
theorem resultsOf_append_singleton (results : List CheckResult) (result : CheckResult)
    (name : String) :
    resultsOf (results ++ [result]) name =
      if result.check.serviceName = name then resultsOf results name ++ [result]
      else resultsOf results name := by
  unfold resultsOf
  rw [List.filter_append]
  split
  · rename_i hname
    rw [List.filter_cons_of_pos (by simpa using hname), List.filter_nil]
  · rename_i hname
    rw [List.filter_cons_of_neg (by simpa using hname), List.filter_nil, List.append_nil]

/-- One more result is added to its service. -/
theorem serviceOf_append_singleton (results : List CheckResult) (result : CheckResult)
    (name : String) :
    serviceOf (results ++ [result]) name =
      if result.check.serviceName = name then (serviceOf results name).add result
      else serviceOf results name := by
  unfold serviceOf
  rw [resultsOf_append_singleton]
  split
  · rw [List.foldl_append]
    rfl
  · rfl

/-- The gathered services, looked up by their names. -/
theorem find?_foldl_addResult (results : List CheckResult) (name : String) :
    (results.foldl addResult []).find? (·.serviceName = name) =
      if resultsOf results name = [] then none else some (serviceOf results name) := by
  induction results using List.reverseRecOn generalizing name with
  | nil => rfl
  | append_singleton results result ih =>
      rw [List.foldl_append, List.foldl_cons, List.foldl_nil]
      have hadd : ∀ services, addResult services result =
          Table.upsert Service.serviceName
            (((services.find? (·.serviceName = result.check.serviceName)).getD
              { serviceName := result.check.serviceName }).add result) services := fun _ => rfl
      rw [hadd, Table.find?_upsert, serviceName_add, ih, ih, resultsOf_append_singleton]
      -- The name is kept by the lookup and by the new service.
      have hname : ((if resultsOf results result.check.serviceName = [] then none
          else some (serviceOf results result.check.serviceName)).getD
            { serviceName := result.check.serviceName }).serviceName =
              result.check.serviceName := by
        split
        · rfl
        · exact serviceName_serviceOf results _
      rw [hname]
      by_cases hsame : name = result.check.serviceName
      · subst hsame
        rw [if_pos rfl, if_pos rfl, serviceOf_append_singleton, if_pos rfl,
          if_neg (List.append_ne_nil_of_right_ne_nil _ (List.cons_ne_nil _ _))]
        split
        · rename_i hnil
          rw [serviceOf, hnil]
          rfl
        · rfl
      · rw [if_neg hsame, if_neg (Ne.symm hsame), serviceOf_append_singleton,
          if_neg (Ne.symm hsame)]

/-- The names of the gathered services are distinct. -/
theorem nodup_foldl_addResult (results : List CheckResult) :
    ((results.foldl addResult []).map Service.serviceName).Nodup := by
  induction results using List.reverseRecOn with
  | nil => exact List.nodup_nil
  | append_singleton results result ih =>
      rw [List.foldl_append]
      exact Table.nodup_map_key_upsert ih

/-- There is one service for each name that occurs. -/
theorem mem_foldl_addResult_iff :
    service ∈ results.foldl addResult [] ↔
      ∃ result ∈ results, service = serviceOf results result.check.serviceName := by
  constructor
  · intro hmem
    have hfind := find?_foldl_addResult results service.serviceName
    rw [Table.find?_of_mem (nodup_foldl_addResult results) hmem] at hfind
    split at hfind
    · cases hfind
    · rename_i hne
      obtain ⟨result, hresult⟩ := List.exists_mem_of_ne_nil _ hne
      obtain ⟨hmem', hname⟩ := List.mem_filter.mp hresult
      refine ⟨result, hmem', ?_⟩
      rw [of_decide_eq_true hname]
      exact Option.some.inj hfind
  · rintro ⟨result, hresult, rfl⟩
    have hne : resultsOf results result.check.serviceName ≠ [] :=
      List.ne_nil_of_mem (List.mem_filter.mpr ⟨hresult, decide_eq_true rfl⟩)
    have hfind := find?_foldl_addResult results result.check.serviceName
    rw [if_neg hne] at hfind
    exact List.mem_of_find?_eq_some hfind

/-- A service other than Redis is its nodes. -/
theorem serviceOf_of_ne (results : List CheckResult) (hne : name ≠ "redis") :
    serviceOf results name = { serviceName := name, nodes := nodesOf results name } := by
  have hname : ∀ result ∈ resultsOf results name, result.check.serviceName = name :=
    fun result hresult => of_decide_eq_true (List.mem_filter.mp hresult).2
  unfold serviceOf nodesOf
  generalize resultsOf results name = rs at hname
  induction rs using List.reverseRecOn with
  | nil => rfl
  | append_singleton rs result ih =>
      have hresult := result.isRedis_eq
      rw [hname result (by simp), decide_eq_false hne] at hresult
      rw [List.foldl_append, ih fun r hr => hname r (List.mem_append_left _ hr),
        List.filterMap_append, List.foldl_cons, List.foldl_nil, Service.add]
      cases hresponse : result.response with
      | redis status =>
          rw [hresponse] at hresult
          cases hresult
      | node nodeStatus => simp [CheckResult.node?, hresponse, Dict.ofList, List.foldl_append]

end Gather

/-! ## What a good status says -/

section Good

variable {results : List CheckResult} {service p : Service} {node node' : NodeStatus}
  {response : Response} {now : ℚ}

/-- The nodes of a good service: one of them is good, and the others are good or degraded. -/
structure GoodNodes (nodes : Dict NodeStatus) : Prop where
  exists_good : ∃ item ∈ nodes.items, item.2.severity? = some .good
  good_or_degraded : ∀ item ∈ nodes.items,
    item.2.severity? = some .good ∨ item.2.severity? = some .degraded

/-- A service is good by its own status, or by its nodes if it has none. -/
def Service.ShowsGood (service : Service) : Prop :=
  service.status = .str Status.good.value ∨ service.status = unknown ∧ GoodNodes service.nodes

/-- The nodes make their service good exactly if they are those of a good service. -/
theorem goodNodes_iff :
    GoodNodes service.nodes ↔
      ∃ severities, service.severities? = some severities ∧ ofSeverities severities = .good := by
  constructor
  · intro h
    have hsome : service.severities?.isSome = true := by
      rw [Service.severities?, List.isSome_mapM_iff]
      intro item hitem
      rcases h.good_or_degraded item hitem with hsev | hsev <;> rw [hsev] <;> rfl
    obtain ⟨severities, hseverities⟩ := Option.isSome_iff_exists.mp hsome
    refine ⟨severities, hseverities, ofSeverities_eq_good_iff.mpr ⟨?_, fun hfailed => ?_⟩⟩
    · obtain ⟨item, hitem, hgood⟩ := h.exists_good
      obtain ⟨s, hs, hsev⟩ :=
        (List.mapM_eq_some_iff.mp hseverities).exists_of_mem_left hitem
      rw [hgood] at hsev
      cases hsev
      exact hs
    · obtain ⟨item, hitem, hsev⟩ :=
        (List.mapM_eq_some_iff.mp hseverities).exists_of_mem_right hfailed
      rcases h.good_or_degraded item hitem with hsev' | hsev' <;>
        rw [hsev] at hsev' <;> cases hsev'
  · rintro ⟨severities, hseverities, hgood⟩
    obtain ⟨hgood, hfailed⟩ := ofSeverities_eq_good_iff.mp hgood
    have hitems := List.mapM_eq_some_iff.mp hseverities
    refine ⟨hitems.exists_of_mem_right hgood, fun item hitem => ?_⟩
    obtain ⟨s, hs, hsev⟩ := hitems.exists_of_mem_left hitem
    cases s with
    | good => exact Or.inl hsev
    | degraded => exact Or.inr hsev
    | failed => exact absurd hs hfailed

/-- A service is processed to a good one exactly if it shows good. -/
theorem process_good_iff :
    (∃ p, service.process = some p ∧ severity p.status = .good) ↔ service.ShowsGood := by
  unfold Service.process Service.ShowsGood
  split
  · rename_i hunknown
    have hdetermined := map_fst_determineServiceStatus service
    rw [hunknown, goodNodes_iff, or_iff_right (by decide), and_iff_right rfl]
    cases hd : service.determineServiceStatus with
    | none =>
        rw [hd, Option.map_none, eq_comm, Option.map_eq_none_iff] at hdetermined
        simp [hdetermined]
    | some determined =>
        rw [hd, Option.map_some, eq_comm, Option.map_eq_some_iff] at hdetermined
        obtain ⟨severities, hseverities, hstatus⟩ := hdetermined
        simp [hseverities, hstatus]
  · rename_i hknown
    simp [hknown, severity_eq_good_iff]

/-- The response is good exactly if every service shows good. -/
theorem createResponse_good_iff :
    (∃ response, createResponse now results = some response ∧ response.status = .good) ↔
      ∀ result ∈ results, (serviceOf results result.check.serviceName).ShowsGood := by
  have hservices : (∀ result ∈ results,
      (serviceOf results result.check.serviceName).ShowsGood) ↔
        ∀ service ∈ results.foldl addResult [], service.ShowsGood := by
    constructor
    · intro h service hservice
      obtain ⟨result, hresult, rfl⟩ := mem_foldl_addResult_iff.mp hservice
      exact h result hresult
    · exact fun h result hresult => h _ (mem_foldl_addResult_iff.mpr ⟨result, hresult, rfl⟩)
  rw [hservices, createResponse]
  constructor
  · rintro ⟨response, hresponse, hgood⟩ service hservice
    obtain ⟨processed, hprocessed, rfl⟩ := processStatuses_eq_some_iff.mp hresponse
    obtain ⟨p, hp, hprocess⟩ := hprocessed.exists_of_mem_left hservice
    have hle := overall_le_iff.mp (le_of_eq hgood) p hp
    exact process_good_iff.mp ⟨p, hprocess, le_antisymm hle (good_le _)⟩
  · intro h
    have hsome : ((results.foldl addResult []).mapM Service.process).isSome = true := by
      rw [List.isSome_mapM_iff]
      intro service hservice
      obtain ⟨p, hp, -⟩ := process_good_iff.mpr (h service hservice)
      rw [hp]
      rfl
    obtain ⟨processed, hprocessed⟩ := Option.isSome_iff_exists.mp hsome
    have hpairs := List.mapM_eq_some_iff.mp hprocessed
    refine ⟨_, processStatuses_eq_some_iff.mpr ⟨processed, hpairs, rfl⟩, ?_⟩
    refine le_antisymm (overall_le_iff.mpr fun p hp => ?_) (good_le _)
    obtain ⟨service, hservice, hprocess⟩ := hpairs.exists_of_mem_right hp
    obtain ⟨p', hp', hgood⟩ := process_good_iff.mpr (h service hservice)
    rw [hprocess] at hp'
    cases hp'
    exact le_of_eq hgood

/-- The status that is noted for a node is good exactly if the one that counts is. -/
theorem status_of_resolve {overallStatus : Json} (h : node.resolve = some (overallStatus, node')) :
    node'.status = some (.str Status.good.value) ↔ node.severity? = some .good := by
  rw [NodeStatus.severity?, h, Option.map_some, Option.some_inj, severity_eq_good_iff]
  simp only [NodeStatus.resolve, Option.bind_eq_bind, Option.bind_eq_some_iff] at h
  obtain ⟨response, -, h⟩ := h
  split at h
  · cases h
    exact Option.some_inj
  · cases h
    cases node.status with
    | none => simp [unknown, Status.value]
    | some status => simp

/-- A processed service keeps its name. -/
theorem serviceName_of_process (hp : service.process = some p) :
    p.serviceName = service.serviceName := by
  unfold Service.process at hp
  split at hp
  · obtain ⟨⟨status, service'⟩, hd, rfl⟩ := Option.map_eq_some_iff.mp hp
    obtain ⟨resolved, -, -, rfl⟩ := determineServiceStatus_eq_some_iff.mp hd
    rfl
  · cases hp
    rfl

/-- The nodes of a service that is processed by its nodes. -/
theorem nodes_of_process (hunknown : service.status = unknown) (hp : service.process = some p) :
    p.serviceName = service.serviceName ∧ List.Forall₂ (fun item item' => item.1 = item'.1 ∧
      (item'.2.status = some (.str Status.good.value) ↔ item.2.severity? = some .good))
      service.nodes.items p.nodes.items := by
  rw [Service.process, if_pos hunknown] at hp
  obtain ⟨⟨status, service'⟩, hd, rfl⟩ := Option.map_eq_some_iff.mp hp
  obtain ⟨resolved, hresolved, -, rfl⟩ := determineServiceStatus_eq_some_iff.mp hd
  refine ⟨rfl, ?_⟩
  show List.Forall₂ _ _ (resolved.items.map _)
  rw [List.forall₂_map_right_iff]
  exact hresolved.imp fun item item' hitem => ⟨hitem.1, status_of_resolve hitem.2⟩

/-- If the response reports a good status, every node of every service other than Redis is good. -/
def HidesNoSickNode (now : ℚ) (results : List CheckResult) : Prop :=
  ∀ response, createResponse now results = some response → response.status = .good →
    ∀ service ∈ response.services, service.serviceName ≠ "redis" →
      ∀ item ∈ service.nodes.items, item.2.status = some (.str Status.good.value)

/-- No node of a service other than Redis is degraded. -/
def NoneDegraded (results : List CheckResult) : Prop :=
  ∀ result ∈ results, result.check.serviceName ≠ "redis" →
    ∀ item ∈ (nodesOf results result.check.serviceName).items, item.2.severity? ≠ some .degraded

/-- What a good response says of a node of a service other than Redis. -/
theorem status_of_good {result : CheckResult} {item : String × NodeStatus}
    (hresponse : createResponse now results = some response) (hresult : result ∈ results)
    (hne : result.check.serviceName ≠ "redis")
    (hitem : item ∈ (nodesOf results result.check.serviceName).items) :
    ∃ service ∈ response.services, service.serviceName ≠ "redis" ∧
      ∃ item' ∈ service.nodes.items,
        (item'.2.status = some (.str Status.good.value) ↔ item.2.severity? = some .good) := by
  obtain ⟨processed, hprocessed, rfl⟩ := processStatuses_eq_some_iff.mp hresponse
  obtain ⟨p, hp, hprocess⟩ :=
    hprocessed.exists_of_mem_left (mem_foldl_addResult_iff.mpr ⟨result, hresult, rfl⟩)
  rw [serviceOf_of_ne results hne] at hprocess
  obtain ⟨hname, hitems⟩ := nodes_of_process rfl hprocess
  obtain ⟨item', hitem', -, hstatus⟩ := hitems.exists_of_mem_left hitem
  exact ⟨p, hp, hname ▸ hne, item', hitem', hstatus⟩

/-- A good status of the platform hides no sick node exactly if no node of a service other than
Redis is degraded, or the platform is not good anyway: Redis is not, or a service has no good node
or one that is neither good nor degraded. -/
theorem hidesNoSickNode_iff (now : ℚ) (results : List CheckResult) :
    HidesNoSickNode now results ↔ NoneDegraded results ∨
      ∃ result ∈ results, ¬(serviceOf results result.check.serviceName).ShowsGood := by
  constructor
  · intro h
    by_contra hnot
    rw [not_or, not_exists] at hnot
    obtain ⟨hdegraded, hgood⟩ := hnot
    have hshows : ∀ result ∈ results, (serviceOf results result.check.serviceName).ShowsGood :=
      fun result hresult => by_contra fun hbad => hgood result ⟨hresult, hbad⟩
    obtain ⟨response, hresponse, hstatus⟩ := createResponse_good_iff.mpr hshows
    refine hdegraded fun result hresult hne item hitem hsev => ?_
    obtain ⟨service, hservice, hname, item', hitem', hiff⟩ :=
      status_of_good hresponse hresult hne hitem
    have hsev' := hiff.mp (h response hresponse hstatus service hservice hname item' hitem')
    rw [hsev] at hsev'
    cases hsev'
  · intro h response hresponse hstatus service hservice hname item hitem
    have hshows := createResponse_good_iff.mp ⟨response, hresponse, hstatus⟩
    have hnone : NoneDegraded results := h.resolve_right fun ⟨result, hresult, hbad⟩ =>
      hbad (hshows result hresult)
    -- The service was gathered from its results, and the node is one of them.
    obtain ⟨processed, hprocessed, rfl⟩ := processStatuses_eq_some_iff.mp hresponse
    obtain ⟨service₀, hservice₀, hprocess⟩ := hprocessed.exists_of_mem_right hservice
    obtain ⟨result, hresult, rfl⟩ := mem_foldl_addResult_iff.mp hservice₀
    have hne : result.check.serviceName ≠ "redis" := by
      intro hredis
      have hkept := serviceName_of_process hprocess
      rw [serviceName_serviceOf, hredis] at hkept
      exact hname hkept
    have hgood := hshows result hresult
    rw [serviceOf_of_ne results hne] at hprocess hgood
    obtain ⟨-, hitems⟩ := nodes_of_process rfl hprocess
    obtain ⟨item₀, hitem₀, -, hiff⟩ := hitems.exists_of_mem_right hitem
    refine hiff.mpr ?_
    rcases hgood with hunknown | ⟨-, hnodes⟩
    · simp [unknown, Status.value] at hunknown
    · exact (hnodes.good_or_degraded item₀ hitem₀).resolve_right
        (hnone result hresult hne item₀ hitem₀)

/-- A hub with a good node and one that says that it is degraded, and Redis. -/
def degradedNextToGood : List CheckResult :=
  let network : Network :=
    { get := fun check => .ok
        { statusCode := 200
          text := ""
          json := .ok (.obj [("status",
            .str (if check.nodeId = "10.0.0.1:443" then "good" else "degraded"))]) }
      location := "redis://10.0.0.9"
      ping := fun _ => .ok ()
      getRedisStatus := fun _ => ⟨.str "good", none, [("mode", .str "standalone")]⟩ }
  [⟨"hub", "hub", "10.0.0.1:443", "https://10.0.0.1:443", 10, true⟩,
    ⟨"hub", "hub", "10.0.0.2:443", "https://10.0.0.2:443", 10, true⟩,
    redisCheck 10 true].map network.checkNode

/-- The platform is good, and one of the nodes is degraded. -/
theorem not_hidesNoSickNode_degraded : ¬HidesNoSickNode 0 degradedNextToGood := by
  have hsick : (createResponse 0 degradedNextToGood).any (fun response =>
      response.status = .good && response.services.any fun service =>
        service.serviceName ≠ "redis" && service.nodes.items.any fun item =>
          item.2.status ≠ some (.str Status.good.value)) = true := by decide
  intro h
  cases hresponse : createResponse 0 degradedNextToGood with
  | none =>
      rw [hresponse] at hsick
      cases hsick
  | some response =>
      rw [hresponse, Option.any_some, Bool.and_eq_true, List.any_eq_true] at hsick
      obtain ⟨hstatus, service, hservice, hsick⟩ := hsick
      rw [Bool.and_eq_true, List.any_eq_true] at hsick
      obtain ⟨hname, item, hitem, hsick⟩ := hsick
      exact of_decide_eq_true hsick
        (h response hresponse (of_decide_eq_true hstatus) service hservice
          (of_decide_eq_true hname) item hitem)

end Good

/-! ## Odd answers -/

section Survival

variable {timeout : ℤ} {verify : Bool} {t : Tables} {network : Network} {now : ℚ}
  {results : List CheckResult} {node : NodeStatus}

/-- What a node has for a response is an object. -/
def NodeStatus.RespondsObject (node : NodeStatus) : Prop :=
  ∀ body, node.response = some body → ∃ members, body = .obj members

/-- If a node answers with JSON and status 200, it answers with an object. -/
def Network.AnswersObject (network : Network) (check : ServiceCheck) : Prop :=
  ∀ response, network.get check = .ok response → response.statusCode = 200 →
    ∀ body, response.json = .ok body → ∃ members, body = .obj members

/-- The status of a node can be read exactly if it has an object or nothing for a response. -/
theorem isSome_resolve_iff : node.resolve.isSome = true ↔ node.RespondsObject := by
  unfold NodeStatus.RespondsObject NodeStatus.resolve
  cases node.response with
  | none => simp [Json.asDict?]; split <;> rfl
  | some body =>
      cases body with
      | obj members => simp [Json.asDict?]; split <;> rfl
      | _ => simp [Json.asDict?]

/-- What is kept of an answer has an object for a response exactly if the node answers so. -/
theorem respondsObject_nodeStatus (check : ServiceCheck) :
    (network.nodeStatus check).RespondsObject ↔ network.AnswersObject check := by
  unfold NodeStatus.RespondsObject Network.AnswersObject Network.nodeStatus
  cases hget : network.get check with
  | error e => simp
  | ok response =>
      by_cases hcode : response.statusCode = 200
      · cases hjson : response.json with
        | error e => simp [hcode, hjson]
        | ok body => simp [hcode, hjson]
      · simp [hcode]

/-- There is a response exactly if the nodes of every service without a status can be read. -/
theorem isSome_createResponse_iff :
    (createResponse now results).isSome = true ↔
      ∀ result ∈ results, (serviceOf results result.check.serviceName).status = unknown →
        ∀ item ∈ (serviceOf results result.check.serviceName).nodes.items,
          item.2.RespondsObject := by
  have hprocess : ∀ service : Service, service.process.isSome = true ↔
      (service.status = unknown → ∀ item ∈ service.nodes.items, item.2.RespondsObject) := by
    intro service
    unfold Service.process
    split
    · rename_i hunknown
      simp only [hunknown, forall_const, Option.isSome_map, Service.determineServiceStatus,
        Service.getGoodAndBadNodeCounts, Dict.isSome_mapValues?_iff, isSome_resolve_iff]
    · rename_i hknown
      simp [hknown]
  rw [createResponse, processStatuses, Option.isSome_map, List.isSome_mapM_iff]
  constructor
  · intro h result hresult
    exact (hprocess _).mp (h _ (mem_foldl_addResult_iff.mpr ⟨result, hresult, rfl⟩))
  · intro h service hservice
    obtain ⟨result, hresult, rfl⟩ := mem_foldl_addResult_iff.mp hservice
    exact (hprocess _).mpr (h result hresult)

/-- The key of an added check is there, and the keys stay distinct. -/
theorem nodup_addCheck {processes : List ServiceCheck} (check : ServiceCheck)
    (h : (processes.map ServiceCheck.key).Nodup) :
    ((addCheck processes check).map ServiceCheck.key).Nodup := by
  unfold addCheck
  split
  · exact h
  · rename_i hnew
    rw [List.map_append]
    refine List.nodup_append.mpr ⟨h, List.nodup_singleton _, ?_⟩
    rintro key hkey _ hcheck rfl
    obtain ⟨other, hother, rfl⟩ := List.mem_map.mp hkey
    refine hnew (List.any_eq_true.mpr ⟨other, hother, decide_eq_true ?_⟩)
    simpa using hcheck

/-- No node of a service is asked twice. -/
theorem nodup_getServices (timeout : ℤ) (verify : Bool) (t : Tables) :
    ((getServices timeout verify t).map ServiceCheck.key).Nodup := by
  unfold getServices
  dsimp only
  generalize (t.routes.filter (·.enableGatewayAuth)).filterMap t.resolveRoute = routes
  induction routes using List.reverseRecOn with
  | nil => exact List.nodup_nil
  | append_singleton routes route ih =>
      rw [List.foldl_append, List.foldl_cons, List.foldl_nil]
      generalize t.nodesOf route.serviceCluster.pk = nodes
      induction nodes using List.reverseRecOn with
      | nil => exact ih
      | append_singleton nodes node ih' =>
          rw [List.foldl_append]
          exact nodup_addCheck _ ih'

/-- All checks of the page have the timeout of the page. -/
theorem timeout_of_mem_checks {check : ServiceCheck} (h : check ∈ checks timeout verify t) :
    check.timeout = timeout := by
  let AllTimeout (processes : List ServiceCheck) : Prop :=
    ∀ check ∈ processes, check.timeout = timeout
  have hadd : ∀ (processes : List ServiceCheck) (route : RouteInstance) (node : ServiceNode),
      AllTimeout processes →
        AllTimeout (addCheck processes (checkOf timeout verify route node)) := by
    intro processes route node hall check hcheck
    unfold addCheck at hcheck
    split at hcheck
    · exact hall check hcheck
    · rcases List.mem_append.mp hcheck with hold | hnew
      · exact hall check hold
      · rw [List.mem_singleton.mp hnew]
        rfl
  have hservices : AllTimeout (getServices timeout verify t) := by
    unfold getServices
    dsimp only
    refine List.foldlRecOn (motive := AllTimeout) _ _ (fun _ h => absurd h List.not_mem_nil)
      fun processes hall route _ => ?_
    exact List.foldlRecOn (motive := AllTimeout) _ _ hall
      fun processes hall node _ => hadd processes route node hall
  rcases List.mem_append.mp h with hservice | hredis
  · exact hservices check hservice
  · rw [List.mem_singleton.mp hredis]
    rfl

/-- The results of the page. -/
def pageResults (network : Network) (timeout : ℤ) (verify : Bool) (t : Tables) :
    List CheckResult :=
  (checks timeout verify t).map network.checkNode

@[simp]
theorem check_checkNode (check : ServiceCheck) : (network.checkNode check).check = check := by
  unfold Network.checkNode
  split <;> rfl

/-- The results of a service are those of its checks. -/
theorem resultsOf_pageResults (name : String) :
    resultsOf (pageResults network timeout verify t) name =
      ((checks timeout verify t).filter (·.serviceName = name)).map network.checkNode := by
  rw [resultsOf, pageResults, List.filter_map]
  congr 2
  funext check
  simp

/-- The nodes of a service other than Redis are those that were asked, with what was kept. -/
theorem mem_nodesOf_pageResults_iff {name : String} (hne : name ≠ "redis")
    {item : String × NodeStatus} :
    item ∈ (nodesOf (pageResults network timeout verify t) name).items ↔
      ∃ check ∈ getServices timeout verify t, check.serviceName = name ∧
        item = (check.nodeId, network.nodeStatus check) := by
  have hlist : (resultsOf (pageResults network timeout verify t) name).filterMap
      (fun result => result.node?.map (result.check.nodeId, ·)) =
        ((getServices timeout verify t).filter (·.serviceName = name)).map
          fun check => (check.nodeId, network.nodeStatus check) := by
    have hredis : [redisCheck timeout verify].filter (·.serviceName = name) = [] := by
      simpa [redisCheck] using Ne.symm hne
    rw [resultsOf_pageResults, checks, List.filter_append, hredis, List.append_nil,
      List.filterMap_map, ← List.filterMap_eq_map]
    refine List.filterMap_congr fun check hcheck => ?_
    have hname : check.serviceName ≠ "redis" := by
      rw [of_decide_eq_true (List.mem_filter.mp hcheck).2]
      exact hne
    simp [CheckResult.node?, Network.checkNode, hname]
  have hnodup : ((((getServices timeout verify t).filter (·.serviceName = name)).map
      fun check => (check.nodeId, network.nodeStatus check)).map Prod.fst).Nodup := by
    rw [List.map_map]
    refine List.Nodup.of_map (fun nodeId => (name, nodeId)) ?_
    rw [List.map_map]
    -- Next to the name of the service the node's id is the key of the check.
    have hkeys : ((getServices timeout verify t).filter (·.serviceName = name)).map
        ((fun nodeId => (name, nodeId)) ∘ Prod.fst ∘
          fun check => (check.nodeId, network.nodeStatus check)) =
        ((getServices timeout verify t).filter (·.serviceName = name)).map ServiceCheck.key := by
      refine List.map_congr_left fun check hcheck => ?_
      simp only [Function.comp_apply, ServiceCheck.key,
        of_decide_eq_true (List.mem_filter.mp hcheck).2]
    rw [hkeys]
    exact (nodup_getServices timeout verify t).sublist (List.filter_sublist.map _)
  rw [nodesOf, hlist, Dict.items_ofList hnodup, List.mem_map]
  constructor
  · rintro ⟨check, hcheck, rfl⟩
    obtain ⟨hmem, hname⟩ := List.mem_filter.mp hcheck
    exact ⟨check, hmem, of_decide_eq_true hname, rfl⟩
  · rintro ⟨check, hmem, hname, rfl⟩
    exact ⟨check, List.mem_filter.mpr ⟨hmem, decide_eq_true hname⟩, rfl⟩

/-- Redis is as its status says. -/
theorem serviceOf_redis :
    serviceOf (pageResults network timeout verify t) "redis" =
      { serviceName := "redis"
        status := (network.checkRedis timeout).status
        nodes := (network.checkRedis timeout).clusterNodes.getD Dict.empty
        response := some { network.checkRedis timeout with clusterNodes := none } } := by
  have hresponses : ∀ result ∈ resultsOf (pageResults network timeout verify t) "redis",
      result.response = .redis (network.checkRedis timeout) := by
    rw [resultsOf_pageResults]
    intro result hresult
    obtain ⟨check, hcheck, rfl⟩ := List.mem_map.mp hresult
    obtain ⟨hmem, hname⟩ := List.mem_filter.mp hcheck
    rw [Network.checkNode, dif_pos (of_decide_eq_true hname), timeout_of_mem_checks hmem]
  have hne : resultsOf (pageResults network timeout verify t) "redis" ≠ [] := by
    rw [resultsOf_pageResults, Ne, List.map_eq_nil_iff]
    exact List.ne_nil_of_mem
      (List.mem_filter.mpr ⟨List.mem_append_right _ (List.mem_singleton_self _), rfl⟩)
  unfold serviceOf
  generalize resultsOf (pageResults network timeout verify t) "redis" = rs at hresponses hne
  induction rs using List.reverseRecOn with
  | nil => exact absurd rfl hne
  | append_singleton rs result ih =>
      rw [List.foldl_append, List.foldl_cons, List.foldl_nil, Service.add,
        hresponses result (by simp)]
      by_cases hnil : rs = []
      · rw [hnil]
        rfl
      · -- The same status is set once more.
        rw [ih (fun r hr => hresponses r (List.mem_append_left _ hr)) hnil]
        obtain ⟨status, clusterNodes, details⟩ := network.checkRedis timeout
        cases clusterNodes <;> rfl

/-- The status page gives a response, whose status is one of the three. -/
def Survives (network : Network) (timeout : ℤ) (verify : Bool) (t : Tables) (now : ℚ) : Prop :=
  ∃ response, createResponse now (pageResults network timeout verify t) = some response

/-- The status page gives a response exactly if every node that answers with JSON and status 200
answers with an object. (Should Redis ever say that its status is unknown, so must what it says of
the nodes of its cluster be.) -/
theorem survives_iff (network : Network) (timeout : ℤ) (verify : Bool) (t : Tables) (now : ℚ) :
    Survives network timeout verify t now ↔
      (∀ check ∈ getServices timeout verify t, check.serviceName ≠ "redis" →
        network.AnswersObject check) ∧
      ((network.checkRedis timeout).status = unknown →
        ∀ nodes, (network.checkRedis timeout).clusterNodes = some nodes →
          ∀ item ∈ nodes.items, item.2.RespondsObject) := by
  rw [Survives, ← Option.isSome_iff_exists, isSome_createResponse_iff]
  have hcheck : ∀ check ∈ checks timeout verify t,
      network.checkNode check ∈ pageResults network timeout verify t :=
    fun check hmem => List.mem_map_of_mem hmem
  constructor
  · intro h
    constructor
    · intro check hmem hne
      have hservice := h _ (hcheck check (List.mem_append_left _ hmem))
      rw [check_checkNode, serviceOf_of_ne _ hne] at hservice
      exact (respondsObject_nodeStatus check).mp
        (hservice rfl _ ((mem_nodesOf_pageResults_iff hne).mpr ⟨check, hmem, rfl, rfl⟩))
    · intro hunknown nodes hnodes
      have hservice := h _ (hcheck _ (List.mem_append_right _ (List.mem_singleton_self _)))
      rw [check_checkNode] at hservice
      rw [show (redisCheck timeout verify).serviceName = "redis" from rfl, serviceOf_redis, hnodes]
        at hservice
      exact hservice hunknown
  · rintro ⟨hanswers, hredis⟩ result hresult hunknown item hitem
    obtain ⟨check, hmem, rfl⟩ := List.mem_map.mp hresult
    rw [check_checkNode] at hunknown hitem
    by_cases hname : check.serviceName = "redis"
    · rw [hname, serviceOf_redis] at hunknown hitem
      cases hnodes : (network.checkRedis timeout).clusterNodes with
      | none =>
          rw [hnodes] at hitem
          exact absurd hitem List.not_mem_nil
      | some nodes =>
          rw [hnodes] at hitem
          exact hredis hunknown nodes hnodes item hitem
    · rw [serviceOf_of_ne _ hname] at hitem
      obtain ⟨check', hmem', hname', rfl⟩ := (mem_nodesOf_pageResults_iff hname).mp hitem
      exact (respondsObject_nodeStatus check').mpr (hanswers check' hmem' (hname' ▸ hname))

/-- A hub with one node. -/
def oneNode : Tables where
  serviceTypes := [⟨1, "hub", some "/pulp/api/v3/status/", none, none, none⟩]
  serviceClusters := [{ pk := 1, name := "hub", serviceType := 1, serviceId := none }]
  serviceNodes := [⟨1, "hub-1", 1, "10.0.0.1", ""⟩]
  httpPorts := [{ pk := 1, name := "main", number := 443, isApiPort := true }]
  routes := [{
    pk := 1, name := "hub", httpPort := 1, serviceCluster := 1, servicePort := 443
    isServiceHttps := true, servicePath := "/pulp/", gatewayPath := "/api/galaxy/" }]

/-- The node answers with an empty JSON array, and Redis is good. -/
def answersArray : Network where
  get _ := .ok { statusCode := 200, text := "[]", json := .ok (.arr []) }
  location := "redis://10.0.0.9"
  ping _ := .ok ()
  getRedisStatus _ := ⟨.str "good", none, [("mode", .str "standalone")]⟩

/-- The answer of the one node ends the page. -/
theorem not_survives_answersArray : ¬Survives answersArray 10 true oneNode 0 := by
  rintro ⟨response, hresponse⟩
  have hnone : (createResponse 0 (pageResults answersArray 10 true oneNode)).isNone = true := by
    decide
  rw [hresponse] at hnone
  cases hnone

end Survival

end AapGateway.StatusPage
