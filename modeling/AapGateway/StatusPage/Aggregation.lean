import AapGateway.StatusPage.Checks

/-!
# Aggregation of statuses

The statuses are ordered from good over degraded to failed, and a text that is none of the three
counts as failed. A service is good if it has a good node and no failed one, failed if it has a
failed node and no good one, and degraded otherwise. The platform has the worst status of its
services.

So a worse node never makes anything better.

## Main definitions

* `severity`: a status as one of the three;
* `Worsened`: one node of a service has a worse status.

## Main results

* `overall_le_iff`: the platform has the worst status of its services;
* `never_improves_of_worsened`: a worse node makes nothing better.
-/

namespace AapGateway.StatusPage

/-! ## The order of the statuses -/

/-- How bad a status is. -/
def Status.rank : Status → ℕ
  | .good => 0
  | .degraded => 1
  | .failed => 2

/-- Statuses are ordered by how bad they are. -/
instance : LinearOrder Status :=
  LinearOrder.lift' Status.rank fun a b h => by cases a <;> cases b <;> first | rfl | cases h

theorem good_le (s : Status) : Status.good ≤ s := by cases s <;> decide

theorem le_failed (s : Status) : s ≤ Status.failed := by cases s <;> decide

/-- A text as one of the three statuses. An unknown one counts as failed. -/
def severity (status : Json) : Status :=
  if status = .str Status.good.value then .good
  else if status = .str Status.degraded.value then .degraded
  else .failed

/-- The text of a status is of that status. -/
@[simp]
theorem severity_value (s : Status) : severity (.str s.value) = s := by
  cases s <;> simp [severity, Status.value]

/-- Only one text is good. -/
theorem severity_eq_good_iff {status : Json} :
    severity status = .good ↔ status = .str Status.good.value := by
  unfold severity
  split
  · simp_all
  · split <;> simp_all

/-- The status that counts for a node. -/
def NodeStatus.severity? (node : NodeStatus) : Option Status :=
  node.resolve.map fun (overallStatus, _) => severity overallStatus

/-! ## From the nodes to the service -/

section Nodes

variable {service service' : Service} {s s' : Status}

/-- A node is counted as good or as bad by its severity. -/
theorem countNode_eq (counts : ℕ × ℕ) (overallStatus : Json) :
    countNode counts overallStatus =
      (counts.1 + [severity overallStatus].count .good,
        counts.2 + [severity overallStatus].count .failed) := by
  unfold countNode severity
  split_ifs <;> simp_all [Status.value]

/-- The counts of a list of nodes. -/
theorem foldl_countNode {α : Type} (status : α → Json) (nodes : List α) (counts : ℕ × ℕ) :
    nodes.foldl (fun counts node => countNode counts (status node)) counts =
      (counts.1 + (nodes.map (severity ∘ status)).count .good,
        counts.2 + (nodes.map (severity ∘ status)).count .failed) := by
  induction nodes generalizing counts with
  | nil => rfl
  | cons node nodes ih =>
      rw [List.foldl_cons, ih, countNode_eq]
      simp only [List.map_cons, List.count_cons, List.count_nil, Function.comp_apply]
      ext1 <;> dsimp only <;> omega

/-- The status of a service whose nodes have these severities. -/
def ofSeverities (severities : List Status) : Status :=
  Service.statusOfCounts (severities.count .good) (severities.count .failed)

/-- Fewer good nodes and more bad ones are no better. -/
theorem statusOfCounts_mono {good good' bad bad' : ℕ} (hgood : good' ≤ good) (hbad : bad ≤ bad') :
    Service.statusOfCounts good bad ≤ Service.statusOfCounts good' bad' := by
  unfold Service.statusOfCounts
  split_ifs
  all_goals first | exact good_le _ | exact le_failed _ | exact le_rfl | omega

/-- Worse nodes make no better service. -/
theorem ofSeverities_mono {severities severities' : List Status}
    (h : List.Forall₂ (· ≤ ·) severities severities') :
    ofSeverities severities ≤ ofSeverities severities' := by
  have hcounts : severities'.count .good ≤ severities.count .good ∧
      severities.count .failed ≤ severities'.count .failed := by
    induction h with
    | nil => exact ⟨le_rfl, le_rfl⟩
    | @cons s s' _ _ hle _ ih =>
        -- A node that is good now was good before, and a failed one stays failed.
        have hgood : s' = .good → s = .good := fun h => le_antisymm (h ▸ hle) (good_le s)
        have hfailed : s = .failed → s' = .failed := fun h => le_antisymm (le_failed s') (h ▸ hle)
        obtain ⟨hgoods, hfaileds⟩ := ih
        simp only [List.count_cons, beq_iff_eq]
        constructor
        · split_ifs <;> simp_all
          omega
        · split_ifs <;> simp_all
          omega
  exact statusOfCounts_mono hcounts.1 hcounts.2

/-- A service is good exactly if it has a good node and no bad one. -/
theorem ofSeverities_eq_good_iff {severities : List Status} :
    ofSeverities severities = .good ↔ .good ∈ severities ∧ .failed ∉ severities := by
  rw [ofSeverities, Service.statusOfCounts, ← List.count_pos_iff, ← List.count_eq_zero]
  split_ifs with hgood hfailed
  · exact iff_of_true rfl hgood
  · exact iff_of_false (by decide) hgood
  · exact iff_of_false (by decide) hgood

/-- The severities of the nodes of a service, unless one of them cannot be read. -/
def Service.severities? (service : Service) : Option (List Status) :=
  service.nodes.items.mapM fun item => item.2.severity?

/-- What the nodes of a service are replaced by, with their statuses. -/
def Resolved (nodes : Dict NodeStatus) (resolved : Dict (Json × NodeStatus)) : Prop :=
  List.Forall₂ (fun item item' => item.1 = item'.1 ∧ item.2.resolve = some item'.2)
    nodes.items resolved.items

/-- The severities of the nodes, as they are resolved. -/
theorem Resolved.severities?_eq {resolved : Dict (Json × NodeStatus)}
    (h : Resolved service.nodes resolved) :
    service.severities? = some (resolved.items.map fun item => severity item.2.1) := by
  rw [Service.severities?, List.mapM_eq_some_iff, List.forall₂_map_right_iff]
  exact h.imp fun item item' hitem => by rw [NodeStatus.severity?, hitem.2]; rfl

/-- The status of a service by its nodes, which are noted with the statuses that count. -/
theorem determineServiceStatus_eq_some_iff {status : Status} :
    service.determineServiceStatus = some (status, service') ↔
      ∃ resolved, Resolved service.nodes resolved ∧
        status = ofSeverities (resolved.items.map fun item => severity item.2.1) ∧
        service' = { service with nodes := resolved.mapValues Prod.snd } := by
  have hcounts : ∀ resolved : Dict (Json × NodeStatus),
      resolved.items.foldl (fun counts item => countNode counts item.2.1) (0, 0) =
        ((resolved.items.map fun item => severity item.2.1).count .good,
          (resolved.items.map fun item => severity item.2.1).count .failed) := by
    intro resolved
    refine (foldl_countNode (fun item : String × Json × NodeStatus => item.2.1) _ _).trans ?_
    rw [Nat.zero_add, Nat.zero_add]
    rfl
  rw [Service.determineServiceStatus, Service.getGoodAndBadNodeCounts, Option.map_map,
    Option.map_eq_some_iff]
  refine exists_congr fun resolved => ?_
  rw [Dict.mapValues?_eq_some, Resolved, Function.comp_apply, hcounts, Prod.mk.injEq,
    ofSeverities, eq_comm (a := status), eq_comm (a := service')]

/-- The status of a service by the severities of its nodes. -/
theorem map_fst_determineServiceStatus (service : Service) :
    service.determineServiceStatus.map Prod.fst = service.severities?.map ofSeverities := by
  cases hdetermined : service.determineServiceStatus with
  | some determined =>
      obtain ⟨resolved, hresolved, hstatus, -⟩ := determineServiceStatus_eq_some_iff.mp hdetermined
      rw [hresolved.severities?_eq, Option.map_some, Option.map_some, ← hstatus]
  | none =>
      -- A node that cannot be read ends both.
      rw [Service.determineServiceStatus, Option.map_eq_none_iff, Service.getGoodAndBadNodeCounts,
        Option.map_eq_none_iff, ← Option.not_isSome_iff_eq_none, Dict.isSome_mapValues?_iff]
        at hdetermined
      have hnone : service.severities? = none := by
        rw [Service.severities?, ← Option.not_isSome_iff_eq_none, List.isSome_mapM_iff]
        simpa only [NodeStatus.severity?, Option.isSome_map] using hdetermined
      rw [hnone]
      rfl

end Nodes

/-! ## From the services to the platform -/

section Services

variable {service service' : Service} {services services' : List Service} {r r' : Response}
  {status : Status}

/-- The counts of a list of services bound a status exactly if each of them does. -/
theorem overall_foldl_le_iff (counts : ServiceCounts) :
    (services.foldl ServiceCounts.count counts).overall ≤ status ↔
      counts.overall ≤ status ∧ ∀ service ∈ services, severity service.status ≤ status := by
  have hcount : ∀ (counts : ServiceCounts) (service : Service),
      (counts.count service).overall ≤ status ↔
        counts.overall ≤ status ∧ severity service.status ≤ status := by
    intro counts service
    unfold ServiceCounts.count severity ServiceCounts.overall
    cases status <;> split_ifs <;> simp_all [Status.value] <;> decide
  induction services generalizing counts with
  | nil => simp
  | cons service services ih =>
      rw [List.foldl_cons]
      refine (ih _).trans ?_
      rw [hcount, List.forall_mem_cons, and_assoc]

/-- The platform has the worst status of its services. -/
theorem overall_le_iff :
    (services.foldl ServiceCounts.count {}).overall ≤ status ↔
      ∀ service ∈ services, severity service.status ≤ status := by
  rw [overall_foldl_le_iff]
  exact and_iff_right (good_le status)

/-- The response with the statuses, when no service ends it. -/
theorem processStatuses_eq_some_iff :
    processStatuses r = some r' ↔
      ∃ services, List.Forall₂ (fun service service' => service.process = some service')
          r.services services ∧
        r' = { r with services, status := (services.foldl ServiceCounts.count {}).overall } := by
  rw [processStatuses, Option.map_eq_some_iff]
  exact exists_congr fun services => by rw [List.mapM_eq_some_iff, eq_comm (a := r')]

/-- A response whose services are no better, one by one, is no better. -/
theorem processStatuses_mono {services services' : List Service} {time : ℚ} {initial : Status}
    (h : List.Forall₂ (fun service service' => ∀ p, service.process = some p →
      ∃ p', service'.process = some p' ∧ severity p.status ≤ severity p'.status)
      services services')
    (hr : processStatuses ⟨time, initial, services⟩ = some r) :
    ∃ r', processStatuses ⟨time, initial, services'⟩ = some r' ∧ r.status ≤ r'.status := by
  obtain ⟨processed, hprocessed, rfl⟩ := processStatuses_eq_some_iff.mp hr
  have hworse : ∃ processed', List.Forall₂ (fun s s' => s.process = some s') services' processed' ∧
      List.Forall₂ (fun p p' : Service => severity p.status ≤ severity p'.status)
        processed processed' := by
    clear hr
    dsimp only at hprocessed
    induction h generalizing processed with
    | nil =>
        cases hprocessed
        exact ⟨[], .nil, .nil⟩
    | cons hservice _ ih =>
        cases hprocessed with
        | cons hp hrest =>
            obtain ⟨p', hp', hle⟩ := hservice _ hp
            obtain ⟨rest', hrest', hles⟩ := ih _ hrest
            exact ⟨p' :: rest', .cons hp' hrest', .cons hle hles⟩
  obtain ⟨processed', hprocessed', hles⟩ := hworse
  refine ⟨_, processStatuses_eq_some_iff.mpr ⟨processed', hprocessed', rfl⟩, ?_⟩
  refine overall_le_iff.mpr fun p hp => ?_
  obtain ⟨p', hp', hle⟩ := hles.exists_of_mem_left hp
  exact hle.trans (overall_le_iff.mp le_rfl p' hp')

/-- One node of a service has a worse status, which is the one that counts. -/
def Worsened (service service' : Service) : Prop :=
  ∃ nodeId node node' s s', service.nodes.get? nodeId = some node ∧ node.severity? = some s ∧
    node'.severity? = some s' ∧ s ≤ s' ∧
    service' = { service with nodes := service.nodes.set nodeId node' }

/-- The severities of the nodes are the same or worse. -/
theorem Worsened.severities? (h : Worsened service service') {severities : List Status}
    (hs : service.severities? = some severities) :
    ∃ severities', service'.severities? = some severities' ∧
      List.Forall₂ (· ≤ ·) severities severities' := by
  obtain ⟨nodeId, node, node', s, s', hnode, hsev, hsev', hle, rfl⟩ := h
  have hitem := (service.nodes.get?_eq_some).mp hnode
  rw [Service.severities?, List.mapM_eq_some_iff] at hs
  rw [Service.severities?, Dict.items_set_of_mem (List.mem_map_of_mem (f := Prod.fst) hitem)]
  -- The other nodes are as they were.
  have hnodes : ∀ item ∈ service.nodes.items, item.1 = nodeId → item.2 = node := by
    rintro item hmem rfl
    exact Option.some.inj (((service.nodes.get?_eq_some).mpr hmem).symm.trans hnode)
  clear hitem hnode
  generalize service.nodes.items = items at hs hnodes
  induction hs with
  | nil => exact ⟨[], rfl, .nil⟩
  | @cons item t items ts ht _ ih =>
      obtain ⟨hfirst, hrest⟩ := List.forall_mem_cons.mp hnodes
      obtain ⟨severities', hseverities', hles⟩ := ih hrest
      rw [List.map_cons, List.mapM_cons, hseverities']
      split
      · rename_i hkey
        rw [hfirst hkey, hsev] at ht
        cases ht
        exact ⟨s' :: severities', by rw [hsev']; rfl, .cons hle hles⟩
      · exact ⟨t :: severities', by rw [ht]; rfl, .cons le_rfl hles⟩

/-- A worse node makes its service no better. -/
theorem Worsened.determineServiceStatus (h : Worsened service service')
    {determined : Status × Service} (hd : service.determineServiceStatus = some determined) :
    ∃ determined', service'.determineServiceStatus = some determined' ∧
      determined.1 ≤ determined'.1 := by
  have hsome := map_fst_determineServiceStatus service
  rw [hd, Option.map_some, eq_comm, Option.map_eq_some_iff] at hsome
  obtain ⟨severities, hseverities, hstatus⟩ := hsome
  obtain ⟨severities', hseverities', hles⟩ := h.severities? hseverities
  have hsome' := map_fst_determineServiceStatus service'
  rw [hseverities', Option.map_some, Option.map_eq_some_iff] at hsome'
  obtain ⟨determined', hd', hstatus'⟩ := hsome'
  refine ⟨determined', hd', ?_⟩
  rw [← hstatus, hstatus']
  exact ofSeverities_mono hles

/-- Neither does it so when the status of the service is known already. -/
theorem Worsened.process (h : Worsened service service') {p : Service}
    (hp : service.process = some p) :
    ∃ p', service'.process = some p' ∧ severity p.status ≤ severity p'.status := by
  have hstatus : service'.status = service.status := by
    obtain ⟨_, _, _, _, _, _, _, _, _, rfl⟩ := h
    rfl
  unfold Service.process at hp ⊢
  rw [hstatus]
  split
  · rename_i hunknown
    rw [if_pos hunknown] at hp
    obtain ⟨determined, hd, rfl⟩ := Option.map_eq_some_iff.mp hp
    obtain ⟨determined', hd', hle⟩ := h.determineServiceStatus hd
    refine ⟨_, Option.map_eq_some_iff.mpr ⟨determined', hd', rfl⟩, ?_⟩
    simpa only [severity_value] using hle
  · rename_i hknown
    rw [if_neg hknown] at hp
    cases hp
    exact ⟨service', rfl, by rw [hstatus]⟩

/-- A worse status of one node never improves the status that its service is given, nor the status
of the platform. -/
theorem never_improves_of_worsened (before after : List Service) (time : ℚ) (initial : Status)
    (h : Worsened service service') :
    (∀ determined, service.determineServiceStatus = some determined →
      ∃ determined', service'.determineServiceStatus = some determined' ∧
        determined.1 ≤ determined'.1) ∧
    ∀ r, processStatuses ⟨time, initial, before ++ service :: after⟩ = some r →
      ∃ r', processStatuses ⟨time, initial, before ++ service' :: after⟩ = some r' ∧
        r.status ≤ r'.status := by
  refine ⟨fun _ hd => h.determineServiceStatus hd, fun r hr => processStatuses_mono ?_ hr⟩
  have hsame : ∀ services : List Service, List.Forall₂ (fun service service' : Service =>
      ∀ p, service.process = some p →
        ∃ p', service'.process = some p' ∧ severity p.status ≤ severity p'.status)
      services services :=
    fun services => List.forall₂_same.mpr fun _ _ p hp => ⟨p, hp, le_rfl⟩
  exact List.rel_append (hsame before) (.cons (fun p hp => h.process hp) (hsame after))

/-- A service of the automation controller with a good node and one of some status. -/
def controllerWith (status : String) : Service where
  serviceName := "controller"
  nodes := (Dict.empty.set "10.0.0.1:443" { status := some (.str "good") }).set "10.0.0.2:443"
    { status := some (.str status) }

/-- The second node fails next to the first. -/
theorem never_improves_controllerWith :
    Worsened (controllerWith "good") (controllerWith "failed") ∧
      ∀ r, processStatuses ⟨0, .good, [controllerWith "good"]⟩ = some r →
        ∃ r', processStatuses ⟨0, .good, [controllerWith "failed"]⟩ = some r' ∧
          r.status ≤ r'.status := by
  have h : Worsened (controllerWith "good") (controllerWith "failed") :=
    ⟨"10.0.0.2:443", { status := some (.str "good") }, { status := some (.str "failed") },
      .good, .failed, rfl, rfl, rfl, by decide, rfl⟩
  exact ⟨h, (never_improves_of_worsened [] [] 0 .good h).2⟩

end Services

end AapGateway.StatusPage
