import AapGateway.Routes.ServiceRequests

/-!
# Writes through the proxy

A request that comes through the proxy must not break the gateway, which is reached through the
same proxy. The viewsets refuse such writes one object at a time; a delete cascades to other rows,
and a write of one resource can change what another viewset reads. Here it is shown what the
refusals amount to: which rows are still stored, unchanged, after any sequence of proxied requests.

## Main definitions

* `ServiceRow`: a row of one of the service tables;
* `Tables.Guarded`: the rows that proxied requests cannot change;
* `ProxiedRun`: the databases that accepted proxied requests lead to.

## Main results

* `keepsGuarded_of_perform`: one accepted request keeps the guarded rows;
* `exists_removal`: a row that is not guarded can be deleted by one request;
* `forall_proxiedRun_holds_iff`: the rows that survive every run are exactly the guarded ones.
-/

namespace AapGateway.Routes

/-- A row of a service table. -/
inductive ServiceRow where
  | serviceType (s : ServiceType)
  | serviceCluster (c : ServiceCluster ℕ)
  | serviceNode (n : ServiceNode)
  | httpPort (p : HTTPPort)
  | route (r : Route ℕ)
  deriving DecidableEq, Repr

/-- The type of the gateway. -/
def IsGateway (name : String) : Prop :=
  name = DefaultServiceType.gateway.value

/-- The name is that of a default service type. -/
def IsDefault (name : String) : Prop :=
  DefaultServiceType.isDefault name = true

/-- What the type of the cluster has to be, for a route of the class to be kept. No viewset writes
plain routes, and nothing protects additional routes. -/
def guardOfKind : RouteKind → String → Prop
  | .route => IsDefault
  | .additionalRoute => fun _ => False
  | .serviceAPIRoute _ => IsGateway
  | .uiPluginRoute _ => IsGateway

end Routes

namespace Tables

open Routes

/-- The row is stored. -/
def Holds (t : Tables) : ServiceRow → Prop
  | .serviceType s => s ∈ t.serviceTypes
  | .serviceCluster c => c ∈ t.serviceClusters
  | .serviceNode n => n ∈ t.serviceNodes
  | .httpPort p => p ∈ t.httpPorts
  | .route r => r ∈ t.routes

/-- The name of the type of a cluster satisfies a condition. -/
def ClusterTypeIs (t : Tables) (cluster : ℕ) (p : String → Prop) : Prop :=
  ∃ c ∈ t.serviceClusters, c.pk = cluster ∧ ∃ s ∈ t.serviceTypes, s.pk = c.serviceType ∧ p s.name

/-- The rows that a proxied request cannot change. A route has to be on the API port, since a delete
of any other port takes its routes with it. -/
def Guarded (t : Tables) : ServiceRow → Prop
  | .serviceType s => IsDefault s.name
  | .serviceCluster c => ∃ s ∈ t.serviceTypes, s.pk = c.serviceType ∧ IsDefault s.name
  | .serviceNode n => t.ClusterTypeIs n.serviceCluster IsGateway
  | .httpPort p => p.isApiPort = true
  | .route r =>
    (∃ p ∈ t.httpPorts, p.pk = r.httpPort ∧ p.isApiPort = true) ∧
      t.ClusterTypeIs r.serviceCluster (guardOfKind r.kind)

/-- Every guarded row of some tables is stored in others. -/
def KeepsGuarded (t t' : Tables) : Prop :=
  ∀ row, t.Holds row → t.Guarded row → t'.Holds row

end Tables

namespace Routes

/-- The databases that accepted proxied requests lead to. -/
inductive ProxiedRun (env : ServiceEnv) (init : Database) : Database → Prop
  | start : ProxiedRun env init init
  | step {db db' : Database} {req : ServiceRequest} (h : ProxiedRun env init db)
      (hproxied : req.Proxied) (hperform : req.perform env db = .ok db') :
      ProxiedRun env init db'

section Guards

variable {t t' : Tables} {row : ServiceRow} {cluster : ℕ} {p q : String → Prop} {name : String}

/-- The type of the gateway is a default type. -/
theorem IsGateway.isDefault (h : IsGateway name) : IsDefault name := by
  rw [h]
  rfl

/-- Whatever a route needs, its cluster is of a default type. -/
theorem isDefault_of_guardOfKind {kind : RouteKind} (h : guardOfKind kind name) :
    IsDefault name := by
  cases kind with
  | route => exact h
  | additionalRoute => exact h.elim
  | serviceAPIRoute _ => exact IsGateway.isDefault h
  | uiPluginRoute _ => exact IsGateway.isDefault h

/-- A cluster of a default type keeps its type, when the guarded rows are kept. -/
theorem clusterTypeIs_of_keeps (hkeeps : t.KeepsGuarded t') (hp : ∀ name, p name → IsDefault name)
    (h : t.ClusterTypeIs cluster p) : t'.ClusterTypeIs cluster p := by
  obtain ⟨c, hc, hpk, s, hs, htype, hname⟩ := h
  have hc' : c ∈ t'.serviceClusters :=
    hkeeps (.serviceCluster c) hc ⟨s, hs, htype, hp _ hname⟩
  have hs' : s ∈ t'.serviceTypes := hkeeps (.serviceType s) hs (hp _ hname)
  exact ⟨c, hc', hpk, s, hs', htype, hname⟩

/-- A guarded row stays guarded, when the guarded rows are kept. -/
theorem guarded_of_keeps (hkeeps : t.KeepsGuarded t') (h : t.Guarded row) : t'.Guarded row := by
  cases row with
  | serviceType s => exact h
  | serviceCluster c =>
      obtain ⟨s, hs, htype, hname⟩ := h
      exact ⟨s, hkeeps (.serviceType s) hs hname, htype, hname⟩
  | serviceNode n => exact clusterTypeIs_of_keeps hkeeps (fun _ => IsGateway.isDefault) h
  | httpPort p => exact h
  | route r =>
      obtain ⟨⟨p, hp, hpk, hapi⟩, hcluster⟩ := h
      exact ⟨⟨p, hkeeps (.httpPort p) hp hapi, hpk, hapi⟩,
        clusterTypeIs_of_keeps hkeeps (fun _ => isDefault_of_guardOfKind) hcluster⟩

/-- Tables with the rows of `t` and more keep the guarded rows. -/
theorem keepsGuarded_of_forall
    (htypes : ∀ s ∈ t.serviceTypes, t.Guarded (.serviceType s) → s ∈ t'.serviceTypes)
    (hclusters : ∀ c ∈ t.serviceClusters, t.Guarded (.serviceCluster c) → c ∈ t'.serviceClusters)
    (hnodes : ∀ n ∈ t.serviceNodes, t.Guarded (.serviceNode n) → n ∈ t'.serviceNodes)
    (hports : ∀ p ∈ t.httpPorts, t.Guarded (.httpPort p) → p ∈ t'.httpPorts)
    (hroutes : ∀ r ∈ t.routes, t.Guarded (.route r) → r ∈ t'.routes) : t.KeepsGuarded t' := by
  intro row hrow hguard
  cases row with
  | serviceType s => exact htypes s hrow hguard
  | serviceCluster c => exact hclusters c hrow hguard
  | serviceNode n => exact hnodes n hrow hguard
  | httpPort p => exact hports p hrow hguard
  | route r => exact hroutes r hrow hguard

end Guards

section Lookups

variable (db : Database) {cluster : ℕ} {p : String → Prop}

/-- Following the keys of a cluster to its type finds what is stored. -/
theorem clusterTypeIs_iff :
    db.ClusterTypeIs cluster p ↔
      ∃ c, db.clusterByPk cluster = some c ∧ p c.serviceType.name := by
  constructor
  · rintro ⟨c, hc, rfl, s, hs, htype, hname⟩
    refine ⟨{ c with serviceType := s }, ?_, hname⟩
    rw [Tables.clusterByPk, Table.find?_of_mem db.integrity.1.2.2.1 hc, Option.bind_some,
      Tables.resolveCluster, ← htype, Table.find?_of_mem db.integrity.1.1 hs]
    rfl
  · rintro ⟨c, hc, hname⟩
    obtain ⟨row, hrow, hresolve⟩ := Option.bind_eq_some_iff.mp hc
    obtain ⟨s, hs, rfl⟩ := Option.map_eq_some_iff.mp hresolve
    have hpk := List.find?_some hrow
    have htype := List.find?_some hs
    exact ⟨row, List.mem_of_find?_eq_some hrow, of_decide_eq_true hpk, s,
      List.mem_of_find?_eq_some hs, of_decide_eq_true htype, hname⟩

/-- A check of the type of a cluster, as the viewsets make it. -/
theorem any_clusterByPk_iff [DecidablePred p] :
    (db.clusterByPk cluster).any (fun c => p c.serviceType.name) = true ↔
      db.ClusterTypeIs cluster p := by
  rw [clusterTypeIs_iff, Option.any_eq_true]
  simp only [decide_eq_true_eq]

/-- The same for the row of a cluster. -/
theorem any_resolveCluster_iff [DecidablePred p] {c : ServiceCluster ℕ} :
    (db.resolveCluster c).any (fun c => p c.serviceType.name) = true ↔
      ∃ s ∈ db.serviceTypes, s.pk = c.serviceType ∧ p s.name := by
  rw [Option.any_eq_true]
  simp only [decide_eq_true_eq, Tables.resolveCluster, Option.map_eq_some_iff]
  constructor
  · rintro ⟨_, ⟨s, hs, rfl⟩, hname⟩
    have htype := List.find?_some hs
    exact ⟨s, List.mem_of_find?_eq_some hs, of_decide_eq_true htype, hname⟩
  · rintro ⟨s, hs, htype, hname⟩
    refine ⟨_, ⟨s, ?_, rfl⟩, hname⟩
    rw [← htype]
    exact Table.find?_of_mem db.integrity.1.1 hs

end Lookups

section Removals

variable {t t' : Tables}

/-- Distinct columns stay distinct in a part of the rows. -/
theorem uniqueColumns_of_sublist (h : t.UniqueColumns)
    (htypes : t'.serviceTypes.Sublist t.serviceTypes)
    (hclusters : t'.serviceClusters.Sublist t.serviceClusters)
    (hnodes : t'.serviceNodes.Sublist t.serviceNodes)
    (hports : t'.httpPorts.Sublist t.httpPorts) (hroutes : t'.routes.Sublist t.routes)
    (hcertificates : t'.caCertificates.Sublist t.caCertificates) : t'.UniqueColumns := by
  obtain ⟨h₁, h₂, h₃, h₄, h₅, h₆, h₇, h₈, h₉, h₁₀, h₁₁, h₁₂, h₁₃, h₁₄, h₁₅, h₁₆⟩ := h
  exact ⟨h₁.sublist (htypes.map _), h₂.sublist (htypes.map _), h₃.sublist (hclusters.map _),
    h₄.sublist (hclusters.map _), h₅.sublist (hclusters.filterMap _), h₆.sublist (hnodes.map _),
    h₇.sublist (hnodes.map _), h₈.sublist (hports.map _), h₉.sublist (hports.map _),
    h₁₀.sublist (hports.map _), h₁₁.sublist ((hports.filter _).map _),
    h₁₂.sublist (hroutes.map _), h₁₃.sublist (hroutes.map _), h₁₄.sublist (hroutes.map _),
    h₁₅.sublist (hcertificates.map _), h₁₆.sublist (hcertificates.map _)⟩

/-- A deletion leaves a part of the rows. -/
theorem erase_sublist {α : Type} (p : α → Bool) (rows : List α) :
    (Table.erase p rows).Sublist rows :=
  List.filter_sublist

/-- A foreign key still leads to a row, if the rows with the deleted keys are deleted too. -/
theorem mem_map_erase {α κ : Type} {key : α → κ} {p : α → Bool} {rows : List α} {k : κ}
    (h : k ∈ rows.map key) (hkept : ∀ row ∈ rows, key row = k → p row = false) :
    k ∈ (Table.erase p rows).map key := by
  obtain ⟨row, hrow, rfl⟩ := List.mem_map.mp h
  exact List.mem_map_of_mem (Table.mem_erase.mpr ⟨hrow, hkept row hrow rfl⟩)

/-- The cascade of deleted clusters leaves no key that leads nowhere. -/
theorem foreignKeys_eraseClusters (h : t.ForeignKeys) (p : ServiceCluster ℕ → Bool) :
    (t.eraseClusters p).ForeignKeys := by
  obtain ⟨htypes, hnodes, hroutes, hports⟩ := h
  -- A row whose cluster is gone is gone, so the cluster of a row that is left is there.
  have hkept : ∀ k, ((t.serviceClusters.filter p).map ServiceCluster.pk).contains k = false →
      ∀ c ∈ t.serviceClusters, c.pk = k → p c = false := by
    intro k hgone c hc hpk
    by_contra hp
    rw [Bool.not_eq_false] at hp
    rw [List.contains_eq_mem, decide_eq_false_iff_not] at hgone
    exact hgone (hpk ▸ List.mem_map_of_mem (List.mem_filter.mpr ⟨hc, hp⟩))
  refine ⟨fun c hc => htypes c (Table.mem_erase.mp hc).1, fun n hn => ?_, fun r hr => ?_,
    fun r hr => hports r (Table.mem_erase.mp hr).1⟩
  · obtain ⟨hmem, hgone⟩ := Table.mem_erase.mp hn
    exact mem_map_erase (hnodes n hmem) (hkept _ hgone)
  · obtain ⟨hmem, hgone⟩ := Table.mem_erase.mp hr
    exact mem_map_erase (hroutes r hmem) (hkept _ hgone)

/-- A delete with its cascade keeps the constraints. -/
theorem integrity_remove (h : t.Integrity) (target : Target) : (t.remove target).Integrity := by
  obtain ⟨hunique, hkeys⟩ := h
  refine ⟨?_, ?_⟩
  · cases target <;>
      apply uniqueColumns_of_sublist hunique <;>
      first
        | exact List.Sublist.refl _
        | exact erase_sublist _ _
  · cases target with
    | serviceType pk =>
        obtain ⟨htypes, hrest⟩ := foreignKeys_eraseClusters hkeys (·.serviceType = pk)
        refine ⟨fun c hc => ?_, hrest⟩
        -- The clusters that are left are those of the other types.
        apply mem_map_erase (htypes c hc)
        intro s _ hpk
        have hother := (Table.mem_erase.mp hc).2
        rw [hpk]
        exact hother
    | serviceCluster pk => exact foreignKeys_eraseClusters hkeys _
    | serviceNode pk =>
        exact ⟨hkeys.1, fun n hn => hkeys.2.1 n (Table.mem_erase.mp hn).1, hkeys.2.2⟩
    | httpPort pk =>
        refine ⟨hkeys.1, hkeys.2.1, fun r hr => hkeys.2.2.1 r (Table.mem_erase.mp hr).1,
          fun r hr => ?_⟩
        obtain ⟨hmem, hother⟩ := Table.mem_erase.mp hr
        apply mem_map_erase (hkeys.2.2.2 r hmem)
        intro p _ hpk
        rw [hpk]
        exact hother
    | route pk =>
        exact ⟨hkeys.1, hkeys.2.1, fun r hr => hkeys.2.2.1 r (Table.mem_erase.mp hr).1,
          fun r hr => hkeys.2.2.2 r (Table.mem_erase.mp hr).1⟩
    | caCertificate pk => exact hkeys

/-- A delete is accepted. -/
theorem delete_eq_ok (db : Database) (target : Target) :
    db.delete target = .ok ⟨db.remove target, integrity_remove db.integrity target⟩ := by
  rw [Database.delete, Database.commit, dif_pos (integrity_remove db.integrity target)]

end Removals

section Steps

variable {db db' : Database} {t : Tables} {pk : ℕ}

/-- A write of a service type that is not a default one. -/
theorem keepsGuarded_serviceType {s : ServiceType}
    (hne : ∀ s' ∈ t.serviceTypes, IsDefault s'.name → s'.pk ≠ s.pk) :
    t.KeepsGuarded { t with serviceTypes := Table.upsert ServiceType.pk s t.serviceTypes } :=
  keepsGuarded_of_forall
    (fun s' hs' hname => Table.mem_upsert.mpr (Or.inr ⟨hs', hne s' hs' hname⟩))
    (fun _ h _ => h) (fun _ h _ => h) (fun _ h _ => h) (fun _ h _ => h)

/-- A write of a cluster that is not of a default type. -/
theorem keepsGuarded_serviceCluster {c : ServiceCluster ℕ}
    (hne : ∀ c' ∈ t.serviceClusters, t.Guarded (.serviceCluster c') → c'.pk ≠ c.pk) :
    t.KeepsGuarded
      { t with serviceClusters := Table.upsert ServiceCluster.pk c t.serviceClusters } :=
  keepsGuarded_of_forall (fun _ h _ => h)
    (fun c' hc' hguard => Table.mem_upsert.mpr (Or.inr ⟨hc', hne c' hc' hguard⟩))
    (fun _ h _ => h) (fun _ h _ => h) (fun _ h _ => h)

/-- A write of a node that is not one of the gateway. -/
theorem keepsGuarded_serviceNode {n : ServiceNode}
    (hne : ∀ n' ∈ t.serviceNodes, t.Guarded (.serviceNode n') → n'.pk ≠ n.pk) :
    t.KeepsGuarded { t with serviceNodes := Table.upsert ServiceNode.pk n t.serviceNodes } :=
  keepsGuarded_of_forall (fun _ h _ => h) (fun _ h _ => h)
    (fun n' hn' hguard => Table.mem_upsert.mpr (Or.inr ⟨hn', hne n' hn' hguard⟩))
    (fun _ h _ => h) (fun _ h _ => h)

/-- A write of a port that is not the API port. -/
theorem keepsGuarded_httpPort {p : HTTPPort}
    (hne : ∀ p' ∈ t.httpPorts, p'.isApiPort = true → p'.pk ≠ p.pk) :
    t.KeepsGuarded { t with httpPorts := Table.upsert HTTPPort.pk p t.httpPorts } :=
  keepsGuarded_of_forall (fun _ h _ => h) (fun _ h _ => h) (fun _ h _ => h)
    (fun p' hp' hapi => Table.mem_upsert.mpr (Or.inr ⟨hp', hne p' hp' hapi⟩)) (fun _ h _ => h)

/-- A write of a route that is not guarded. -/
theorem keepsGuarded_route {r : Route ℕ}
    (hne : ∀ r' ∈ t.routes, t.Guarded (.route r') → r'.pk ≠ r.pk) :
    t.KeepsGuarded { t with routes := Table.upsert Route.pk r t.routes } :=
  keepsGuarded_of_forall (fun _ h _ => h) (fun _ h _ => h) (fun _ h _ => h) (fun _ h _ => h)
    (fun r' hr' hguard => Table.mem_upsert.mpr (Or.inr ⟨hr', hne r' hr' hguard⟩))

/-- The cluster that a guarded node or route needs is not among deleted ones that are not
guarded. -/
theorem notMem_gone (db : Database) {p : ServiceCluster ℕ → Bool} {cluster : ℕ}
    {q : String → Prop}
    (hp : ∀ c ∈ db.serviceClusters, db.Guarded (.serviceCluster c) → p c = false)
    (hq : ∀ name, q name → IsDefault name) (h : db.ClusterTypeIs cluster q) :
    ((db.serviceClusters.filter p).map ServiceCluster.pk).contains cluster = false := by
  obtain ⟨c, hc, rfl, s, hs, htype, hname⟩ := h
  rw [List.contains_eq_mem, decide_eq_false_iff_not]
  intro hgone
  obtain ⟨c', hc', hpk⟩ := List.mem_map.mp hgone
  obtain ⟨hmem, hdeleted⟩ := List.mem_filter.mp hc'
  have hsame : c' = c := List.inj_on_of_nodup_map db.integrity.1.2.2.1 hmem hc hpk
  rw [hsame, hp c hc ⟨s, hs, htype, hq _ hname⟩] at hdeleted
  exact Bool.noConfusion hdeleted

/-- The cascade of clusters that are not guarded. -/
theorem keepsGuarded_eraseClusters (db : Database) {p : ServiceCluster ℕ → Bool}
    (hp : ∀ c ∈ db.serviceClusters, db.Guarded (.serviceCluster c) → p c = false) :
    db.KeepsGuarded (db.eraseClusters p) :=
  keepsGuarded_of_forall (fun _ h _ => h)
    (fun c hc hguard => Table.mem_erase.mpr ⟨hc, hp c hc hguard⟩)
    (fun _ hn hguard => Table.mem_erase.mpr
      ⟨hn, notMem_gone db hp (fun _ => IsGateway.isDefault) hguard⟩)
    (fun _ h _ => h)
    (fun _ hr hguard => Table.mem_erase.mpr
      ⟨hr, notMem_gone db hp (fun _ => isDefault_of_guardOfKind) hguard.2⟩)

/-- A delete of a service type that is not a default one. -/
theorem keepsGuarded_remove_serviceType (db : Database)
    (hne : ∀ s ∈ db.serviceTypes, IsDefault s.name → s.pk ≠ pk) :
    db.KeepsGuarded (db.remove (.serviceType pk)) := by
  have herase := keepsGuarded_eraseClusters db (p := (·.serviceType = pk)) (by
    rintro c - ⟨s, hs, htype, hname⟩
    rw [← htype, decide_eq_false (hne s hs hname)])
  intro row hrow hguard
  have hkept := herase row hrow hguard
  cases row with
  | serviceType s => exact Table.mem_erase.mpr ⟨hkept, decide_eq_false (hne s hrow hguard)⟩
  | serviceCluster c => exact hkept
  | serviceNode n => exact hkept
  | httpPort p => exact hkept
  | route r => exact hkept

/-- A delete of a port that is not the API port takes no guarded route with it. -/
theorem keepsGuarded_remove_httpPort (hne : ∀ p ∈ t.httpPorts, p.isApiPort = true → p.pk ≠ pk) :
    t.KeepsGuarded (t.remove (.httpPort pk)) := by
  refine keepsGuarded_of_forall (fun _ h _ => h) (fun _ h _ => h) (fun _ h _ => h) ?_ ?_
  · intro p hp hapi
    exact Table.mem_erase.mpr ⟨hp, decide_eq_false (hne p hp hapi)⟩
  · rintro r hr ⟨⟨p, hp, hpk, hapi⟩, -⟩
    refine Table.mem_erase.mpr ⟨hr, ?_⟩
    rw [← hpk]
    exact decide_eq_false (hne p hp hapi)

/-- A delete of a route that is not guarded. -/
theorem keepsGuarded_remove_route (hne : ∀ r ∈ t.routes, t.Guarded (.route r) → r.pk ≠ pk) :
    t.KeepsGuarded (t.remove (.route pk)) :=
  keepsGuarded_of_forall (fun _ h _ => h) (fun _ h _ => h) (fun _ h _ => h) (fun _ h _ => h)
    (fun r hr hguard => Table.mem_erase.mpr ⟨hr, decide_eq_false (hne r hr hguard)⟩)

/-- A delete of a node that is not one of the gateway. -/
theorem keepsGuarded_remove_serviceNode
    (hne : ∀ n ∈ t.serviceNodes, t.Guarded (.serviceNode n) → n.pk ≠ pk) :
    t.KeepsGuarded (t.remove (.serviceNode pk)) :=
  keepsGuarded_of_forall (fun _ h _ => h) (fun _ h _ => h)
    (fun n hn hguard => Table.mem_erase.mpr ⟨hn, decide_eq_false (hne n hn hguard)⟩)
    (fun _ h _ => h) (fun _ h _ => h)

/-- A row that may be written is the only row with its key, so the guarded rows have others. -/
theorem key_ne_of_unguarded {α : Type} {key : α → ℕ} {rows : List α} {row : α} {q : α → Prop}
    (hkeys : (rows.map key).Nodup) (hrow : row ∈ rows) (hq : ¬q row) :
    ∀ a ∈ rows, q a → key a ≠ key row := by
  intro a ha hqa hkey
  exact hq (List.inj_on_of_nodup_map hkeys ha hrow hkey ▸ hqa)

/-- No row has the key of a new one. -/
theorem key_ne_of_fresh {α : Type} {key : α → ℕ} {rows : List α} {q : α → Prop}
    (hfresh : pk ∉ rows.map key) : ∀ a ∈ rows, q a → key a ≠ pk := by
  rintro a ha - rfl
  exact hfresh (List.mem_map_of_mem ha)

end Steps

section Requests

variable {env : ServiceEnv} {db db' : Database}

/-- An accepted proxied request of a viewset writes or deletes a row whose key is not that of a
guarded one. -/
theorem ViewSet.Effect.write_or_remove {Row Payload : Type} {v : ViewSet Row Payload}
    {serviceId : String} {req : RowRequest Payload} (h : v.Effect serviceId db db' req)
    (guard : Row → Prop) (hproxied : req.fromProxy = true)
    (hkeys : ((v.queryset db.toTables).map v.key).Nodup)
    (hguard : ∀ row ∈ v.queryset db.toTables,
      v.objectWriteUnsafe db.toTables row = false → ¬guard row)
    (hnew : ∀ pk attrs row, v.newRow pk attrs = some row → v.key row = pk)
    (hassign : ∀ attrs row, v.key (v.assign attrs row) = v.key row) :
    (∃ row, db.write serviceId (v.object row) = .ok db'.toTables ∧
      ∀ a ∈ v.queryset db.toTables, guard a → v.key a ≠ v.key row) ∨
    ∃ pk, db'.toTables = db.remove (v.target pk) ∧
      ∀ a ∈ v.queryset db.toTables, guard a → v.key a ≠ pk := by
  rcases h with ⟨-, hrow, hfresh, hwrite⟩ | ⟨hmem, hpk, hsafe, -, hwrite⟩ |
    ⟨hmem, hpk, hsafe, htables⟩
  · refine Or.inl ⟨_, hwrite, ?_⟩
    rw [hnew _ _ _ hrow]
    exact key_ne_of_fresh hfresh
  · refine Or.inl ⟨_, hwrite, ?_⟩
    rw [hassign]
    exact key_ne_of_unguarded hkeys hmem (hguard _ hmem (hsafe hproxied))
  · refine Or.inr ⟨_, htables, ?_⟩
    rw [← hpk]
    exact key_ne_of_unguarded hkeys hmem (hguard _ hmem (hsafe hproxied))

/-- Service types: the default ones are guarded. -/
theorem keepsGuarded_of_serviceType {req : RowRequest ServiceTypeAttrs}
    (hproxied : req.fromProxy = true)
    (h : (serviceTypeViewSet env).perform env.serviceId db req = .ok db') :
    db.KeepsGuarded db'.toTables := by
  have heffect := (ViewSet.effect_of_perform h).write_or_remove
    (fun s => IsDefault s.name) hproxied db.integrity.1.1
    (fun s _ hsafe hname => by
      rw [IsDefault] at hname
      exact Bool.noConfusion (hsafe.symm.trans hname))
    (fun pk attrs row hnew => by
      obtain ⟨name, -, rfl⟩ := Option.map_eq_some_iff.mp hnew
      rfl)
    (fun _ _ => rfl)
  rcases heffect with ⟨s, hwrite, hne⟩ | ⟨pk, htables, hne⟩
  · rw [← Except.ok.inj hwrite]
    exact keepsGuarded_serviceType hne
  · rw [htables]
    exact keepsGuarded_remove_serviceType db hne

/-- A cluster that may be written is not guarded. -/
theorem not_guarded_of_safe {c : ServiceCluster ℕ}
    (hsafe : (serviceClusterViewSet env).objectWriteUnsafe db.toTables c = false) :
    ¬db.Guarded (.serviceCluster c) := by
  intro hguard
  have hdefault := (any_resolveCluster_iff (p := fun name =>
    DefaultServiceType.isDefault name = true) db (c := c)).mpr hguard
  simp only [Bool.decide_eq_true] at hdefault
  exact Bool.noConfusion (hsafe.symm.trans hdefault)

/-- Service clusters: those of the default types are guarded. -/
theorem keepsGuarded_of_serviceCluster {req : RowRequest ServiceClusterAttrs}
    (hproxied : req.fromProxy = true)
    (h : (serviceClusterViewSet env).perform env.serviceId db req = .ok db') :
    db.KeepsGuarded db'.toTables := by
  -- What is written has the key of no guarded row, and what is removed is not guarded.
  have heffect := (ViewSet.effect_of_perform h).write_or_remove
    (fun c => db.Guarded (.serviceCluster c)) hproxied db.integrity.1.2.2.1
    (fun c _ hsafe => not_guarded_of_safe hsafe)
    (fun pk attrs row hnew => by
      obtain ⟨name, -, hrest⟩ := Option.bind_eq_some_iff.mp hnew
      obtain ⟨serviceType, -, hrow⟩ := Option.bind_eq_some_iff.mp hrest
      rw [← Option.some.inj hrow]
      rfl)
    (fun _ _ => rfl)
  rcases heffect with ⟨c, hwrite, hne⟩ | ⟨pk, htables, hne⟩
  · -- `save` may give the cluster a service id, and keeps its key.
    obtain ⟨row, hrow, htables⟩ : ∃ row, c.prepare env.serviceId db.toTables = .ok row ∧
        db'.toTables = { db.toTables with
          serviceClusters := Table.upsert ServiceCluster.pk row db.serviceClusters } := by
      have hwrite' : db.write env.serviceId (.serviceCluster c) = .ok db'.toTables := hwrite
      rw [Tables.write] at hwrite'
      cases hprepare : c.prepare env.serviceId db.toTables with
      | error e => rw [hprepare] at hwrite'; cases hwrite'
      | ok row =>
          rw [hprepare] at hwrite'
          exact ⟨row, rfl, (Except.ok.inj hwrite').symm⟩
    have hpk : row.pk = c.pk := by
      rw [ServiceCluster.prepare] at hrow
      split at hrow
      · cases hrow
      · split_ifs at hrow <;> rw [← Except.ok.inj hrow]
    rw [htables]
    apply keepsGuarded_serviceCluster
    rw [hpk]
    exact hne
  · rw [htables]
    apply keepsGuarded_eraseClusters
    intro c hc hguard
    exact decide_eq_false (hne c hc hguard)

/-- Service nodes: those of the gateway are guarded. -/
theorem keepsGuarded_of_serviceNode {req : RowRequest ServiceNodeAttrs}
    (hproxied : req.fromProxy = true)
    (h : (serviceNodeViewSet env).perform env.serviceId db req = .ok db') :
    db.KeepsGuarded db'.toTables := by
  have heffect := (ViewSet.effect_of_perform h).write_or_remove
    (fun n => db.Guarded (.serviceNode n)) hproxied db.integrity.1.2.2.2.2.2.1
    (fun n _ hsafe hguard => by
      have hgateway := (any_clusterByPk_iff (p := fun name =>
        name = DefaultServiceType.gateway.value) db).mpr hguard
      exact Bool.noConfusion (hsafe.symm.trans hgateway))
    (fun pk attrs row hnew => by
      obtain ⟨name, -, hrest⟩ := Option.bind_eq_some_iff.mp hnew
      obtain ⟨address, -, hrest⟩ := Option.bind_eq_some_iff.mp hrest
      obtain ⟨cluster, -, hrow⟩ := Option.bind_eq_some_iff.mp hrest
      rw [← Option.some.inj hrow]
      rfl)
    (fun _ _ => rfl)
  rcases heffect with ⟨n, hwrite, hne⟩ | ⟨pk, htables, hne⟩
  · rw [← Except.ok.inj hwrite]
    exact keepsGuarded_serviceNode hne
  · rw [htables]
    exact keepsGuarded_remove_serviceNode hne

/-- The class of a row of a resource. -/
theorem kind_of_owns {s : RouteResource} {r : Route ℕ} (h : s.owns r = true) :
    (s = .additionalRoute ∧ r.kind = .additionalRoute) ∨
      (s = .serviceAPIRoute ∧ ∃ slug, r.kind = .serviceAPIRoute slug) := by
  unfold RouteResource.owns at h
  split at h
  · rename_i hkind
    exact Or.inl ⟨rfl, hkind⟩
  · rename_i slug hkind
    exact Or.inr ⟨rfl, slug, hkind⟩
  · cases h

/-- The class of a plugin route. -/
theorem kind_of_ownsPlugin {r : Route ℕ} (h : ownsPlugin r = true) :
    ∃ path, r.kind = .uiPluginRoute path := by
  unfold ownsPlugin at h
  split at h
  · rename_i path hkind
    exact ⟨path, hkind⟩
  · cases h

/-- A route of the gateway, as the viewsets check it. -/
theorem any_gateway_of_clusterTypeIs {cluster : ℕ} (h : db.ClusterTypeIs cluster IsGateway) :
    (db.clusterByPk cluster).any (·.serviceType.name = DefaultServiceType.gateway.value) = true :=
  (any_clusterByPk_iff (p := fun name => name = DefaultServiceType.gateway.value) db).mpr h

/-- A route that its viewset may write through the proxy is not guarded. -/
theorem not_guarded_of_route_safe {s : RouteResource} {r : Route ℕ} (howns : s.owns r = true)
    (hsafe : s.objectWriteUnsafe db.toTables r = false) : ¬db.Guarded (.route r) := by
  rintro ⟨-, hcluster⟩
  rcases kind_of_owns howns with ⟨-, hkind⟩ | ⟨rfl, slug, hkind⟩
  · rw [hkind] at hcluster
    obtain ⟨c, -, -, s, -, -, hname⟩ := hcluster
    exact hname
  · rw [hkind] at hcluster
    exact Bool.noConfusion (hsafe.symm.trans (any_gateway_of_clusterTypeIs hcluster))

/-- The same for a plugin route. -/
theorem not_guarded_of_plugin_safe {r : Route ℕ} (howns : ownsPlugin r = true)
    (hsafe : pluginWriteUnsafe db.toTables r = false) : ¬db.Guarded (.route r) := by
  rintro ⟨-, hcluster⟩
  obtain ⟨path, hkind⟩ := kind_of_ownsPlugin howns
  rw [hkind] at hcluster
  exact Bool.noConfusion (hsafe.symm.trans (any_gateway_of_clusterTypeIs hcluster))

/-- The object of a proxied route request is not guarded. -/
theorem not_guarded_of_getObject {s : RouteResource} {pk : ℕ} {r : Route ℕ}
    (h : s.getObject db.toTables true pk = .ok r) : ¬db.Guarded (.route r) := by
  refine not_guarded_of_route_safe (RouteResource.getObject_ok h).2.2 ?_
  rw [RouteResource.getObject] at h
  split at h
  · cases h
  · rename_i found hfind
    cases hproxy : disallowWriteFromProxy true (s.objectWriteUnsafe db.toTables found) with
    | error e => rw [hproxy] at h; cases h
    | ok u =>
        rw [hproxy] at h
        cases h
        exact disallowWriteFromProxy_ok hproxy rfl

/-- The object of a proxied port request is not the API port. -/
theorem isApiPort_of_getObject {t : Tables} {pk : ℕ} {p : HTTPPort}
    (h : HTTPPortViewSet.getObject t true pk = .ok p) : p.isApiPort = false := by
  rw [HTTPPortViewSet.getObject] at h
  split at h
  · cases h
  · rename_i found hfind
    cases hproxy : disallowWriteFromProxy true found.isApiPort with
    | error e => rw [hproxy] at h; cases h
    | ok u =>
        rw [hproxy] at h
        cases h
        exact disallowWriteFromProxy_ok hproxy rfl

/-- A proxied request that writes or deletes a port concerns another port than the API port. -/
theorem port_ne_of_getObject {pk : ℕ} {p : HTTPPort}
    (h : HTTPPortViewSet.getObject db.toTables true pk = .ok p) :
    ∀ p' ∈ db.httpPorts, p'.isApiPort = true → p'.pk ≠ pk := by
  obtain ⟨hmem, rfl⟩ := HTTPPortViewSet.getObject_ok h
  apply key_ne_of_unguarded (db.integrity.1.2.2.2.2.2.2.2.1) hmem
  rw [isApiPort_of_getObject h]
  exact Bool.false_ne_true

/-- A proxied request that writes or deletes a route concerns a route that is not guarded. -/
theorem route_ne_of_getObject {s : RouteResource} {pk : ℕ} {r : Route ℕ}
    (h : s.getObject db.toTables true pk = .ok r) :
    ∀ r' ∈ db.routes, db.Guarded (.route r') → r'.pk ≠ pk := by
  obtain ⟨hmem, rfl, -⟩ := RouteResource.getObject_ok h
  exact key_ne_of_unguarded (nodup_routes db) hmem (not_guarded_of_getObject h)

/-- An update of a route is about the object that was found. -/
theorem getObject_of_updateRoute {senv : SerializerEnv} {s : RouteResource}
    {isPartial fromProxy : Bool} {pk : ℕ} {payload : RouteAttrs}
    (h : updateRoute senv db s isPartial fromProxy pk payload = .ok db') :
    ∃ r, s.getObject db.toTables fromProxy pk = .ok r := by
  rw [updateRoute] at h
  cases hobject : s.getObject db.toTables fromProxy pk with
  | error e => rw [hobject] at h; cases h
  | ok r => exact ⟨r, rfl⟩

/-- So is a delete of a route. -/
theorem getObject_of_destroyRoute {s : RouteResource} {fromProxy : Bool} {pk : ℕ}
    (h : destroyRoute db s fromProxy pk = .ok db') :
    ∃ r, s.getObject db.toTables fromProxy pk = .ok r := by
  rw [destroyRoute] at h
  cases hobject : s.getObject db.toTables fromProxy pk with
  | error e => rw [hobject] at h; cases h
  | ok r => exact ⟨r, rfl⟩

/-- An update of a port is about the object that was found. -/
theorem getObject_of_updatePort {senv : SerializerEnv} {isPartial fromProxy : Bool} {pk : ℕ}
    {payload : PortAttrs} (h : updatePort senv db isPartial fromProxy pk payload = .ok db') :
    ∃ p, HTTPPortViewSet.getObject db.toTables fromProxy pk = .ok p := by
  rw [updatePort] at h
  cases hobject : HTTPPortViewSet.getObject db.toTables fromProxy pk with
  | error e => rw [hobject] at h; cases h
  | ok p => exact ⟨p, rfl⟩

/-- So is a delete of a port. -/
theorem getObject_of_destroyPort {fromProxy : Bool} {pk : ℕ}
    (h : destroyPort db fromProxy pk = .ok db') :
    ∃ p, HTTPPortViewSet.getObject db.toTables fromProxy pk = .ok p := by
  rw [destroyPort] at h
  cases hobject : HTTPPortViewSet.getObject db.toTables fromProxy pk with
  | error e => rw [hobject] at h; cases h
  | ok p => exact ⟨p, rfl⟩

/-- Routes and ports. -/
theorem keepsGuarded_of_route {req : Request} (hproxied : req.fromProxy = true)
    (h : Routes.perform env.toSerializerEnv db req = .ok db') :
    db.KeepsGuarded db'.toTables := by
  have heffect := effect_of_perform h
  cases req with
  | createRoute s pk payload =>
      obtain ⟨-, hnew, hfresh, hrow, htables⟩ := heffect
      rw [htables]
      apply keepsGuarded_route
      rw [(prepareAs_ok hrow).1, (newRoute_serviceCluster hnew).1]
      exact key_ne_of_fresh hfresh
  | updateRoute s isPartial fromProxy pk payload =>
      obtain rfl : fromProxy = true := hproxied
      obtain ⟨r, hobject⟩ := getObject_of_updateRoute h
      obtain ⟨r', attrs, row, -, hpk, -, -, hrow, htables⟩ := updateRoute_ok h
      rw [htables]
      apply keepsGuarded_route
      -- The row that is written has the key of the object that was found.
      have hkey : row.pk = pk := (prepareAs_ok hrow).1.trans hpk
      rw [hkey]
      exact route_ne_of_getObject hobject
  | destroyRoute s fromProxy pk =>
      obtain rfl : fromProxy = true := hproxied
      obtain ⟨r, hobject⟩ := getObject_of_destroyRoute h
      cases heffect with | destroyRoute htables
      rw [htables]
      exact keepsGuarded_remove_route (route_ne_of_getObject hobject)
  | createPort pk payload =>
      cases heffect with | @createPort _ _ p _ hnew hfresh htables
      rw [htables]
      apply keepsGuarded_httpPort
      have hkey : p.pk = pk := newPort_pk hnew
      rw [show p.prepare.pk = pk from hkey]
      exact key_ne_of_fresh hfresh
  | updatePort isPartial fromProxy pk payload =>
      obtain rfl : fromProxy = true := hproxied
      obtain ⟨found, hobject⟩ := getObject_of_updatePort h
      cases heffect with | @updatePort _ _ _ _ p _ hmem hpk hflag htables
      rw [htables]
      apply keepsGuarded_httpPort
      rw [show (payload.assign p).prepare.pk = pk from hpk]
      exact port_ne_of_getObject hobject
  | destroyPort fromProxy pk =>
      obtain rfl : fromProxy = true := hproxied
      obtain ⟨p, hobject⟩ := getObject_of_destroyPort h
      cases heffect with | destroyPort htables
      rw [htables]
      exact keepsGuarded_remove_httpPort (port_ne_of_getObject hobject)

/-- The plugin that a proxied request writes or deletes is not guarded. -/
theorem plugin_ne_of_find {pk : ℕ} {r : Route ℕ} {u : Unit}
    (hfind : db.routes.find? (fun r => r.pk = pk ∧ ownsPlugin r = true) = some r)
    (hproxy : disallowWriteFromProxy true (pluginWriteUnsafe db.toTables r) = .ok u) :
    r.pk = pk ∧ ∀ r' ∈ db.routes, db.Guarded (.route r') → r'.pk ≠ pk := by
  have hfound := List.find?_some hfind
  obtain ⟨hpk, howns⟩ := of_decide_eq_true hfound
  refine ⟨hpk, ?_⟩
  rw [← hpk]
  exact key_ne_of_unguarded (nodup_routes db) (List.mem_of_find?_eq_some hfind)
    (not_guarded_of_plugin_safe howns (disallowWriteFromProxy_ok hproxy rfl))

/-- Plugin routes: those of the gateway are guarded. -/
theorem keepsGuarded_of_plugin {req : PluginRequest} (hproxied : req.fromProxy = true)
    (h : performPlugin env.toPluginEnv db req = .ok db') : db.KeepsGuarded db'.toTables := by
  cases req with
  | create pk payload =>
      rw [performPlugin] at h
      split at h
      · cases h
      -- A new route has a new key, which no guarded row has.
      · split at h
        · cases h
        · rename_i attrs _ r hnew
          split at h
          · cases h
          · rename_i hfresh
            obtain ⟨row, hrow, htables⟩ := routes_of_save (ok_of_mapError h)
            have hkey : r.pk = pk := by
              unfold newPluginRoute at hnew
              simp only [Option.bind_eq_bind, Option.bind_eq_some_iff] at hnew
              obtain ⟨_, -, _, -, _, -, _, -, _, -, _, -, hr⟩ := hnew
              cases hr
              rfl
            rw [htables]
            apply keepsGuarded_route
            rw [(prepareAs_ok hrow).1, hkey]
            exact key_ne_of_fresh hfresh
  -- An update keeps the key of the route it finds, which is not guarded.
  | update isPartial fromProxy pk payload =>
      obtain rfl : fromProxy = true := hproxied
      rw [performPlugin] at h
      split at h
      · cases h
      · rename_i r hfind
        split at h
        · cases h
        · rename_i u hproxy
          obtain ⟨hpk, hne⟩ := plugin_ne_of_find hfind hproxy
          split at h
          · cases h
          · rename_i attrs hvalid
            obtain ⟨row, hrow, htables⟩ := routes_of_save (ok_of_mapError h)
            have hkey : row.pk = pk := (prepareAs_ok hrow).1.trans hpk
            rw [htables]
            apply keepsGuarded_route
            rw [hkey]
            exact hne

/-- A delete of a plugin route. -/
theorem keepsGuarded_of_destroyPlugin {pk : ℕ} (h : destroyPlugin db true pk = .ok db') :
    db.KeepsGuarded db'.toTables := by
  rw [destroyPlugin] at h
  split at h
  · cases h
  · rename_i r hfind
    split at h
    · cases h
    · rename_i u hproxy
      rw [Database.toTables_of_commit (ok_of_mapError h)]
      exact keepsGuarded_remove_route (plugin_ne_of_find hfind hproxy).2

/-- An accepted proxied request keeps the guarded rows. -/
theorem keepsGuarded_of_perform {req : ServiceRequest} (hproxied : req.Proxied)
    (h : req.perform env db = .ok db') : db.KeepsGuarded db'.toTables := by
  cases req with
  | serviceType req => exact keepsGuarded_of_serviceType hproxied h
  | serviceCluster req => exact keepsGuarded_of_serviceCluster hproxied h
  | serviceNode req => exact keepsGuarded_of_serviceNode hproxied h
  | route req => exact keepsGuarded_of_route hproxied h
  | plugin req => exact keepsGuarded_of_plugin hproxied h
  | destroyPlugin fromProxy pk =>
      obtain rfl : fromProxy = true := hproxied
      exact keepsGuarded_of_destroyPlugin h

end Requests

section Removal

variable {env : ServiceEnv} {db : Database}

/-- A proxied request that is accepted, after which the row is not stored. -/
def Removable (env : ServiceEnv) (db : Database) (row : ServiceRow) : Prop :=
  ∃ (req : ServiceRequest) (db' : Database), req.Proxied ∧ req.perform env db = .ok db' ∧
    ¬db'.Holds row

/-- A request that deletes the row, alone or with others. -/
theorem removable_of_perform {row : ServiceRow} {target : Target} {req : ServiceRequest}
    (hperform : req.perform env db =
      .ok ⟨db.remove target, integrity_remove db.integrity target⟩)
    (hproxied : req.Proxied) (hgone : ¬(db.remove target).Holds row) : Removable env db row :=
  ⟨req, _, hproxied, hperform, hgone⟩

/-- No row is left that a deletion selects. -/
theorem notMem_erase {α : Type} {p : α → Bool} {rows : List α} {a : α} (hp : p a = true) :
    a ∉ Table.erase p rows := by
  intro hmem
  rw [(Table.mem_erase.mp hmem).2] at hp
  exact Bool.noConfusion hp

/-- A service type that is not a default one. -/
theorem removable_serviceType {s : ServiceType} (hs : s ∈ db.serviceTypes)
    (h : ¬IsDefault s.name) : Removable env db (.serviceType s) := by
  have hsafe : (serviceTypeViewSet env).objectWriteUnsafe db.toTables s = false :=
    Bool.eq_false_iff.mpr h
  have hperform : (ServiceRequest.serviceType (.destroy true s.pk)).perform env db =
      .ok ⟨db.remove (.serviceType s.pk), integrity_remove db.integrity _⟩ :=
    ViewSet.perform_destroy env.serviceId db.integrity.1.1 hs hsafe (delete_eq_ok db _)
  exact removable_of_perform hperform rfl (notMem_erase (decide_eq_true rfl))

/-- The cluster of a row, with the request that deletes it. -/
theorem perform_destroy_serviceCluster {c : ServiceCluster ℕ} (hc : c ∈ db.serviceClusters)
    (h : ¬db.Guarded (.serviceCluster c)) :
    (ServiceRequest.serviceCluster (.destroy true c.pk)).perform env db =
      .ok ⟨db.remove (.serviceCluster c.pk), integrity_remove db.integrity _⟩ := by
  have hsafe : (serviceClusterViewSet env).objectWriteUnsafe db.toTables c = false := by
    rw [Bool.eq_false_iff]
    intro hunsafe
    apply h
    have hany : (db.resolveCluster c).any
        (DefaultServiceType.isDefault ·.serviceType.name) = true := hunsafe
    refine (any_resolveCluster_iff (p := fun name =>
      DefaultServiceType.isDefault name = true) db).mp ?_
    simpa only [Bool.decide_eq_true] using hany
  exact ViewSet.perform_destroy env.serviceId db.integrity.1.2.2.1 hc hsafe (delete_eq_ok db _)

/-- A cluster whose type is not a default one. -/
theorem removable_serviceCluster {c : ServiceCluster ℕ} (hc : c ∈ db.serviceClusters)
    (h : ¬db.Guarded (.serviceCluster c)) : Removable env db (.serviceCluster c) :=
  removable_of_perform (perform_destroy_serviceCluster hc h) rfl
    (notMem_erase (decide_eq_true rfl))

/-- A check that fails in the tables, as the viewsets make it. -/
theorem any_gateway_eq_false {cluster : ℕ} (h : ¬db.ClusterTypeIs cluster IsGateway) :
    (db.clusterByPk cluster).any (·.serviceType.name = DefaultServiceType.gateway.value) =
      false := by
  rw [Bool.eq_false_iff]
  exact fun hany => h ((any_clusterByPk_iff (p := fun name =>
    name = DefaultServiceType.gateway.value) db).mp hany)

/-- A node that is not one of the gateway. -/
theorem removable_serviceNode {n : ServiceNode} (hn : n ∈ db.serviceNodes)
    (h : ¬db.Guarded (.serviceNode n)) : Removable env db (.serviceNode n) := by
  have hperform : (ServiceRequest.serviceNode (.destroy true n.pk)).perform env db =
      .ok ⟨db.remove (.serviceNode n.pk), integrity_remove db.integrity _⟩ :=
    ViewSet.perform_destroy env.serviceId db.integrity.1.2.2.2.2.2.1 hn (any_gateway_eq_false h)
      (delete_eq_ok db _)
  exact removable_of_perform hperform rfl (notMem_erase (decide_eq_true rfl))

/-- The request that deletes a port other than the API port. -/
theorem perform_destroyPort {p : HTTPPort} (hp : p ∈ db.httpPorts) (h : p.isApiPort = false) :
    (ServiceRequest.route (.destroyPort true p.pk)).perform env db =
      .ok ⟨db.remove (.httpPort p.pk), integrity_remove db.integrity _⟩ := by
  have hobject : HTTPPortViewSet.getObject db.toTables true p.pk = .ok p := by
    rw [HTTPPortViewSet.getObject, Table.find?_of_mem db.integrity.1.2.2.2.2.2.2.2.1 hp]
    simp only [h]
    rfl
  show destroyPort db true p.pk = _
  rw [destroyPort, hobject]
  simp only [h, Bool.false_eq_true, if_false, delete_eq_ok]
  rfl

/-- A port other than the API port. -/
theorem removable_httpPort {p : HTTPPort} (hp : p ∈ db.httpPorts) (h : p.isApiPort = false) :
    Removable env db (.httpPort p) :=
  removable_of_perform (perform_destroyPort hp h) rfl (notMem_erase (decide_eq_true rfl))

/-- A lookup by key with a condition that the row satisfies. -/
theorem find?_and_of_mem {r : Route ℕ} {q : Route ℕ → Bool} (hr : r ∈ db.routes)
    (hq : q r = true) : db.routes.find? (fun r' => r'.pk = r.pk ∧ q r' = true) = some r := by
  have hkeys : ((db.routes.filter q).map Route.pk).Nodup :=
    (nodup_routes db).sublist (List.filter_sublist.map _)
  have hfind := Table.find?_of_mem hkeys (List.mem_filter.mpr ⟨hr, hq⟩)
  rw [List.find?_filter] at hfind
  rw [← hfind]
  congr 1
  funext r'
  rw [Bool.decide_and, Bool.decide_eq_true, Bool.and_comm]
  cases q r' <;> simp

/-- A route that its viewset may write through the proxy. -/
theorem removable_of_owns {s : RouteResource} {r : Route ℕ} (hr : r ∈ db.routes)
    (howns : s.owns r = true) (hsafe : s.objectWriteUnsafe db.toTables r = false) :
    Removable env db (.route r) := by
  have hobject : s.getObject db.toTables true r.pk = .ok r := by
    rw [RouteResource.getObject, find?_and_of_mem hr howns]
    simp only [hsafe]
    rfl
  have hperform : (ServiceRequest.route (.destroyRoute s true r.pk)).perform env db =
      .ok ⟨db.remove (.route r.pk), integrity_remove db.integrity _⟩ := by
    show destroyRoute db s true r.pk = _
    rw [destroyRoute, hobject]
    simp only [delete_eq_ok]
    rfl
  exact removable_of_perform hperform rfl (notMem_erase (decide_eq_true rfl))

/-- A plugin route of another service than the gateway. -/
theorem removable_of_ownsPlugin {r : Route ℕ} (hr : r ∈ db.routes) (howns : ownsPlugin r = true)
    (hsafe : pluginWriteUnsafe db.toTables r = false) : Removable env db (.route r) := by
  have hperform : (ServiceRequest.destroyPlugin true r.pk).perform env db =
      .ok ⟨db.remove (.route r.pk), integrity_remove db.integrity _⟩ := by
    show destroyPlugin db true r.pk = _
    rw [destroyPlugin, find?_and_of_mem hr howns]
    simp only [hsafe, delete_eq_ok]
    rfl
  exact removable_of_perform hperform rfl (notMem_erase (decide_eq_true rfl))

/-- A route that is not guarded: it is deleted itself, with its port or with its cluster. -/
theorem removable_route {r : Route ℕ} (hr : r ∈ db.routes) (h : ¬db.Guarded (.route r)) :
    Removable env db (.route r) := by
  obtain ⟨p, hp, hport⟩ := List.mem_map.mp (db.integrity.2.2.2.2 r hr)
  cases hapi : p.isApiPort with
  | false =>
      refine removable_of_perform (perform_destroyPort hp hapi) rfl (notMem_erase ?_)
      exact decide_eq_true hport.symm
  | true =>
      have hcluster : ¬db.ClusterTypeIs r.serviceCluster (guardOfKind r.kind) :=
        fun hguard => h ⟨⟨p, hp, hport, hapi⟩, hguard⟩
      cases hkind : r.kind with
      | route =>
          -- No viewset has plain routes, but the cluster can be deleted.
          rw [hkind] at hcluster
          obtain ⟨c, hc, hpk⟩ := List.mem_map.mp (db.integrity.2.2.2.1 r hr)
          have hunguarded : ¬db.Guarded (.serviceCluster c) :=
            fun hguard => hcluster ⟨c, hc, hpk, hguard⟩
          refine removable_of_perform (perform_destroy_serviceCluster hc hunguarded) rfl
            (notMem_erase ?_)
          rw [List.contains_eq_mem, decide_eq_true_eq, ← hpk]
          exact List.mem_map_of_mem (List.mem_filter.mpr ⟨hc, decide_eq_true rfl⟩)
      | additionalRoute =>
          have howns : RouteResource.additionalRoute.owns r = true := by
            unfold RouteResource.owns
            rw [hkind]
          exact removable_of_owns hr howns rfl
      | serviceAPIRoute slug =>
          rw [hkind] at hcluster
          have howns : RouteResource.serviceAPIRoute.owns r = true := by
            unfold RouteResource.owns
            rw [hkind]
          exact removable_of_owns hr howns (any_gateway_eq_false hcluster)
      | uiPluginRoute path =>
          rw [hkind] at hcluster
          have howns : ownsPlugin r = true := by
            unfold ownsPlugin
            rw [hkind]
          exact removable_of_ownsPlugin hr howns (any_gateway_eq_false hcluster)

/-- A stored row that is not guarded can be deleted by one request. -/
theorem exists_removal (env : ServiceEnv) {row : ServiceRow} (hrow : db.Holds row)
    (h : ¬db.Guarded row) : Removable env db row := by
  cases row with
  | serviceType s => exact removable_serviceType hrow h
  | serviceCluster c => exact removable_serviceCluster hrow h
  | serviceNode n => exact removable_serviceNode hrow h
  | httpPort p => exact removable_httpPort hrow (Bool.eq_false_iff.mpr h)
  | route r => exact removable_route hrow h

end Removal

section Runs

variable {env : ServiceEnv} {init db : Database} {row : ServiceRow}

/-- A guarded row is stored and guarded after every run. -/
theorem holds_and_guarded_of_run (h : ProxiedRun env init db) (hrow : init.Holds row)
    (hguard : init.Guarded row) : db.Holds row ∧ db.Guarded row := by
  induction h with
  | start => exact ⟨hrow, hguard⟩
  | step _ hproxied hperform ih =>
      have hkeeps := keepsGuarded_of_perform hproxied hperform
      exact ⟨hkeeps _ ih.1 ih.2, guarded_of_keeps hkeeps ih.2⟩

/-- The rows that are stored after every run of proxied requests are the guarded ones. -/
theorem forall_proxiedRun_holds_iff (env : ServiceEnv) (init : Database) (row : ServiceRow) :
    (∀ db, ProxiedRun env init db → db.Holds row) ↔ init.Holds row ∧ init.Guarded row := by
  constructor
  · intro hall
    have hrow := hall init .start
    refine ⟨hrow, ?_⟩
    by_contra hunguarded
    obtain ⟨req, db, hproxied, hperform, hgone⟩ := exists_removal env hrow hunguarded
    exact hgone (hall db (.step .start hproxied hperform))
  · rintro ⟨hrow, hguard⟩ db hrun
    exact (holds_and_guarded_of_run hrun hrow hguard).1

end Runs

end Routes

end AapGateway
