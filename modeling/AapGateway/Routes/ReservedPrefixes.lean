import AapGateway.Routes.Requests

/-!
# Reserved prefixes of the API port

Custom routes on the API port must stay out of `/api/` and `/plugin/`. `AdditionalRoute.clean`
checks it each time a route is saved, against the port the route is saved on. Whether a port is
the API port is a column of another table, and nothing looks at the routes of a port when the
column is set: a port that collected custom routes under `/api/` can become the API port.

## Main definitions

* `ReservedPathsFree`: no additional route of the API port has a reserved path;
* `SafePromotions`: a port is made the API port only while its additional routes are free of
  reserved paths.

## Main results

* `reservedPathsFree_effect_iff`: the requests that keep the invariant are exactly the safe ones;
* `reservedPathsFree_of_safePromotions`: the invariant holds in every run of safe requests.
-/

namespace AapGateway.Routes

/-- No additional route of the API port has a path under a reserved prefix. -/
def ReservedPathsFree (t : Tables) : Prop :=
  ∀ r ∈ t.routes, r.kind = .additionalRoute →
    ∀ p ∈ t.httpPorts, p.pk = r.httpPort → p.isApiPort = true →
      reservedPath r.gatewayPath = false

instance (t : Tables) : Decidable (ReservedPathsFree t) := by
  unfold ReservedPathsFree
  infer_instance

/-- A request that makes a port the API port finds no additional route with a reserved path on
it. -/
def SafePromotions (db : Database) : Request → Prop
  | .updatePort _ _ pk payload =>
    payload.isApiPort = some true →
      ∀ r ∈ db.routes, r.kind = .additionalRoute → r.httpPort = pk →
        reservedPath r.gatewayPath = false
  | _ => True

/-- An additional route is saved only on a port that allows its path. -/
theorem reservedPath_of_prepareAs {t : Tables} {r row : Route ℕ} (h : r.prepareAs t = .ok row)
    (hkind : row.kind = .additionalRoute) :
    ∃ port, t.httpPorts.find? (·.pk = row.httpPort) = some port ∧
      (port.isApiPort = true → reservedPath row.gatewayPath = false) := by
  unfold Route.prepareAs at h
  split at h
  · rename_i hroute
    cases h
    exact absurd (hroute.symm.trans hkind) (by simp)
  · cases hclean : r.clean t with
    | error e => rw [hclean] at h; cases h
    | ok _ =>
        rw [hclean] at h
        cases h
        unfold Route.clean at hclean
        split at hclean
        · cases hclean
        · rename_i port hport
          split at hclean
          · cases hclean
          · rename_i hallowed
            refine ⟨port, hport, ?_⟩
            intro hapi
            rw [hapi, Bool.true_and, Bool.not_eq_true] at hallowed
            exact hallowed
  · rename_i slug hservice
    split at h
    · cases h
    · cases h
      exact absurd (hservice.symm.trans hkind) (by simp)
  · rename_i path hplugin
    split at h
    · cases h
    · cases h
      exact absurd (hplugin.symm.trans hkind) (by simp)

section Effects

variable {env : SerializerEnv} {db db' : Database}

/-- A route that was saved respects the reserved prefixes, so the invariant is kept. -/
theorem ReservedPathsFree.saveRoute {r row : Route ℕ} (hfree : ReservedPathsFree db.toTables)
    (hrow : r.prepareAs db.toTables = .ok row)
    (htables : db'.toTables =
      { db.toTables with routes := Table.upsert Route.pk row db.routes }) :
    ReservedPathsFree db'.toTables := by
  rw [htables]
  intro r' hr' hkind p hp hport hapi
  rcases Table.mem_upsert.mp hr' with rfl | ⟨hold, -⟩
  · obtain ⟨port, hfind, hallowed⟩ := reservedPath_of_prepareAs hrow hkind
    -- Port keys are unique, so the port that was checked is the port of the invariant.
    have hself := Table.find?_of_mem db.integrity.1.2.2.2.2.2.2.2.1 hp
    rw [hport, hfind] at hself
    exact hallowed (Option.some.inj hself ▸ hapi)
  · exact hfree r' hold hkind p hp hport hapi

/-- A new port has no routes yet. -/
theorem ReservedPathsFree.createPort {p : HTTPPort} (hfree : ReservedPathsFree db.toTables)
    (hfresh : p.pk ∉ db.httpPorts.map HTTPPort.pk)
    (htables : db'.toTables =
      { db.toTables with httpPorts := Table.upsert HTTPPort.pk p.prepare db.httpPorts }) :
    ReservedPathsFree db'.toTables := by
  rw [htables]
  intro r hr hkind q hq hport hapi
  rcases Table.mem_upsert.mp hq with rfl | ⟨hold, -⟩
  · exact absurd (hport ▸ db.integrity.2.2.2.2 r hr) hfresh
  · exact hfree r hr hkind q hold hport hapi

/-- An update of a port keeps the invariant exactly when it does not promote a port that holds an
additional route with a reserved path. -/
theorem reservedPathsFree_updatePort_iff {p : HTTPPort} {payload : PortAttrs}
    (hfree : ReservedPathsFree db.toTables) (hmem : p ∈ db.httpPorts)
    (htables : db'.toTables =
      { db.toTables with
        httpPorts := Table.upsert HTTPPort.pk (payload.assign p).prepare db.httpPorts }) :
    ReservedPathsFree db'.toTables ↔
      (payload.isApiPort = some true →
        ∀ r ∈ db.routes, r.kind = .additionalRoute → r.httpPort = p.pk →
          reservedPath r.gatewayPath = false) := by
  rw [htables]
  constructor
  · intro hfree' hpromote r hr hkind hport
    refine hfree' r hr hkind (payload.assign p).prepare
      (Table.mem_upsert.mpr (Or.inl rfl)) hport.symm ?_
    show payload.isApiPort.getD p.isApiPort = true
    rw [hpromote]
    rfl
  · intro hsafe r hr hkind q hq hport hapi
    rcases Table.mem_upsert.mp hq with rfl | ⟨hold, -⟩
    · have hapi' : payload.isApiPort.getD p.isApiPort = true := hapi
      cases hflag : payload.isApiPort with
      | none =>
          -- The flag is not in the payload: the port was the API port before.
          rw [hflag] at hapi'
          exact hfree r hr hkind p hmem hport hapi'
      | some value =>
          rw [hflag] at hapi'
          have hvalue : value = true := hapi'
          exact hsafe (by rw [hflag, hvalue]) r hr hkind hport.symm
    · exact hfree r hr hkind q hold hport hapi

/-- A deletion removes rows and adds none. -/
theorem ReservedPathsFree.anti {t t' : Tables} (hfree : ReservedPathsFree t)
    (hroutes : ∀ r ∈ t'.routes, r ∈ t.routes) (hports : ∀ p ∈ t'.httpPorts, p ∈ t.httpPorts) :
    ReservedPathsFree t' :=
  fun r hr hkind p hp => hfree r (hroutes r hr) hkind p (hports p hp)

/-- In a state that satisfies the invariant, an accepted request keeps it exactly when it is
safe. -/
theorem reservedPathsFree_effect_iff {req : Request} (hfree : ReservedPathsFree db.toTables)
    (h : Effect env db req db') :
    ReservedPathsFree db'.toTables ↔ SafePromotions db req := by
  cases h with
  | createRoute hvalid hnew hfresh hrow htables =>
      exact iff_of_true (hfree.saveRoute hrow htables) trivial
  | updateRoute hmem howns hvalid hrow htables =>
      exact iff_of_true (hfree.saveRoute hrow htables) trivial
  | createPort hnew hfresh htables =>
      refine iff_of_true (hfree.createPort ?_ htables) trivial
      rwa [newPort_pk hnew]
  | updatePort hmem hpk hflag htables =>
      subst hpk
      exact reservedPathsFree_updatePort_iff hfree hmem htables
  | destroyRoute htables =>
      refine iff_of_true (hfree.anti ?_ ?_) trivial
      · intro r hr
        rw [htables] at hr
        exact (Table.mem_erase.mp hr).1
      · intro p hp
        rw [htables] at hp
        exact hp
  | destroyPort htables =>
      refine iff_of_true (hfree.anti ?_ ?_) trivial
      · intro r hr
        rw [htables] at hr
        exact (Table.mem_erase.mp hr).1
      · intro p hp
        rw [htables] at hp
        exact (Table.mem_erase.mp hp).1

end Effects

/-- In every run of safe requests no additional route of the API port has a reserved path, and in
each state reached the next request keeps it so exactly when it is safe. -/
theorem reservedPathsFree_of_safePromotions (env : SerializerEnv) {init db : Database}
    (hinit : ReservedPathsFree init.toTables) (h : Reached env SafePromotions init db) :
    ReservedPathsFree db.toTables ∧
      ∀ req db', perform env db req = .ok db' →
        (ReservedPathsFree db'.toTables ↔ SafePromotions db req) := by
  have hfree : ReservedPathsFree db.toTables :=
    h.invariant (P := fun db => ReservedPathsFree db.toTables) hinit
      fun _ _ _ hfree hsafe heffect => (reservedPathsFree_effect_iff hfree heffect).mpr hsafe
  refine ⟨hfree, ?_⟩
  intro req db' hperform
  exact reservedPathsFree_effect_iff hfree (effect_of_perform hperform)

/-- The EDA service with one additional route on the webhook port. -/
def additionalTables (isApiPort : Bool) (gatewayPath : String) : Tables :=
  webhookTables isApiPort
    [{ pk := 1, name := "webhook", kind := .additionalRoute, httpPort := 1, serviceCluster := 1,
       servicePort := 8000, isServiceHttps := false, servicePath := "/hook/", gatewayPath,
       envoyClusterName := "cluster-1-8000-nodes:*" }]

/-- The two paths of the runs below: one that is free, and one under a reserved prefix. -/
def webhookPath (reserved : Bool) : String :=
  if reserved then "/api/hook/" else "/hook/"

/-- The EDA service with a route, before and after its port is made the API port. -/
def additionalDatabase (isApiPort reserved : Bool) : Database :=
  ⟨additionalTables isApiPort (webhookPath reserved),
    by cases isApiPort <;> cases reserved <;> decide⟩

/-- A partial update that makes the webhook port the API port. -/
def promotePort : Request :=
  .updatePort true false 1 { isApiPort := some true }

/-- A create of an additional route on the webhook port. -/
def createWebhook (reserved : Bool) : Request :=
  .createRoute .additionalRoute 1 (webhookPayload (webhookPath reserved))

/-- Creating a route on the webhook port is accepted for either path. -/
theorem perform_createWebhook (reserved : Bool) :
    perform plainSerializers webhookDatabase (createWebhook reserved) =
      .ok (additionalDatabase false reserved) := by
  cases reserved <;> rfl

/-- Making the webhook port the API port is accepted with either path on it. -/
theorem perform_promotePort (reserved : Bool) :
    perform plainSerializers (additionalDatabase false reserved) promotePort =
      .ok (additionalDatabase true reserved) := by
  cases reserved <;> rfl

/-- With a route under `/hook/` the port may become the API port. -/
theorem reservedPathsFree_promotedWebhook :
    ReservedPathsFree (additionalDatabase true false).toTables := by
  have hcreate : SafePromotions webhookDatabase (createWebhook false) := trivial
  have hpromote : SafePromotions (additionalDatabase false false) promotePort := by
    unfold promotePort SafePromotions
    decide
  have hrun : Reached plainSerializers SafePromotions webhookDatabase
      (additionalDatabase true false) :=
    .step (.step .start hcreate (perform_createWebhook false)) hpromote (perform_promotePort false)
  exact (reservedPathsFree_of_safePromotions plainSerializers (by decide) hrun).1

/-- A route under `/api/` is accepted while its port is not the API port, and the port becomes the
API port with the route on it. -/
theorem not_reservedPathsFree_promotedPort :
    ReservedPathsFree webhookDatabase.toTables ∧
      Reached plainSerializers (fun _ _ => True) webhookDatabase (additionalDatabase true true) ∧
      ¬ReservedPathsFree (additionalDatabase true true).toTables := by
  refine ⟨by decide, ?_, by decide⟩
  exact .step (.step .start trivial (perform_createWebhook true)) trivial
    (perform_promotePort true)

end AapGateway.Routes
