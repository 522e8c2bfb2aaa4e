import AapGateway.Routes.Requests

/-!
# Authentication flags of stored routes

Mutual TLS excludes gateway authentication, and an internal route requires it. The serializer
checks both against the values of the payload, merged with the instance on an update. On a create
an absent `enable_gateway_auth` reads as false there, while the column's default is true: a
payload with `enable_mtls` alone is accepted and stored with both mechanisms, and a payload with
`is_internal_route` alone is rejected although it would be stored correctly.

## Main definitions

* `Route.Secure`: the flags of a route exclude each other as required;
* `RouteAttrs.ExplicitFlags`: the payloads on which the check and the default agree.

## Main results

* `authFlagErrors_some_eq_nil_iff`: an update is checked against what it stores;
* `authFlagErrors_none_iff_secure`: a create is checked against what it stores exactly when its
  flags are explicit;
* `routesSecure_of_explicitCreates`: in every run whose creates have explicit flags, every stored
  route is secure.
-/

namespace AapGateway

/-- A route does not combine mutual TLS with gateway authentication, and an internal route has
gateway authentication. -/
def Route.Secure {C : Type} (r : Route C) : Prop :=
  ¬(r.enableMtls = true ∧ r.enableGatewayAuth = true) ∧
    (r.isInternalRoute = true → r.enableGatewayAuth = true)

instance {C : Type} (r : Route C) : Decidable r.Secure := by
  unfold Route.Secure
  infer_instance

/-- Every stored route is secure. -/
def Tables.RoutesSecure (t : Tables) : Prop :=
  ∀ r ∈ t.routes, r.Secure

instance (t : Tables) : Decidable t.RoutesSecure := by
  unfold Tables.RoutesSecure
  infer_instance

/-- Security reads the three flags only. -/
theorem Route.secure_congr {r₁ r₂ : Route ℕ} (hauth : r₁.enableGatewayAuth = r₂.enableGatewayAuth)
    (hmtls : r₁.enableMtls = r₂.enableMtls)
    (hinternal : r₁.isInternalRoute = r₂.isInternalRoute) : r₁.Secure ↔ r₂.Secure := by
  unfold Route.Secure
  rw [hauth, hmtls, hinternal]

/-- `save` keeps the flags of a route that does not serve a UI plugin. -/
theorem Route.secure_of_prepareAs {t : Tables} {r row : Route ℕ}
    (h : r.prepareAs t = .ok row) (hkind : ∀ path, r.kind ≠ .uiPluginRoute path) :
    row.Secure ↔ r.Secure := by
  unfold Route.prepareAs at h
  split at h
  · cases h
    exact secure_congr rfl rfl rfl
  · cases hclean : r.clean t with
    | error e => rw [hclean] at h; cases h
    | ok _ =>
        rw [hclean] at h
        cases h
        exact secure_congr rfl rfl rfl
  · split at h
    · cases h
    · cases h
      exact secure_congr rfl rfl rfl
  · rename_i path hpath
    exact absurd hpath (hkind path)

namespace Routes

open BaseRouteSerializer

/-- The payload says whether the route has gateway authentication, or it sets both or none of the
other two flags. -/
def RouteAttrs.ExplicitFlags (a : RouteAttrs) : Prop :=
  a.enableGatewayAuth.isSome = true ∨ a.isInternalRoute.getD false = a.enableMtls.getD false

instance (a : RouteAttrs) : Decidable a.ExplicitFlags := by
  unfold RouteAttrs.ExplicitFlags
  infer_instance

/-- The creates of a run have explicit flags. -/
def ExplicitCreates (_ : Database) : Request → Prop
  | .createRoute _ _ payload => payload.ExplicitFlags
  | _ => True

/-- The row a create would store, when no check rejected it. -/
def WouldStore (s : RouteResource) (t : Tables) (pk : ℕ) (payload : RouteAttrs)
    (row : Route ℕ) : Prop :=
  ∃ r, s.newRoute pk (s.validated payload) = some r ∧ r.prepareAs t = .ok row

/-- A new route has the flags of its payload, and the model's defaults for the absent ones. -/
theorem newRoute_flags {s : RouteResource} {pk : ℕ} {attrs : RouteAttrs} {r : Route ℕ}
    (h : s.newRoute pk attrs = some r) :
    r.enableGatewayAuth = attrs.enableGatewayAuth.getD true ∧
      r.enableMtls = attrs.enableMtls.getD false ∧
      r.isInternalRoute = attrs.isInternalRoute.getD false := by
  unfold RouteResource.newRoute at h
  simp only [Option.bind_eq_bind, Option.bind_eq_some_iff, Option.pure_def,
    Option.some.injEq] at h
  obtain ⟨name, -, kind, -, port, -, cluster, -, servicePort, -, https, -, path, -, rfl⟩ := h
  exact ⟨rfl, rfl, rfl⟩

/-- A resource creates and keeps rows of its own class. -/
theorem newRoute_owns {s : RouteResource} {pk : ℕ} {attrs : RouteAttrs} {r : Route ℕ}
    (h : s.newRoute pk attrs = some r) : s.owns r = true := by
  unfold RouteResource.newRoute at h
  simp only [Option.bind_eq_bind, Option.bind_eq_some_iff, Option.pure_def,
    Option.some.injEq] at h
  obtain ⟨name, -, kind, hkind, port, -, cluster, -, servicePort, -, https, -, path, -, rfl⟩ := h
  cases s with
  | additionalRoute =>
      cases hkind
      rfl
  | serviceAPIRoute =>
      obtain ⟨slug, hslug, rfl⟩ := Option.map_eq_some_iff.mp hkind
      unfold RouteAttrs.assign
      rw [hslug]
      rfl

/-- An update does not change the class of a row. -/
theorem assign_owns {s : RouteResource} {attrs : RouteAttrs} {r : Route ℕ}
    (h : s.owns r = true) : s.owns (attrs.assign r) = true := by
  unfold RouteResource.owns RouteAttrs.assign at *
  cases s <;> cases hkind : r.kind <;> cases hslug : attrs.apiSlug <;> simp_all

/-- The rows of the two resources do not serve UI plugins. -/
theorem kind_ne_of_owns {s : RouteResource} {r : Route ℕ} (h : s.owns r = true) (path : String) :
    r.kind ≠ .uiPluginRoute path := by
  intro hkind
  unfold RouteResource.owns at h
  rw [hkind] at h
  cases s <;> cases h

/-- The internal-route check passes exactly when the flags allow it. -/
theorem validateGatewayAuthIfInternalRoute_eq_nil_iff {auth internal : Option Bool} :
    validateGatewayAuthIfInternalRoute auth internal = [] ↔
      (internal.getD false = true → auth.getD false = true) := by
  unfold validateGatewayAuthIfInternalRoute
  cases auth.getD false <;> cases internal.getD false <;> simp

/-- The mutual TLS check passes exactly when the flags allow it. -/
theorem validateGatewayAuthIfMtlsEnabled_eq_nil_iff {auth mtls : Option Bool} :
    validateGatewayAuthIfMtlsEnabled auth mtls = [] ↔
      ¬(mtls.getD false = true ∧ auth.getD false = true) := by
  unfold validateGatewayAuthIfMtlsEnabled
  cases auth.getD false <;> cases mtls.getD false <;> simp

/-- An update passes the checks on the flags exactly when the updated route is secure. -/
theorem authFlagErrors_some_eq_nil_iff (r : Route ℕ) (attrs : RouteAttrs) :
    authFlagErrors (some r) attrs = [] ↔ (attrs.assign r).Secure := by
  unfold authFlagErrors
  rw [List.append_eq_nil_iff, validateGatewayAuthIfInternalRoute_eq_nil_iff,
    validateGatewayAuthIfMtlsEnabled_eq_nil_iff]
  exact and_comm

/-- A create passes the checks on the flags exactly when an internal route asks for gateway
authentication, and mutual TLS is not combined with a request for it. -/
theorem authFlagErrors_none_eq_nil_iff (attrs : RouteAttrs) :
    authFlagErrors none attrs = [] ↔
      (attrs.isInternalRoute.getD false = true → attrs.enableGatewayAuth.getD false = true) ∧
        ¬(attrs.enableMtls.getD false = true ∧ attrs.enableGatewayAuth.getD false = true) := by
  unfold authFlagErrors
  rw [List.append_eq_nil_iff, validateGatewayAuthIfInternalRoute_eq_nil_iff,
    validateGatewayAuthIfMtlsEnabled_eq_nil_iff]
  rfl

/-- The row a create would store has the flags of the payload, and the defaults for the absent
ones. -/
theorem WouldStore.secure_iff {s : RouteResource} {t : Tables} {pk : ℕ} {payload : RouteAttrs}
    {row : Route ℕ} (h : WouldStore s t pk payload row) :
    row.Secure ↔
      ¬(payload.enableMtls.getD false = true ∧ payload.enableGatewayAuth.getD true = true) ∧
        (payload.isInternalRoute.getD false = true →
          payload.enableGatewayAuth.getD true = true) := by
  obtain ⟨r, hnew, hrow⟩ := h
  obtain ⟨hauth, hmtls, hinternal⟩ := newRoute_flags hnew
  rw [Route.secure_of_prepareAs hrow (kind_ne_of_owns (newRoute_owns hnew)), Route.Secure,
    hauth, hmtls, hinternal]
  cases s <;> exact Iff.rfl

/-- A create is checked against what it stores exactly when its flags are explicit. -/
theorem authFlagErrors_none_iff_secure {s : RouteResource} {t : Tables} {pk : ℕ}
    {payload : RouteAttrs} {row : Route ℕ} (h : WouldStore s t pk payload row) :
    (authFlagErrors none payload = [] ↔ row.Secure) ↔ payload.ExplicitFlags := by
  rw [h.secure_iff, authFlagErrors_none_eq_nil_iff]
  unfold RouteAttrs.ExplicitFlags
  cases payload.enableGatewayAuth with
  | some auth =>
      -- A flag that is present is read alike by the check and by the model.
      simp only [Option.getD_some, Option.isSome_some, true_or, iff_true]
      exact and_comm
  | none =>
      -- An absent flag reads false in the check and true in the row.
      cases payload.isInternalRoute.getD false <;> cases payload.enableMtls.getD false <;> simp

/-- Every accepted request of a run with explicit creates keeps the stored routes secure. -/
theorem RoutesSecure.effect {env : SerializerEnv} {db db' : Database} {req : Request}
    (hsecure : db.RoutesSecure) (hexplicit : ExplicitCreates db req)
    (h : Effect env db req db') : db'.RoutesSecure := by
  have hwrite : ∀ {row : Route ℕ}, row.Secure →
      db'.toTables = { db.toTables with routes := Table.upsert Route.pk row db.routes } →
      db'.RoutesSecure := by
    intro row hrow htables r hr
    rw [htables] at hr
    rcases Table.mem_upsert.mp hr with rfl | ⟨hold, -⟩
    · exact hrow
    · exact hsecure r hold
  cases h with
  | createRoute hvalid hnew hfresh hrow htables =>
      obtain ⟨hflags, rfl⟩ := RouteResource.runValidation_ok hvalid
      exact hwrite (((authFlagErrors_none_iff_secure ⟨_, hnew, hrow⟩).mpr hexplicit).mp hflags)
        htables
  | updateRoute hmem howns hvalid hrow htables =>
      obtain ⟨hflags, rfl⟩ := RouteResource.runValidation_ok hvalid
      rw [← RouteResource.authFlagErrors_validated, authFlagErrors_some_eq_nil_iff] at hflags
      exact hwrite ((Route.secure_of_prepareAs hrow
        (kind_ne_of_owns (assign_owns howns))).mpr hflags) htables
  | createPort hnew hfresh htables =>
      unfold Tables.RoutesSecure
      rw [htables]
      exact hsecure
  | updatePort hmem hpk hflag htables =>
      unfold Tables.RoutesSecure
      rw [htables]
      exact hsecure
  | destroyRoute htables =>
      intro r hr
      rw [htables] at hr
      exact hsecure r (Table.mem_erase.mp hr).1
  | destroyPort htables =>
      intro r hr
      rw [htables] at hr
      exact hsecure r (Table.mem_erase.mp hr).1

/-- In every run whose creates have explicit flags, every stored route is secure, and in each
state a create is checked against what it would store exactly when its flags are explicit. -/
theorem routesSecure_of_explicitCreates (env : SerializerEnv) {init db : Database}
    (hinit : init.RoutesSecure) (h : Reached env ExplicitCreates init db) :
    db.RoutesSecure ∧
      ∀ s pk payload row, WouldStore s db.toTables pk payload row →
        ((authFlagErrors none payload = [] ↔ row.Secure) ↔ payload.ExplicitFlags) := by
  constructor
  · exact h.invariant hinit fun _ _ _ hsecure hexplicit heffect =>
      RoutesSecure.effect hsecure hexplicit heffect
  · intro s pk payload row hstore
    exact authFlagErrors_none_iff_secure hstore

/-- The row of a webhook route with the given flags. -/
def webhookRow (enableGatewayAuth enableMtls isInternalRoute : Bool) : Route ℕ where
  pk := 1
  name := "webhook"
  kind := .additionalRoute
  httpPort := 1
  serviceCluster := 1
  servicePort := 8000
  isServiceHttps := false
  servicePath := "/hook/"
  gatewayPath := "/hook/"
  enableGatewayAuth := enableGatewayAuth
  enableMtls := enableMtls
  isInternalRoute := isInternalRoute
  envoyClusterName := "cluster-1-8000-nodes:*"

/-- The EDA service with a webhook route. -/
def webhookRouteDatabase (enableGatewayAuth enableMtls : Bool) : Database :=
  ⟨webhookTables false [webhookRow enableGatewayAuth enableMtls false],
    by cases enableGatewayAuth <;> cases enableMtls <;> decide⟩

/-- A create of a webhook route with mutual TLS, which may say something about gateway
authentication. -/
def mtlsCreate (enableGatewayAuth : Option Bool) : Request :=
  .createRoute .additionalRoute 1
    { webhookPayload "/hook/" with enableGatewayAuth, enableMtls := some true }

/-- A create that turns gateway authentication off and mutual TLS on is accepted, and the stored
route is secure. -/
theorem routesSecure_explicitWebhook : (webhookRouteDatabase false true).RoutesSecure := by
  have hexplicit : ExplicitCreates webhookDatabase (mtlsCreate (some false)) := Or.inl rfl
  have hperform : perform plainSerializers webhookDatabase (mtlsCreate (some false)) =
      .ok (webhookRouteDatabase false true) := rfl
  exact (routesSecure_of_explicitCreates plainSerializers (by decide)
    (.step .start hexplicit hperform)).1

/-- A create that only turns mutual TLS on is accepted and stored with both mechanisms, and a
create that only makes the route internal is rejected although it would be stored with gateway
authentication. -/
theorem not_routesSecure_mtlsOnly :
    webhookDatabase.RoutesSecure ∧
      Reached plainSerializers (fun _ _ => True) webhookDatabase
        (webhookRouteDatabase true true) ∧
      ¬(webhookRouteDatabase true true).RoutesSecure ∧
      WouldStore .additionalRoute webhookDatabase.toTables 1
        { webhookPayload "/hook/" with isInternalRoute := some true }
        (webhookRow true false true) ∧
      (webhookRow true false true).Secure ∧
      authFlagErrors none { webhookPayload "/hook/" with isInternalRoute := some true } ≠ [] := by
  have hperform : perform plainSerializers webhookDatabase (mtlsCreate none) =
      .ok (webhookRouteDatabase true true) := rfl
  exact ⟨by decide, .step .start trivial hperform, by decide, ⟨_, rfl, rfl⟩, by decide,
    by decide⟩

end Routes

end AapGateway
