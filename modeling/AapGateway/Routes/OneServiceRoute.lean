import AapGateway.Routes.AuthFlags
import AapGateway.Routes.Precedence

/-!
# One API route per service

The account-merging code finds the API of a service with
`ServiceAPIRoute.objects.get(service_cluster=...)`, which fails when the cluster has two API
routes. The model's `Meta` names a constraint `one_service_api_per_service` for this, but only
constructs it: the object is not assigned to `constraints`, so neither the database nor the
serializer enforces it. What is enforced are the slug's form and the uniqueness of port and path,
and two slugs give two paths.

## Main definitions

* `serviceAPIRoutesOf` and `getServiceAPIRoute`: the API routes of a cluster, and the lookup that
  expects one;
* `OneServiceRoute`: every cluster has at most one API route;
* `FreeCluster`: a request leaves an API route on a cluster without another API route.

## Main results

* `oneServiceRoute_perform_iff`: the requests that keep the invariant are exactly the free ones;
* `oneServiceRoute_of_freeClusters`: the invariant holds in every run of free requests.
-/

namespace AapGateway

namespace Tables

/-- The API routes of a service cluster. -/
def serviceAPIRoutesOf (t : Tables) (cluster : ℕ) : List (Route ℕ) :=
  t.routes.filter fun r => Routes.RouteResource.serviceAPIRoute.owns r && r.serviceCluster = cluster

/-- `ServiceAPIRoute.objects.get(service_cluster=cluster)`. -/
def getServiceAPIRoute (t : Tables) (cluster : ℕ) : Except LookupError (Route ℕ) :=
  match t.serviceAPIRoutesOf cluster with
  | [] => .error .doesNotExist
  | [r] => .ok r
  | _ :: _ :: _ => .error .multipleObjectsReturned

/-- Every service cluster has at most one API route. -/
def OneServiceRoute (t : Tables) : Prop :=
  ∀ cluster, (t.serviceAPIRoutesOf cluster).length ≤ 1

/-- With at most one API route, the lookup finds one as soon as one exists. -/
theorem OneServiceRoute.getServiceAPIRoute {t : Tables} (h : t.OneServiceRoute) {cluster : ℕ}
    (hexists : t.serviceAPIRoutesOf cluster ≠ []) :
    ∃ r, t.getServiceAPIRoute cluster = .ok r ∧ t.serviceAPIRoutesOf cluster = [r] := by
  have hone := h cluster
  unfold Tables.getServiceAPIRoute
  match hroutes : t.serviceAPIRoutesOf cluster with
  | [] => exact absurd hroutes hexists
  | [r] => exact ⟨r, rfl, rfl⟩
  | a :: b :: rest =>
      rw [hroutes] at hone
      simp at hone

end Tables

namespace Routes

/-- The invariant, for the rows of a table with distinct keys: two API routes of one cluster are
one row. -/
theorem oneServiceRoute_iff {t : Tables} (hkeys : (t.routes.map Route.pk).Nodup) :
    t.OneServiceRoute ↔
      ∀ a ∈ t.routes, ∀ b ∈ t.routes, RouteResource.serviceAPIRoute.owns a = true →
        RouteResource.serviceAPIRoute.owns b = true → a.serviceCluster = b.serviceCluster →
          a.pk = b.pk := by
  unfold Tables.OneServiceRoute Tables.serviceAPIRoutesOf
  simp only [Table.length_filter_le_one_iff hkeys, Bool.and_eq_true, decide_eq_true_eq]
  constructor
  · intro hone a ha b hb howns howns' hcluster
    exact hone b.serviceCluster a ha b hb ⟨howns, hcluster⟩ ⟨howns', rfl⟩
  · rintro hone cluster a ha b hb ⟨howns, hcluster⟩ ⟨howns', hcluster'⟩
    exact hone a ha b hb howns howns' (hcluster.trans hcluster'.symm)

/-- A request leaves an API route only on a cluster that has no other API route. -/
def FreeCluster (db : Database) : Request → Prop
  | .createRoute .serviceAPIRoute _ payload =>
    ∀ cluster, payload.serviceCluster = some cluster → db.serviceAPIRoutesOf cluster = []
  | .updateRoute .serviceAPIRoute _ _ pk payload =>
    ∀ cluster, payload.serviceCluster = some cluster →
      ∀ b ∈ db.serviceAPIRoutesOf cluster, b.pk = pk
  | _ => True

/-- The row a `save` writes keeps its key, its class and its cluster. -/
theorem prepareAs_ok {t : Tables} {r row : Route ℕ} (h : r.prepareAs t = .ok row) :
    row.pk = r.pk ∧ row.kind = r.kind ∧ row.serviceCluster = r.serviceCluster := by
  unfold Route.prepareAs at h
  split at h
  · cases h
    exact ⟨rfl, rfl, rfl⟩
  · cases hclean : r.clean t with
    | error e => rw [hclean] at h; cases h
    | ok _ =>
        rw [hclean] at h
        cases h
        exact ⟨rfl, rfl, rfl⟩
  · split at h
    · cases h
    · cases h
      exact ⟨rfl, rfl, rfl⟩
  · split at h
    · cases h
    · cases h
      exact ⟨rfl, rfl, rfl⟩

/-- A new route has the key it was given, on the cluster of its payload. -/
theorem newRoute_serviceCluster {s : RouteResource} {pk : ℕ} {attrs : RouteAttrs} {r : Route ℕ}
    (h : s.newRoute pk attrs = some r) :
    r.pk = pk ∧ attrs.serviceCluster = some r.serviceCluster := by
  unfold RouteResource.newRoute at h
  simp only [Option.bind_eq_bind, Option.bind_eq_some_iff, Option.pure_def,
    Option.some.injEq] at h
  obtain ⟨name, -, kind, -, port, -, cluster, hcluster, servicePort, -, https, -, path, -, rfl⟩ := h
  refine ⟨rfl, ?_⟩
  show attrs.serviceCluster = some (attrs.serviceCluster.getD cluster)
  rw [hcluster]
  rfl

/-- Whether a row is an API route depends on its class only. -/
theorem owns_congr {s : RouteResource} {r r' : Route ℕ} (h : r.kind = r'.kind) :
    s.owns r = s.owns r' := by
  unfold RouteResource.owns
  rw [h]

/-- Validation does not change the cluster of a payload. -/
theorem validated_serviceCluster (s : RouteResource) (payload : RouteAttrs) :
    (s.validated payload).serviceCluster = payload.serviceCluster := by
  cases s <;> rfl

section Writes

variable {db db' : Database} {row : Route ℕ}

/-- Route keys of a database are distinct. -/
theorem nodup_routes (db : Database) : (db.routes.map Route.pk).Nodup :=
  db.integrity.1.2.2.2.2.2.2.2.2.2.2.2.1

/-- Writing an API route keeps the invariant exactly when its cluster has no API route of another
key. -/
theorem oneServiceRoute_upsert_iff (hone : db.OneServiceRoute)
    (howns : RouteResource.serviceAPIRoute.owns row = true)
    (htables : db'.toTables =
      { db.toTables with routes := Table.upsert Route.pk row db.routes }) :
    db'.OneServiceRoute ↔ ∀ b ∈ db.serviceAPIRoutesOf row.serviceCluster, b.pk = row.pk := by
  rw [oneServiceRoute_iff (nodup_routes db')]
  rw [oneServiceRoute_iff (nodup_routes db)] at hone
  have hroutes : db'.routes = Table.upsert Route.pk row db.routes := by rw [htables]
  rw [hroutes]
  constructor
  · intro hone' b hb
    obtain ⟨hmem, htest⟩ := List.mem_filter.mp hb
    rw [Bool.and_eq_true] at htest
    by_contra hne
    -- The other row is still there after the write.
    exact hne (hone' b (Table.mem_upsert.mpr (Or.inr ⟨hmem, hne⟩)) row
      (Table.mem_upsert.mpr (Or.inl rfl)) htest.1 howns (of_decide_eq_true htest.2))
  · intro hfree a ha b hb howns_a howns_b hcluster
    have hother : ∀ c ∈ db.routes, RouteResource.serviceAPIRoute.owns c = true →
        c.serviceCluster = row.serviceCluster → c.pk = row.pk := by
      intro c hc howns_c hcluster_c
      refine hfree c (List.mem_filter.mpr ⟨hc, ?_⟩)
      rw [howns_c, decide_eq_true hcluster_c]
      rfl
    rcases Table.mem_upsert.mp ha with rfl | ⟨ha', -⟩
    · rcases Table.mem_upsert.mp hb with rfl | ⟨hb', -⟩
      · rfl
      · exact (hother b hb' howns_b hcluster.symm).symm
    · rcases Table.mem_upsert.mp hb with rfl | ⟨hb', -⟩
      · exact hother a ha' howns_a hcluster
      · exact hone a ha' b hb' howns_a howns_b hcluster

/-- The invariant is kept when no API route is added: the API routes afterwards were there
before. -/
theorem oneServiceRoute_anti (hone : db.OneServiceRoute)
    (hroutes : ∀ r ∈ db'.routes, RouteResource.serviceAPIRoute.owns r = true → r ∈ db.routes) :
    db'.OneServiceRoute := by
  rw [oneServiceRoute_iff (nodup_routes db')]
  rw [oneServiceRoute_iff (nodup_routes db)] at hone
  intro a ha b hb howns_a howns_b hcluster
  exact hone a (hroutes a ha howns_a) b (hroutes b hb howns_b) howns_a howns_b hcluster

/-- Writing an additional route keeps the invariant. -/
theorem oneServiceRoute_additional (hone : db.OneServiceRoute)
    (howns : RouteResource.additionalRoute.owns row = true)
    (htables : db'.toTables =
      { db.toTables with routes := Table.upsert Route.pk row db.routes }) :
    db'.OneServiceRoute := by
  refine oneServiceRoute_anti hone ?_
  intro r hr hservice
  rw [htables] at hr
  rcases Table.mem_upsert.mp hr with rfl | ⟨hmem, -⟩
  · unfold RouteResource.owns at howns hservice
    cases hkind : r.kind <;> simp_all
  · exact hmem

end Writes

section Perform

variable {env : SerializerEnv} {db db' : Database}

/-- A create keeps the invariant exactly when it is free. -/
theorem oneServiceRoute_createRoute_iff {s : RouteResource} {pk : ℕ} {payload : RouteAttrs}
    (hone : db.OneServiceRoute) (h : createRoute env db s pk payload = .ok db') :
    db'.OneServiceRoute ↔ FreeCluster db (.createRoute s pk payload) := by
  cases effect_of_createRoute h with
  | createRoute hvalid hnew hfresh hrow htables =>
      obtain ⟨-, rfl⟩ := RouteResource.runValidation_ok hvalid
      obtain ⟨hpk, hkind, hcluster⟩ := prepareAs_ok hrow
      obtain ⟨hnewpk, hnewcluster⟩ := newRoute_serviceCluster hnew
      have howns := (owns_congr hkind).trans (newRoute_owns hnew)
      rw [validated_serviceCluster, ← hcluster] at hnewcluster
      cases s with
      | additionalRoute =>
          exact iff_of_true (oneServiceRoute_additional hone howns htables) trivial
      | serviceAPIRoute =>
          rw [oneServiceRoute_upsert_iff hone howns htables]
          constructor
          · intro hfree cluster hpayload
            rw [hnewcluster] at hpayload
            obtain rfl := Option.some.inj hpayload
            -- A row of the cluster would have the key of the new row, which is fresh.
            refine List.eq_nil_iff_forall_not_mem.mpr fun b hb => hfresh ?_
            rw [← hnewpk, ← hpk, ← hfree b hb]
            exact List.mem_map_of_mem (List.mem_filter.mp hb).1
          · intro hfree b hb
            rw [hfree _ hnewcluster] at hb
            exact absurd hb List.not_mem_nil

/-- An update keeps the invariant exactly when it is free. -/
theorem oneServiceRoute_updateRoute_iff {s : RouteResource} {isPartial fromProxy : Bool} {pk : ℕ}
    {payload : RouteAttrs} (hone : db.OneServiceRoute)
    (h : updateRoute env db s isPartial fromProxy pk payload = .ok db') :
    db'.OneServiceRoute ↔ FreeCluster db (.updateRoute s isPartial fromProxy pk payload) := by
  obtain ⟨r, attrs, row, hmem, hpk, howns, hvalid, hrow, htables⟩ := updateRoute_ok h
  obtain ⟨-, rfl⟩ := RouteResource.runValidation_ok hvalid
  obtain ⟨hrowpk, hkind, hrowcluster⟩ := prepareAs_ok hrow
  have hkey : row.pk = pk := hrowpk.trans hpk
  have hcluster : row.serviceCluster = payload.serviceCluster.getD r.serviceCluster := by
    rw [hrowcluster, ← validated_serviceCluster s payload]
    rfl
  have howns' := (owns_congr hkind).trans (assign_owns howns)
  cases s with
  | additionalRoute =>
      exact iff_of_true (oneServiceRoute_additional hone howns' htables) trivial
  | serviceAPIRoute =>
      rw [oneServiceRoute_upsert_iff hone howns' htables, hcluster, hkey]
      show _ ↔ ∀ cluster, payload.serviceCluster = some cluster →
        ∀ b ∈ db.serviceAPIRoutesOf cluster, b.pk = pk
      cases hpayload : payload.serviceCluster with
      | some cluster =>
          constructor
          · rintro hfree _ ⟨⟩
            exact hfree
          · intro hfree
            exact hfree cluster rfl
      | none =>
          -- The route stays on its cluster, which has no other API route.
          refine iff_of_true ?_ (fun _ hnone => by cases hnone)
          intro b hb
          obtain ⟨hb, htest⟩ := List.mem_filter.mp hb
          rw [Bool.and_eq_true] at htest
          rw [oneServiceRoute_iff (nodup_routes db)] at hone
          exact (hone b hb r hmem htest.1 howns (of_decide_eq_true htest.2)).trans hpk

/-- In a state that satisfies the invariant, an accepted request keeps it exactly when it is
free. -/
theorem oneServiceRoute_perform_iff {req : Request} (hone : db.OneServiceRoute)
    (h : perform env db req = .ok db') : db'.OneServiceRoute ↔ FreeCluster db req := by
  cases req with
  | createRoute s pk payload => exact oneServiceRoute_createRoute_iff hone h
  | updateRoute s isPartial fromProxy pk payload => exact oneServiceRoute_updateRoute_iff hone h
  | destroyRoute s fromProxy pk =>
      cases effect_of_perform h with
      | destroyRoute htables =>
          refine iff_of_true (oneServiceRoute_anti hone fun r hr _ => ?_) trivial
          rw [htables] at hr
          exact (Table.mem_erase.mp hr).1
  | createPort pk payload =>
      cases effect_of_perform h with
      | createPort hnew hfresh htables =>
          refine iff_of_true (oneServiceRoute_anti hone fun r hr _ => ?_) trivial
          rwa [htables] at hr
  | updatePort isPartial fromProxy pk payload =>
      cases effect_of_perform h with
      | updatePort hmem hpk hflag htables =>
          refine iff_of_true (oneServiceRoute_anti hone fun r hr _ => ?_) trivial
          rwa [htables] at hr
  | destroyPort fromProxy pk =>
      cases effect_of_perform h with
      | destroyPort htables =>
          refine iff_of_true (oneServiceRoute_anti hone fun r hr _ => ?_) trivial
          rw [htables] at hr
          exact (Table.mem_erase.mp hr).1

end Perform

/-- In every run of free requests each cluster has at most one API route, which the lookup finds
once it exists, and in each state reached the next request keeps it so exactly when it is free. -/
theorem oneServiceRoute_of_freeClusters (env : SerializerEnv) {init db : Database}
    (hinit : init.OneServiceRoute) (h : Reached env FreeCluster init db) :
    db.OneServiceRoute ∧
      (∀ cluster, db.serviceAPIRoutesOf cluster ≠ [] →
        ∃ r, db.getServiceAPIRoute cluster = .ok r ∧ db.serviceAPIRoutesOf cluster = [r]) ∧
      ∀ req db', perform env db req = .ok db' → (db'.OneServiceRoute ↔ FreeCluster db req) := by
  have hone : db.OneServiceRoute := by
    induction h with
    | start => exact hinit
    | step _ hfree hperform ih => exact (oneServiceRoute_perform_iff ih hperform).mpr hfree
  exact ⟨hone, fun _ hexists => hone.getServiceAPIRoute hexists,
    fun _ _ hperform => oneServiceRoute_perform_iff hone hperform⟩

/-- A create of an API route with the given slug for the controller service. -/
def createSlug (pk : ℕ) (apiSlug : String) : Request :=
  .createRoute .serviceAPIRoute pk
    { name := some apiSlug, httpPort := some 1, serviceCluster := some 1, servicePort := some 8080
      isServiceHttps := some true, servicePath := some "/api/", apiSlug := some apiSlug }

/-- The row of an API route with the given slug for the controller service. -/
def slugRoute (pk : ℕ) (apiSlug : String) : Route ℕ :=
  { controllerRoute with
    pk, name := apiSlug, kind := .serviceAPIRoute apiSlug
    gatewayPath := apiPrefix ++ apiSlug ++ "/" }

/-- The controller service with the given API routes. -/
def slugTables (routes : List (Route ℕ)) : Tables :=
  { websocketTables true with routes }

/-- The controller service without a route, with one API route, and with two. -/
def bareDatabase : Database :=
  ⟨slugTables [], by decide⟩

@[inherit_doc bareDatabase]
def oneSlugDatabase : Database :=
  ⟨slugTables [slugRoute 1 "controller"], by decide⟩

@[inherit_doc bareDatabase]
def twoSlugDatabase : Database :=
  ⟨slugTables [slugRoute 1 "controller", slugRoute 2 "awx"], by decide⟩

/-- The first API route of the controller service is found by its cluster. -/
theorem oneServiceRoute_controller :
    oneSlugDatabase.OneServiceRoute ∧
      ∃ r, oneSlugDatabase.getServiceAPIRoute 1 = .ok r := by
  have hperform : perform plainSerializers bareDatabase (createSlug 1 "controller") =
      .ok oneSlugDatabase := rfl
  have hfree : FreeCluster bareDatabase (createSlug 1 "controller") := fun _ _ => rfl
  have hinit : bareDatabase.OneServiceRoute := fun _ => Nat.zero_le 1
  obtain ⟨hone, hlookup, -⟩ := oneServiceRoute_of_freeClusters plainSerializers hinit
    (.step .start hfree hperform)
  obtain ⟨r, hr, -⟩ := hlookup 1 (by decide)
  exact ⟨hone, r, hr⟩

/-- A second API route for the controller service, with another slug, is accepted, and the lookup
by the cluster fails from then on. -/
theorem not_oneServiceRoute_twoSlugs :
    bareDatabase.OneServiceRoute ∧
      Reached plainSerializers (fun _ _ => True) bareDatabase twoSlugDatabase ∧
      ¬twoSlugDatabase.OneServiceRoute ∧
      twoSlugDatabase.getServiceAPIRoute 1 = .error .multipleObjectsReturned := by
  have hfirst : perform plainSerializers bareDatabase (createSlug 1 "controller") =
      .ok oneSlugDatabase := rfl
  have hsecond : perform plainSerializers oneSlugDatabase (createSlug 2 "awx") =
      .ok twoSlugDatabase := rfl
  refine ⟨fun _ => Nat.zero_le 1, .step (.step .start trivial hfirst) trivial hsecond, ?_, rfl⟩
  intro hone
  exact absurd (hone 1) (by decide)

end Routes

end AapGateway
