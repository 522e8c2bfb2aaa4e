import AapGateway.Foundations.Priority
import AapGateway.Xds.References
import AapGateway.Routes.Requests

/-!
# Which route answers a request

Envoy takes the first entry of a listener that matches a request. The entries of the routes stand
in the order of the `order` column, and routes of equal order stand as the query returned them.
This module follows which route the matching entry belongs to, and when a custom route can take
the requests of a service API.

`AdditionalRoute.clean` refuses paths that start with `/api/`, but Envoy matches by prefix: a
custom route at `/` or at `/api` is accepted, matches every path of every service API, and comes
first unless a route with a smaller `order` matches. The sign-in pages of a hub service are served
at paths of their own, wherever the route itself is.

## Main definitions

* `RouteEntry.accepts`: Envoy's test of an entry;
* `ownedEntries` and `firstOwner`: the entries of a listener with the routes they come from;
* `Route.answers`: whether an entry of a route matches, in terms of the route's columns;
* `NeverFirst`: a route does not answer a request, however ties are arranged.

## Main results

* `map_snd_ownedEntries`: the owned entries are the entries of the listener;
* `any_accepts_getXdsRouteConfig`: `Route.answers` is what the entries of the route do;
* `neverFirst_iff`: when a custom route never answers a request to a service API.
-/

namespace AapGateway

/-- What a route entry can test of a request: the path with its query, and whether the client
presented a certificate that validates. -/
structure ClientRequest where
  path : String
  clientCertificate : Bool := false
  deriving DecidableEq, Repr

/-- Envoy's test of an entry: the path, and the certificate where the entry asks for one. -/
def RouteEntry.accepts (e : RouteEntry) (req : ClientRequest) : Bool :=
  e.pathMatch.matches req.path && (!e.tlsContext || req.clientCertificate)

namespace Route

/-- The login or logout page of a route is sent to the gateway, and the request is for it. -/
def answersPage (name : Option String) (r : RouteInstance) (req : ClientRequest) : Bool :=
  r.enableGatewayAuth && name.isSome &&
    ((r.serviceCluster.getLoginPath r.gatewayPath).any (Text.startsWith req.path) ||
      (r.serviceCluster.getLogoutPath r.gatewayPath).any (Text.startsWith req.path))

/-- The route has an entry that matches the request. `name` is the cluster name of the gateway,
without which there are no entries for the pages. -/
def answers (name : Option String) (r : RouteInstance) (req : ClientRequest) : Bool :=
  (r.gatewayPath ≠ "" && r.servicePath ≠ "" && r.envoyClusterName ≠ "") &&
    (r.answersPage name req ||
      Text.startsWith req.path r.gatewayPath && (!r.enableMtls || req.clientCertificate))

/-- The page entries of a route match exactly when the request is for one of the pages. -/
theorem any_accepts_getXdsLoginLogoutRoutes (t : Tables) (r : RouteInstance)
    (name : Option String) (req : ClientRequest) :
    (r.getXdsLoginLogoutRoutes t (some name)).any (·.accepts req) = r.answersPage name req := by
  have hpage : ∀ cluster page gatewayPage,
      (r.gatewayPageEntry cluster page gatewayPage).accepts req =
      Text.startsWith req.path page := by
    intro cluster page gatewayPage
    exact Bool.and_true _
  unfold getXdsLoginLogoutRoutes answersPage
  cases r.enableGatewayAuth with
  | false => rfl
  | true =>
      cases name with
      | none => rfl
      | some cluster =>
          -- Each of the two pages has an entry if the service has a path for it.
          show List.any (_ ++ _) _ = _
          rw [List.any_append, List.any_map, List.any_map]
          simp only [Function.comp_def, hpage]
          cases r.serviceCluster.getLoginPath r.gatewayPath <;>
            cases r.serviceCluster.getLogoutPath r.gatewayPath <;> simp

/-- A route has a matching entry exactly when it answers the request. -/
theorem any_accepts_getXdsRouteConfig (t : Tables) (r : RouteInstance) (name : Option String)
    (req : ClientRequest) :
    (r.getXdsRouteConfig t (some name)).any (·.accepts req) = r.answers name req := by
  unfold getXdsRouteConfig answers
  split
  · -- A route that lacks one of the three texts has no entries.
    rename_i hblank
    have hfalse : (r.gatewayPath ≠ "" && r.servicePath ≠ "" && r.envoyClusterName ≠ "") =
        false := by
      rcases hblank with h | h | h <;> simp [h]
    rw [hfalse]
    rfl
  · rename_i hset
    have htrue : (r.gatewayPath ≠ "" && r.servicePath ≠ "" && r.envoyClusterName ≠ "") =
        true := by
      simpa [not_or, and_assoc] using hset
    rw [htrue, List.any_append, any_accepts_getXdsLoginLogoutRoutes, Bool.true_and]
    simp [RouteEntry.accepts, mainEntry, PathMatch.matches]

end Route

namespace HTTPPort

/-- The entries that do not come from a route: `/up` and the redirects. -/
def fixedEntries (t : Tables) (p : HTTPPort) : List RouteEntry :=
  upRoute ::
    (if p.isApiPort then
      (redirects (p.configuredRoutes t)).map fun (path, target) => redirectRoute path target
     else [])

/-- The entries of a listener, each with the primary key of the route it comes from. -/
def ownedEntries (t : Tables) (p : HTTPPort) (gw : GatewayClusterArg) :
    List (Option ℕ × RouteEntry) :=
  ((p.fixedEntries t).map fun e => (none, e)) ++
    (p.configuredRoutes t).flatMap fun r => (r.getXdsRouteConfig t gw).map fun e => (some r.pk, e)

/-- The owner of the first entry that matches a request, if an entry matches. -/
def firstOwner (t : Tables) (p : HTTPPort) (gw : GatewayClusterArg) (req : ClientRequest) :
    Option (Option ℕ) :=
  ((p.ownedEntries t gw).find? fun oe => oe.2.accepts req).map Prod.fst

/-- The owned entries are the entries of the port's listener. -/
theorem map_snd_ownedEntries (env : XdsEnv) (t : Tables) (p : HTTPPort)
    (gw : GatewayClusterArg) :
    (p.ownedEntries t gw).map Prod.snd = (p.getXdsListenerConfig env t gw).filter.routes := by
  show _ = p.routeEntries t gw
  unfold ownedEntries routeEntries fixedEntries
  rw [List.map_append, List.map_map, List.map_flatMap]
  simp [Function.comp_def]

/-- The fixed entries come first; after them the first route that answers owns the match. -/
theorem firstOwner_eq (t : Tables) (p : HTTPPort) (name : Option String) (req : ClientRequest) :
    p.firstOwner t (some name) req =
      if (p.fixedEntries t).any (·.accepts req) then some none
      else ((p.configuredRoutes t).find? (·.answers name req)).map fun r => some r.pk := by
  unfold firstOwner ownedEntries
  rw [List.find?_append]
  have hroutes := Priority.find?_flatMap_map (fun r => r.getXdsRouteConfig t (some name))
    (fun r => some r.pk) (·.accepts req) (p.configuredRoutes t)
  simp only [Route.any_accepts_getXdsRouteConfig] at hroutes
  rw [List.find?_map]
  -- The fixed entries are in front, so the routes are asked only where none of them matches.
  cases hfixed : (p.fixedEntries t).find? (·.accepts req) with
  | none =>
      have hany : (p.fixedEntries t).any (·.accepts req) = false :=
        List.any_eq_false.mpr (List.find?_eq_none.mp hfixed)
      have hnone : (p.fixedEntries t).find?
          ((fun oe : Option ℕ × RouteEntry => oe.2.accepts req) ∘ fun e => (none, e)) = none :=
        hfixed
      rw [hany, hnone]
      exact hroutes
  | some e =>
      have hany : (p.fixedEntries t).any (·.accepts req) = true :=
        List.any_eq_true.mpr ⟨e, List.mem_of_find?_eq_some hfixed, by
          simpa using List.find?_some hfixed⟩
      have hsome : (p.fixedEntries t).find?
          ((fun oe : Option ℕ × RouteEntry => oe.2.accepts req) ∘ fun e => (none, e)) = some e :=
        hfixed
      rw [hany, hsome]
      rfl

/-- A route of the port redirects the request: its path is under `/api/`, and the request is for
the form without the trailing slash. -/
def redirected (t : Tables) (p : HTTPPort) (req : ClientRequest) : Bool :=
  t.routes.any fun r =>
    r.httpPort = p.pk && Text.startsWith r.gatewayPath "/api/" && Text.endsWith r.gatewayPath "/" &&
      (PathMatch.path (Text.rstrip '/' r.gatewayPath)).matches req.path

/-- The redirected paths are `/api` and the paths under it without their trailing slashes. -/
theorem mem_map_fst_redirects {routes : List RouteInstance} {path : String} :
    path ∈ (redirects routes).map Prod.fst ↔
      path = "/api" ∨ ∃ r ∈ routes, Text.startsWith r.gatewayPath "/api/" = true ∧
        Text.endsWith r.gatewayPath "/" = true ∧ Text.rstrip '/' r.gatewayPath = path := by
  unfold redirects
  constructor
  · intro hpath
    obtain ⟨entry, hentry, rfl⟩ := List.mem_map.mp hpath
    rcases Table.mem_foldl_upsert hentry with hinit | ⟨r, hr, rfl⟩
    · left
      rw [List.mem_singleton.mp hinit]
    · right
      obtain ⟨hmem, htest⟩ := List.mem_filter.mp hr
      rw [Bool.and_eq_true] at htest
      exact ⟨r, hmem, htest.1, htest.2, rfl⟩
  · intro hpath
    apply Table.mem_map_key_foldl_upsert
    rcases hpath with rfl | ⟨r, hmem, hapi, hslash, rfl⟩
    · left
      exact List.mem_singleton_self _
    · right
      exact ⟨r, List.mem_filter.mpr ⟨hmem, by rw [hapi, hslash]; rfl⟩, rfl⟩

/-- A path under `/api/` is neither `/up` nor `/api`. -/
theorem matches_of_apiPath {path : String} (h : Text.startsWith path apiPrefix = true) :
    Text.startsWith path "/up" = false ∧ (PathMatch.path "/api").matches path = false := by
  obtain ⟨rest, hrest⟩ := List.isPrefixOf_iff_prefix.mp h
  unfold Text.startsWith PathMatch.matches
  rw [← hrest]
  exact ⟨rfl, by simp [apiPrefix]⟩

/-- On the API port a request under `/api/` is answered by a fixed entry exactly when a route of
the port redirects it. -/
theorem any_accepts_fixedEntries {t : Tables} {p : HTTPPort} {req : ClientRequest}
    (hapi : p.isApiPort = true) (hpath : Text.startsWith req.path apiPrefix = true)
    (hresolve : ∀ r ∈ t.routes, (t.resolveRoute r).isSome = true) :
    (p.fixedEntries t).any (·.accepts req) = p.redirected t req := by
  obtain ⟨hup, hbare⟩ := matches_of_apiPath hpath
  have hredirect : ∀ entry : String × String,
      (redirectRoute entry.1 entry.2).accepts req = (PathMatch.path entry.1).matches req.path :=
    fun entry => Bool.and_true _
  have hupRoute : upRoute.accepts req = false := by
    show (Text.startsWith req.path "/up" && true) = false
    rw [hup]
    rfl
  unfold fixedEntries
  rw [List.any_cons, hupRoute, Bool.false_or, hapi, if_pos rfl, List.any_map]
  rw [Bool.eq_iff_iff, List.any_eq_true]
  unfold redirected
  rw [List.any_eq_true]
  constructor
  · rintro ⟨entry, hentry, haccepts⟩
    have hmatch : (PathMatch.path entry.1).matches req.path = true :=
      (hredirect entry).symm.trans haccepts
    rcases mem_map_fst_redirects.mp (List.mem_map_of_mem hentry) with hbare' | ⟨ri, hri, h⟩
    · -- The redirect of `/api` itself does not match a path under it.
      rw [hbare', hbare] at hmatch
      cases hmatch
    · obtain ⟨hstarts, hends, hstrip⟩ := h
      obtain ⟨r, hr, hport, hresolve⟩ := mem_configuredRoutes.mp hri
      obtain ⟨c, -, rfl⟩ := Option.map_eq_some_iff.mp hresolve
      refine ⟨r, hr, ?_⟩
      rw [← hstrip] at hmatch
      simp only [Bool.and_eq_true, decide_eq_true_eq]
      exact ⟨⟨⟨hport, hstarts⟩, hends⟩, hmatch⟩
  · rintro ⟨r, hr, htest⟩
    simp only [Bool.and_eq_true, decide_eq_true_eq] at htest
    obtain ⟨⟨⟨hport, hstarts⟩, hends⟩, hmatch⟩ := htest
    obtain ⟨ri, hri⟩ := Option.isSome_iff_exists.mp (hresolve r hr)
    have hconfigured : ri ∈ p.configuredRoutes t := mem_configuredRoutes.mpr ⟨r, hr, hport, hri⟩
    obtain ⟨c, -, rfl⟩ := Option.map_eq_some_iff.mp hri
    have hkey := mem_map_fst_redirects.mpr (Or.inr ⟨_, hconfigured, hstarts, hends, rfl⟩)
    obtain ⟨entry, hentry, hfst⟩ := List.mem_map.mp hkey
    refine ⟨entry, hentry, (hredirect entry).trans ?_⟩
    rw [hfst]
    exact hmatch

end HTTPPort

namespace Routes

/-- The row has an entry that matches the request. -/
def rowAnswers (t : Tables) (name : Option String) (r : Route ℕ) (req : ClientRequest) : Bool :=
  (t.resolveRoute r).any (·.answers name req)

/-- No entry of the route `a` is the first that matches the request, in whatever order the query
returns the rows. -/
def NeverFirst (db : Database) (port : HTTPPort) (name : Option String) (a : Route ℕ)
    (req : ClientRequest) : Prop :=
  ∀ rows : List (Route ℕ), rows.Perm db.routes →
    port.firstOwner { db.toTables with routes := rows } (some name) req ≠ some (some a.pk)

/-- A custom route and a service API on the API port, and a request to the service API. -/
structure Contest (db : Database) (port : HTTPPort) (a s : Route ℕ) (slug : String)
    (req : ClientRequest) : Prop where
  port_mem : port ∈ db.httpPorts
  isApiPort : port.isApiPort = true
  custom_mem : a ∈ db.routes
  custom_kind : a.kind = .additionalRoute
  custom_port : a.httpPort = port.pk
  /-- The custom route is accepted on its port. -/
  custom_clean : a.clean db.toTables = .ok ()
  service_mem : s ∈ db.routes
  service_kind : s.kind = .serviceAPIRoute slug
  service_port : s.httpPort = port.pk
  service_path : s.gatewayPath = apiPrefix ++ slug ++ "/"
  /-- The request is for a path of the service API. -/
  request_path : Text.startsWith req.path s.gatewayPath = true

/-- A request to a service API is under `/api/`. -/
theorem Contest.apiPath {db : Database} {port : HTTPPort} {a s : Route ℕ} {slug : String}
    {req : ClientRequest} (h : Contest db port a s slug req) :
    Text.startsWith req.path apiPrefix = true := by
  have hpath := List.isPrefixOf_iff_prefix.mp h.request_path
  rw [h.service_path, String.toList_append, String.toList_append, List.append_assoc] at hpath
  exact List.isPrefixOf_iff_prefix.mpr ((List.prefix_append _ _).trans hpath)

section Arrangements

variable {db : Database} {port : HTTPPort} {name : Option String} {a : Route ℕ}
  {req : ClientRequest} {rows : List (Route ℕ)}

/-- A request that no arrangement answers by a fixed entry is not redirected, and the other way
round. -/
theorem any_accepts_fixedEntries_perm (hapi : port.isApiPort = true)
    (hpath : Text.startsWith req.path apiPrefix = true) (hperm : rows.Perm db.routes) :
    (port.fixedEntries { db.toTables with routes := rows }).any (·.accepts req) =
      port.redirected db.toTables req := by
  rw [HTTPPort.any_accepts_fixedEntries hapi hpath]
  · exact hperm.any_eq
  · intro r hr
    obtain ⟨c, -, hresolve⟩ := exists_withCluster (hperm.mem_iff.mp hr)
    exact Option.isSome_iff_exists.mpr ⟨_, hresolve⟩

/-- An arrangement in which the first match belongs to `a`: the route answers, the request is not
redirected, and no route with a smaller order answers. -/
theorem answers_of_firstOwner (hapi : port.isApiPort = true)
    (hpath : Text.startsWith req.path apiPrefix = true) (ha : a ∈ db.routes)
    (hperm : rows.Perm db.routes)
    (hfirst : port.firstOwner { db.toTables with routes := rows } (some name) req =
      some (some a.pk)) :
    rowAnswers db.toTables name a req = true ∧ port.redirected db.toTables req = false ∧
      ∀ b ∈ db.routes, b.httpPort = port.pk → b.order < a.order →
        rowAnswers db.toTables name b req = false := by
  rw [HTTPPort.firstOwner_eq, any_accepts_fixedEntries_perm hapi hpath hperm] at hfirst
  split at hfirst
  · cases hfirst
  · rename_i hredirected
    obtain ⟨x, hfind, hpk⟩ := Option.map_eq_some_iff.mp hfirst
    obtain ⟨r, hr, -, hresolve⟩ :=
      HTTPPort.mem_configuredRoutes.mp (List.mem_of_find?_eq_some hfind)
    have hresolve : db.resolveRoute r = some x := hresolve
    obtain ⟨c, -, rfl⟩ := Option.map_eq_some_iff.mp hresolve
    -- Route keys are unique, so the row that was found is the row of `a`.
    have hra : r = a := List.inj_on_of_nodup_map db.integrity.1.2.2.2.2.2.2.2.2.2.2.2.1
      (hperm.mem_iff.mp hr) ha (Option.some.inj hpk)
    subst hra
    refine ⟨?_, by simpa using hredirected, ?_⟩
    · have hfound := List.find?_some hfind
      rw [rowAnswers, hresolve]
      exact hfound
    · -- A route with a smaller order comes first in every arrangement.
      intro b hb hport hlt
      obtain ⟨cb, -, hb'⟩ := exists_withCluster hb
      have hmem : b.withCluster cb ∈
          ((rows.filter (·.httpPort = port.pk)).filterMap db.resolveRoute) :=
        List.mem_filterMap.mpr ⟨b, List.mem_filter.mpr
          ⟨hperm.mem_iff.mpr hb, decide_eq_true hport⟩, hb'⟩
      rw [rowAnswers, hb']
      exact Priority.eq_false_of_find?_insertionSort hfind hmem hlt

/-- When the route answers, the request is not redirected and no route with a smaller order
answers, the arrangement that puts the route before the others of its order gives it the
request. -/
theorem firstOwner_of_answers (hapi : port.isApiPort = true)
    (hpath : Text.startsWith req.path apiPrefix = true) (ha : a ∈ db.routes)
    (hport : a.httpPort = port.pk) (hanswers : rowAnswers db.toTables name a req = true)
    (hredirected : port.redirected db.toTables req = false)
    (hsmaller : ∀ b ∈ db.routes, b.httpPort = port.pk → b.order < a.order →
      rowAnswers db.toTables name b req = false) :
    port.firstOwner { db.toTables with routes := a :: db.routes.erase a } (some name) req =
      some (some a.pk) := by
  have hperm : (a :: db.routes.erase a).Perm db.routes := (List.perm_cons_erase ha).symm
  obtain ⟨c, -, hresolve⟩ := exists_withCluster ha
  rw [rowAnswers, hresolve] at hanswers
  rw [HTTPPort.firstOwner_eq, any_accepts_fixedEntries_perm hapi hpath hperm, hredirected,
    if_neg Bool.false_ne_true]
  have hlist : ((a :: db.routes.erase a).filter (·.httpPort = port.pk)).filterMap
      db.resolveRoute = a.withCluster c ::
        ((db.routes.erase a).filter (·.httpPort = port.pk)).filterMap db.resolveRoute := by
    have hkeep : decide (a.httpPort = port.pk) = true := decide_eq_true hport
    rw [List.filter_cons, hkeep, if_pos rfl, List.filterMap_cons_some hresolve]
  have hfind : (port.configuredRoutes
      { db.toTables with routes := a :: db.routes.erase a }).find? (·.answers name req) =
        some (a.withCluster c) := by
    show (List.insertionSort _ (List.filterMap db.resolveRoute _)).find? _ = _
    rw [hlist]
    -- The sort keeps the routes of one order as they came, with the route in front of them.
    refine Priority.find?_insertionSort_cons hanswers ?_
    intro x hx hlt
    obtain ⟨b, hb, hbx⟩ := List.mem_filterMap.mp hx
    obtain ⟨hmem, hbport⟩ := List.mem_filter.mp hb
    obtain ⟨cb, -, rfl⟩ := Option.map_eq_some_iff.mp hbx
    have hno := hsmaller b (List.mem_of_mem_erase hmem) (of_decide_eq_true hbport) hlt
    rwa [rowAnswers, hbx] at hno
  rw [hfind]
  rfl

end Arrangements

/-- A custom route never takes a request to a service API exactly when it has no entry that
matches the request, or a redirect of the port answers it, or a route of the port with a strictly
smaller order matches it. -/
theorem neverFirst_iff {db : Database} {port : HTTPPort} {a s : Route ℕ} {slug : String}
    {req : ClientRequest} (name : Option String) (h : Contest db port a s slug req) :
    NeverFirst db port name a req ↔
      rowAnswers db.toTables name a req = false ∨ port.redirected db.toTables req = true ∨
        ∃ b ∈ db.routes, b.httpPort = port.pk ∧ b.order < a.order ∧
          rowAnswers db.toTables name b req = true := by
  constructor
  · -- Otherwise there is an arrangement that gives the route the request.
    intro hnever
    by_contra hnot
    simp only [not_or, not_exists, not_and, Bool.not_eq_false, Bool.not_eq_true] at hnot
    obtain ⟨hanswers, hredirected, hsmaller⟩ := hnot
    exact hnever _ (List.perm_cons_erase h.custom_mem).symm
      (firstOwner_of_answers h.isApiPort h.apiPath h.custom_mem h.custom_port hanswers
        hredirected hsmaller)
  · intro hcond rows hperm hfirst
    obtain ⟨hanswers, hredirected, hsmaller⟩ :=
      answers_of_firstOwner h.isApiPort h.apiPath h.custom_mem hperm hfirst
    rcases hcond with hno | hredirect | ⟨b, hb, hport, hlt, hyes⟩
    · rw [hanswers] at hno
      cases hno
    · rw [hredirected] at hredirect
      cases hredirect
    · rw [hsmaller b hb hport hlt] at hyes
      cases hyes

/-- The API port of the controller service. -/
def controllerPort : HTTPPort where
  pk := 1
  name := "api"
  number := 443
  isApiPort := true
  envoyListenerName := "port-443"

/-- The API route of the controller service. -/
def controllerRoute : Route ℕ where
  pk := 1
  name := "controller"
  kind := .serviceAPIRoute "controller"
  httpPort := 1
  serviceCluster := 1
  servicePort := 8080
  isServiceHttps := true
  servicePath := "/api/"
  gatewayPath := "/api/controller/"
  envoyClusterName := "cluster-1-8080-nodes:*"

/-- A request to the API of the controller. -/
def controllerRequest : ClientRequest where
  path := "/api/controller/v2/jobs/"

/-- The custom route at `/websocket/` never takes a request to the API of the controller. -/
theorem neverFirst_websocket :
    NeverFirst (websocketDatabase true) controllerPort none
      { websocketRoute true with envoyClusterName := "cluster-1-8080-nodes:*" }
      controllerRequest := by
  have hcontest : Contest (websocketDatabase true) controllerPort
      { websocketRoute true with envoyClusterName := "cluster-1-8080-nodes:*" } controllerRoute
      "controller" controllerRequest :=
    ⟨by decide, rfl, by decide, rfl, rfl, rfl, by decide, rfl, rfl, rfl, by decide⟩
  exact (neverFirst_iff none hcontest).mpr (Or.inl (by decide))

/-- The controller service before it has a custom route. -/
def controllerDatabase : Database :=
  ⟨{ websocketTables true with routes := [controllerRoute] }, by decide⟩

/-- A payload for a custom route at `/api` on the API port. -/
def apiPayload : RouteAttrs where
  name := some "custom"
  httpPort := some 1
  serviceCluster := some 1
  servicePort := some 9000
  isServiceHttps := some true
  servicePath := some "/"
  gatewayPath := some "/api"

/-- The custom route at `/api`. -/
def apiRoute : Route ℕ where
  pk := 2
  name := "custom"
  kind := .additionalRoute
  httpPort := 1
  serviceCluster := 1
  servicePort := 9000
  isServiceHttps := true
  servicePath := "/"
  gatewayPath := "/api"
  envoyClusterName := "cluster-1-9000-nodes:*"

/-- The controller service with the custom route at `/api`. -/
def hijackedDatabase : Database :=
  ⟨{ websocketTables true with routes := [controllerRoute, apiRoute] }, by decide⟩

/-- A custom route at `/api` is accepted on the API port. Routes of equal order may be arranged
either way, and with the custom route first it takes the requests to the API of the
controller. -/
theorem not_neverFirst_apiRoute :
    perform plainSerializers controllerDatabase (.createRoute .additionalRoute 2 apiPayload) =
        .ok hijackedDatabase ∧
      Contest hijackedDatabase controllerPort apiRoute controllerRoute "controller"
        controllerRequest ∧
      ¬NeverFirst hijackedDatabase controllerPort hijackedDatabase.gatewayClusterName apiRoute
        controllerRequest := by
  refine ⟨rfl, ?_, ?_⟩
  · exact ⟨by decide, rfl, by decide, rfl, rfl, rfl, by decide, rfl, rfl, rfl, by decide⟩
  · intro hnever
    have hperm : [apiRoute, controllerRoute].Perm hijackedDatabase.routes :=
      List.Perm.swap controllerRoute apiRoute []
    exact hnever [apiRoute, controllerRoute] hperm (by decide)

end Routes

end AapGateway
