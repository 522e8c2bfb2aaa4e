import AapGateway.Routes.Precedence

/-!
# The first-match law of a listener

Envoy takes the first entry of a listener that matches. A listener starts with the entry for `/up`
and, on the API port, with the redirects; the entries of the routes follow in the order of the
`order` column, each route with its login and logout entries before its main entry. The law says
that the configured routes decide who answers: the first entry that matches belongs to a route of
minimal order among those that have a matching entry, its pages come before its main entry, and
without such a route nothing matches.

The entry for `/up` is meant to "respond to /up itself", but it matches by prefix. Every path that
starts with `/up` gets the health answer, a route at `/upload/` among them, so the law holds for a
path exactly when it does not start with `/up`.

## Main definitions

* `HTTPPort.firstEntry`: the first entry that matches, with the route it comes from;
* `HTTPPort.FirstMatchLaw`: the law for one request;
* `HTTPPort.isRedirectSource`: the path is the source of a redirect.

## Main results

* `HTTPPort.firstEntry_eq`: the first match, in terms of the configured routes;
* `Routes.firstMatchLaw_iff`: the paths for which the law holds.
-/

namespace AapGateway

namespace Route

/-- Whether the route has an entry for a path: it is configured, and its own path or one of its
pages is a prefix of the path. -/
def matchesPath (name : Option String) (r : RouteInstance) (path : String) : Bool :=
  (r.gatewayPath ≠ "" && r.servicePath ≠ "" && r.envoyClusterName ≠ "") &&
    (r.answersPage name { path } || Text.startsWith path r.gatewayPath)

/-- A route without mTLS answers a request by its path alone. -/
theorem answers_eq_matchesPath (name : Option String) {r : RouteInstance} {req : ClientRequest}
    (hmtls : r.enableMtls = false) : r.answers name req = r.matchesPath name req.path := by
  unfold answers matchesPath
  rw [hmtls]
  show _ = (_ && (r.answersPage name req || _))
  rw [Bool.not_false, Bool.true_or, Bool.and_true]

/-- The first entry of a route that matches: a page entry if the request is for a page, and the
main entry otherwise. -/
theorem find?_getXdsRouteConfig {t : Tables} {r : RouteInstance} {name : Option String}
    {req : ClientRequest} {e : RouteEntry}
    (h : (r.getXdsRouteConfig t (some name)).find? (·.accepts req) = some e) :
    if r.answersPage name req then e ∈ r.getXdsLoginLogoutRoutes t (some name)
    else e = r.mainEntry t.preferences := by
  unfold getXdsRouteConfig at h
  split at h
  · cases h
  · rw [List.find?_append] at h
    rw [← any_accepts_getXdsLoginLogoutRoutes t]
    cases hpage : (r.getXdsLoginLogoutRoutes t (some name)).find? (·.accepts req) with
    | none =>
        have hnone : (r.getXdsLoginLogoutRoutes t (some name)).any (·.accepts req) = false :=
          List.any_eq_false.mpr (List.find?_eq_none.mp hpage)
        rw [hpage, Option.none_or] at h
        rw [hnone, if_neg Bool.false_ne_true]
        exact List.mem_singleton.mp (List.mem_of_find?_eq_some h)
    | some page =>
        have hmem := List.mem_of_find?_eq_some hpage
        have haccepts : page.accepts req = true :=
          List.find?_some (p := fun e : RouteEntry => e.accepts req) hpage
        have hsome : (r.getXdsLoginLogoutRoutes t (some name)).any (·.accepts req) = true :=
          List.any_eq_true.mpr ⟨page, hmem, haccepts⟩
        rw [hpage, Option.some_or] at h
        rw [hsome, if_pos rfl]
        exact Option.some.inj h ▸ hmem

end Route

namespace HTTPPort

/-- The path is the source of a redirect of the port. -/
def isRedirectSource (t : Tables) (p : HTTPPort) (path : String) : Bool :=
  p.isApiPort && (redirects (p.configuredRoutes t)).any fun entry =>
    (PathMatch.path entry.1).matches path

/-- The first entry of the listener that matches a request, with the primary key of the route it
comes from. -/
def firstEntry (t : Tables) (p : HTTPPort) (gw : GatewayClusterArg) (req : ClientRequest) :
    Option (Option ℕ × RouteEntry) :=
  (p.ownedEntries t gw).find? fun oe => oe.2.accepts req

/-- The first-match law for one request. -/
def FirstMatchLaw (t : Tables) (p : HTTPPort) (gw : GatewayClusterArg) (req : ClientRequest) :
    Prop :=
  let name := gw.resolve t
  match p.firstEntry t gw req with
  | none => ∀ r ∈ p.configuredRoutes t, r.matchesPath name req.path = false
  | some (owner, e) =>
    ∃ r ∈ p.configuredRoutes t, owner = some r.pk ∧ r.matchesPath name req.path = true ∧
      (∀ b ∈ p.configuredRoutes t, b.matchesPath name req.path = true → r.order ≤ b.order) ∧
      -- Within the route the login and logout entries take precedence.
      if r.answersPage name req then e ∈ r.getXdsLoginLogoutRoutes t gw
      else e = r.mainEntry t.preferences

/-- Apart from the source of a redirect, a fixed entry answers exactly the paths that start with
`/up`. -/
theorem any_accepts_fixedEntries_of_not_redirect {t : Tables} {p : HTTPPort}
    {req : ClientRequest} (hsource : p.isRedirectSource t req.path = false) :
    (p.fixedEntries t).any (·.accepts req) = Text.startsWith req.path "/up" := by
  have hup : upRoute.accepts req = Text.startsWith req.path "/up" := Bool.and_true _
  unfold fixedEntries
  rw [List.any_cons, hup]
  unfold isRedirectSource at hsource
  cases hapi : p.isApiPort with
  | false => exact Bool.or_false _
  | true =>
      rw [hapi, Bool.true_and] at hsource
      rw [if_pos rfl, List.any_map]
      refine (congrArg (Text.startsWith req.path "/up" || ·) ?_).trans (Bool.or_false _)
      rw [List.any_eq_false] at hsource ⊢
      intro entry hentry haccepts
      refine hsource entry hentry ?_
      exact (Bool.and_true _).symm.trans haccepts

/-- After the fixed entries the first match is the first matching entry of the first route that
answers. -/
theorem firstEntry_eq {t : Tables} {p : HTTPPort} {name : Option String} {req : ClientRequest}
    (hfixed : (p.fixedEntries t).any (·.accepts req) = false) :
    p.firstEntry t (some name) req =
      ((p.configuredRoutes t).find? (·.answers name req)).bind fun r =>
        ((r.getXdsRouteConfig t (some name)).find? (·.accepts req)).map fun e =>
          (some r.pk, e) := by
  unfold firstEntry ownedEntries
  have hnone : ((p.fixedEntries t).map fun e => ((none : Option ℕ), e)).find?
      (fun oe => oe.2.accepts req) = none := by
    rw [List.find?_map, Option.map_eq_none_iff]
    exact List.find?_eq_none.mpr (List.any_eq_false.mp hfixed)
  have hroutes := Priority.find?_flatMap_map_eq (fun r => r.getXdsRouteConfig t (some name))
    (fun r => some r.pk) (·.accepts req) (p.configuredRoutes t)
  simp only [Route.any_accepts_getXdsRouteConfig] at hroutes
  rw [List.find?_append, hnone, Option.none_or]
  exact hroutes

/-- A fixed entry that matches is the first match, and it comes from no route. -/
theorem firstEntry_of_fixedEntries {t : Tables} {p : HTTPPort} (gw : GatewayClusterArg)
    {req : ClientRequest} (hfixed : (p.fixedEntries t).any (·.accepts req) = true) :
    ∃ e, p.firstEntry t gw req = some (none, e) := by
  obtain ⟨e, he⟩ := Option.isSome_iff_exists.mp (List.find?_isSome.mpr
    (List.any_eq_true.mp hfixed))
  refine ⟨e, ?_⟩
  unfold firstEntry ownedEntries
  have hfind : ((p.fixedEntries t).map fun e => ((none : Option ℕ), e)).find?
      (fun oe => oe.2.accepts req) = some (none, e) := by
    rw [List.find?_map]
    exact Option.map_eq_some_iff.mpr ⟨e, he, rfl⟩
  rw [List.find?_append, hfind]
  rfl

/-- The law holds when no fixed entry matches. -/
theorem firstMatchLaw_of_fixedEntries {t : Tables} {p : HTTPPort} {name : Option String}
    {req : ClientRequest} (hmtls : ∀ r ∈ p.configuredRoutes t, r.enableMtls = false)
    (hfixed : (p.fixedEntries t).any (·.accepts req) = false) :
    p.FirstMatchLaw t (some name) req := by
  have hanswers : ∀ r ∈ p.configuredRoutes t, r.answers name req = r.matchesPath name req.path :=
    fun r hr => Route.answers_eq_matchesPath name (hmtls r hr)
  unfold FirstMatchLaw
  dsimp only
  rw [firstEntry_eq hfixed]
  cases hfirst : (p.configuredRoutes t).find? (·.answers name req) with
  | none =>
      intro r hr
      show r.matchesPath name req.path = false
      rw [← hanswers r hr]
      simpa using List.find?_eq_none.mp hfirst r hr
  | some r =>
      have hr := List.mem_of_find?_eq_some hfirst
      have hyes : r.answers name req = true :=
        List.find?_some (p := fun r : RouteInstance => r.answers name req) hfirst
      obtain ⟨e, he⟩ := Option.isSome_iff_exists.mp (List.find?_isSome.mpr (List.any_eq_true.mp
        ((Route.any_accepts_getXdsRouteConfig t r name req).trans hyes)))
      rw [Option.bind_some, he]
      refine ⟨r, hr, rfl, (hanswers r hr).symm.trans hyes, ?_, Route.find?_getXdsRouteConfig he⟩
      -- A route of smaller order would have been found first.
      intro b hb hbyes
      by_contra hlt
      have hmem := (List.mem_insertionSort _).mp hb
      have hno := Priority.eq_false_of_find?_insertionSort hfirst hmem (not_le.mp hlt)
      have hbyes' : b.answers name req = true := (hanswers b hb).trans hbyes
      rw [hno] at hbyes'
      cases hbyes'

/-- The law does not hold when a fixed entry matches. -/
theorem not_firstMatchLaw_of_fixedEntries {t : Tables} {p : HTTPPort} {gw : GatewayClusterArg}
    {req : ClientRequest} (hfixed : (p.fixedEntries t).any (·.accepts req) = true) :
    ¬p.FirstMatchLaw t gw req := by
  obtain ⟨e, he⟩ := firstEntry_of_fixedEntries gw hfixed
  unfold FirstMatchLaw
  rw [he]
  rintro ⟨r, -, howner, -⟩
  cases howner

end HTTPPort

namespace Routes

/-- On a port whose routes do not use mTLS, a path that is not the source of a redirect is
answered by the configured routes exactly when it does not start with `/up`. -/
theorem firstMatchLaw_iff {t : Tables} {p : HTTPPort} (gw : GatewayClusterArg)
    {req : ClientRequest} (hmtls : ∀ r ∈ p.configuredRoutes t, r.enableMtls = false)
    (hsource : p.isRedirectSource t req.path = false) :
    p.FirstMatchLaw t gw req ↔ Text.startsWith req.path "/up" = false := by
  have hfixed := HTTPPort.any_accepts_fixedEntries_of_not_redirect hsource
  constructor
  · intro hlaw
    by_contra hup
    rw [Bool.not_eq_false] at hup
    exact HTTPPort.not_firstMatchLaw_of_fixedEntries (hfixed.trans hup) hlaw
  · intro hup
    -- A builder without the argument looks the cluster name up.
    show p.FirstMatchLaw t (some (gw.resolve t)) req
    exact HTTPPort.firstMatchLaw_of_fixedEntries hmtls (hfixed.trans hup)

/-- The requests to the API of the controller follow the law. -/
theorem firstMatchLaw_controllerRequest :
    controllerPort.FirstMatchLaw controllerDatabase.toTables none controllerRequest := by
  have hmtls : ∀ r ∈ controllerPort.configuredRoutes controllerDatabase.toTables,
      r.enableMtls = false := by
    decide
  have hsource : controllerPort.isRedirectSource controllerDatabase.toTables
      controllerRequest.path = false := by
    decide
  exact (firstMatchLaw_iff none hmtls hsource).mpr (by decide)

/-- A payload for a custom route at `/upload/` on the API port. -/
def uploadPayload : RouteAttrs where
  name := some "upload"
  httpPort := some 1
  serviceCluster := some 1
  servicePort := some 9000
  isServiceHttps := some true
  servicePath := some "/"
  gatewayPath := some "/upload/"

/-- The custom route at `/upload/`. -/
def uploadRoute : Route ℕ :=
  { apiRoute with name := "upload", gatewayPath := "/upload/" }

/-- The controller service with the custom route at `/upload/`. -/
def uploadDatabase : Database :=
  ⟨{ websocketTables true with routes := [controllerRoute, uploadRoute] }, by decide⟩

/-- A request to the custom route. -/
def uploadRequest : ClientRequest where
  path := "/upload/file"

/-- A custom route at `/upload/` is accepted, and a request to it is answered by the entry for
`/up`. -/
theorem not_firstMatchLaw_uploadRoute :
    perform plainSerializers controllerDatabase (.createRoute .additionalRoute 2 uploadPayload) =
        .ok uploadDatabase ∧
      (∀ r ∈ controllerPort.configuredRoutes uploadDatabase.toTables, r.enableMtls = false) ∧
      controllerPort.isRedirectSource uploadDatabase.toTables uploadRequest.path = false ∧
      ¬controllerPort.FirstMatchLaw uploadDatabase.toTables none uploadRequest := by
  have hfixed : (controllerPort.fixedEntries uploadDatabase.toTables).any
      (·.accepts uploadRequest) = true := by
    decide
  exact ⟨rfl, by decide, by decide, HTTPPort.not_firstMatchLaw_of_fixedEntries hfixed⟩

end Routes

end AapGateway
