import AapGateway.Foundations.LuaPattern
import AapGateway.Xds.RouteConfig

/-!
# The Lua filter that rewrites paths

A route whose service path is not its gateway path has a Lua script at the proxy. In a response it
puts the gateway path in place of the service path, in the `Location` header and in the body; in the
body of a request it does the converse. The paths are handed to `string.gsub` as they are, as a
pattern and as a replacement.

A script that fails ends there, and the headers and the body stay as they are then.

## Main definitions

* `Response`, `Request` and `Script`;
* `envoyOnResponse` and `envoyOnRequest`: the script;
* `RewritesLiterally`: it replaces the one path by the other and changes nothing else.

## Main results

* `rewritesLiterally_of_literal`: it does for every route with literal paths.
-/

namespace AapGateway.Proxy

open Lua

/-- The bytes of a text. -/
def bytes (s : String) : List Char :=
  s.toUTF8.data.toList.map fun b => Char.ofNat b.toNat

/-- What the script sees of a response. -/
structure Response where
  status : List Char
  contentType : Option (List Char)
  location : Option (List Char)
  accelBuffering : Option (List Char)
  contentLength : Option (List Char)
  body : Option (List Char)
  deriving DecidableEq, Repr

/-- What the script sees of a request. -/
structure Request where
  upgrade : Option (List Char)
  path : List Char
  contentLength : Option (List Char)
  body : Option (List Char)
  deriving DecidableEq, Repr

/-- A script that works on a message. -/
abbrev Script (Message : Type) := EStateM PatternError Message

/-- A call of the string library. -/
def call {Message α : Type} : Except PatternError α → Script Message α
  | .ok value => pure value
  | .error err => throw err

/-- `header and string.match(header, p)`. -/
def headerMatch {Message : Type} (header : Option (List Char)) (p : List Char) :
    Script Message Bool :=
  match header with
  | none => pure false
  | some value => call (isMatch value p)

/-- `string.gsub` of a header or a body, where there is one. -/
def gsubIfAny (value : Option (List Char)) (p news : List Char) :
    Except PatternError (Option (List Char)) :=
  match value with
  | none => .ok none
  | some value => (gsub value p news).map fun result => some result.1

/-- The `content-length` after a body is set. -/
def newLength (contentLength body : Option (List Char)) : Option (List Char) :=
  match body with
  | none => contentLength
  | some body => some body.length.repr.toList

/-- The end of `envoy_on_response`: `Location` and the body are rewritten. -/
def rewriteResponse (pathPrefix prefixRewrite : List Char) : Script Response Unit := do
  let response ← get
  let location ← call (gsubIfAny response.location pathPrefix prefixRewrite)
  modify fun response => { response with location := location }
  let body ← call (gsubIfAny response.body pathPrefix prefixRewrite)
  modify fun response =>
    { response with body := body, contentLength := newLength response.contentLength body }

/-- `envoy_on_response`, with the metadata of the route. -/
def envoyOnResponse (metadata : String × String) : Script Response Unit := do
  let response ← get
  -- Upgrade responses and event streams are left alone.
  if response.status = "101".toList then return ()
  else if ← headerMatch response.contentType "text/event%-stream".toList then
    set { response with accelBuffering := some "no".toList }
  else if ← headerMatch response.location "__gateway_no_rewrite__=1".toList then return ()
  else rewriteResponse (bytes metadata.2) (bytes metadata.1)

/-- The new `:path` of a request: the gateway path is replaced behind a `=`, and so it is where it
is encoded. The number of slashes in the replacement is handed to the last `gsub` too, as the number
of replacements to make. -/
def rewritePath (pathPrefix prefixRewrite path : List Char) : Except PatternError (List Char) := do
  let (escapedRewrite, _) ← gsub prefixRewrite "%-".toList "%%-".toList
  let (escapedPrefix, _) ← gsub pathPrefix "%-".toList "%%-".toList
  let pattern := "%=".toList ++ escapedRewrite
  let replace := "%=".toList ++ escapedPrefix
  let (newPath, _) ← gsub path pattern replace
  -- `gsub` returns two values, and as the last argument of a call both are passed on.
  let (encodedPattern, _) ← gsub pattern "/".toList "%%%%2F".toList
  let (encodedReplace, count) ← gsub replace "/".toList "%%%%2F".toList
  let (newPath, _) ← gsubUpTo count newPath encodedPattern encodedReplace
  return newPath

/-- `envoy_on_request`, with the metadata of the route. -/
def envoyOnRequest (metadata : String × String) : Script Request Unit := do
  let request ← get
  if request.upgrade.isSome then return ()
  else
    if ← call (isMatch request.path "=".toList) then
      let newPath ← call (rewritePath (bytes metadata.2) (bytes metadata.1) request.path)
      set { request with path := newPath }
    let body ← call (gsubIfAny request.body (bytes metadata.1) (bytes metadata.2))
    modify fun request =>
      { request with body := body, contentLength := newLength request.contentLength body }

/-! ## What it is for -/

/-- A response that is to be rewritten: it is no upgrade and no event stream, and its `Location`
does not have the marker. -/
structure Response.IsRewritten (response : Response) : Prop where
  not_upgrade : response.status ≠ "101".toList
  not_eventStream : ∀ value ∈ response.contentType, ¬"text/event-stream".toList <:+: value
  not_marked : ∀ value ∈ response.location, ¬"__gateway_no_rewrite__=1".toList <:+: value

/-- A response with one text in place of another. -/
def Response.replace (response : Response) (old new : List Char) : Response :=
  let body := response.body.map (Text.replaceFrom old new 0)
  { response with
    location := response.location.map (Text.replaceFrom old new 0)
    body := body
    contentLength := newLength response.contentLength body }

/-- A request with one text in place of another in its body, and with some path. -/
def Request.replace (request : Request) (path old new : List Char) : Request :=
  let body := request.body.map (Text.replaceFrom old new 0)
  { request with path := path, body := body, contentLength := newLength request.contentLength body }

/-- The script of a route puts the gateway path in place of the service path in responses, and the
service path in place of the gateway path in the bodies of requests, and changes nothing else of
them. -/
def RewritesLiterally (p : Preferences) (r : RouteInstance) : Prop :=
  ∃ metadata, (r.mainEntry p).luaMetadata = some metadata ∧
    (∀ response : Response, response.IsRewritten →
      (envoyOnResponse metadata).run response =
        .ok () (response.replace (bytes r.servicePath) (bytes r.gatewayPath))) ∧
    ∀ request : Request, request.upgrade = none → ∃ path,
      (envoyOnRequest metadata).run request =
        .ok () (request.replace path (bytes r.gatewayPath) (bytes r.servicePath))

section Literal

variable {service gateway : List Char}

/-- A header is searched for a text. -/
theorem headerMatch_of_spells {Message : Type} {header : Option (List Char)} {p text : List Char}
    (hp : Spells p text) (hzero : '\x00' ∉ p) (hanchor : p.head? ≠ some '^')
    (hheader : ∀ value ∈ header, ¬text <:+: value) (m : Message) :
    (headerMatch header p).run m = .ok false m := by
  cases header with
  | none => rfl
  | some value =>
      rw [headerMatch, isMatch_of_spells hp hzero hanchor, decide_eq_false (hheader value rfl)]
      rfl

/-- Literal paths replace one another. -/
theorem gsubIfAny_of_literal (hservice : Literal service) (hgateway : Literal gateway)
    (value : Option (List Char)) :
    gsubIfAny value service gateway =
      .ok (value.map (Text.replaceFrom service gateway 0)) := by
  cases value with
  | none => rfl
  | some value =>
      rw [gsubIfAny, hservice.gsub_eq hgateway]
      rfl

/-- With literal paths the response is rewritten text by text. -/
theorem run_rewriteResponse (hservice : Literal service) (hgateway : Literal gateway)
    (response : Response) :
    (rewriteResponse service gateway).run response =
      .ok () (response.replace service gateway) := by
  unfold rewriteResponse
  simp only [gsubIfAny_of_literal hservice hgateway, call]
  rfl

/-! ### The path of a request -/

/-- A character of a path with its dash escaped. -/
def escapeDash (c : Char) : List Char :=
  if c = '-' then "%-".toList else [c]

/-- A character of a pattern with its slash encoded. -/
def encodeSlash (c : Char) : List Char :=
  if c = '/' then "%%2F".toList else [c]

/-- The dashes of a text are escaped. -/
theorem gsub_dash (text : List Char) :
    gsub text "%-".toList "%%-".toList = .ok (text.flatMap escapeDash, text.count '-') := by
  have hpattern : Spells "%-".toList ['-'] := .escaped (by decide) (by simp) .nil
  have hnews : Template "%%-".toList "%-".toList :=
    .escaped (by decide) (.char (by decide) .nil)
  rw [gsub_of_spells hpattern (by simp) (by decide) (by decide) hnews, Text.replaceFrom_singleton,
    Text.countFrom_singleton]
  rfl

/-- The slashes of a text are encoded, and counted. -/
theorem gsub_slash (text : List Char) :
    gsub text "/".toList "%%%%2F".toList = .ok (text.flatMap encodeSlash, text.count '/') := by
  have hpattern : Spells "/".toList ['/'] := .char (by decide) (by decide) (by simp) .nil
  have hnews : Template "%%%%2F".toList "%%2F".toList :=
    .escaped (by decide) (.escaped (by decide) (.char (by decide) (.char (by decide) .nil)))
  rw [gsub_of_spells hpattern (by simp) (by decide) (by decide) hnews, Text.replaceFrom_singleton,
    Text.countFrom_singleton]
  rfl

/-- A character of a literal text, escaped and possibly encoded. -/
theorem escaped_cases {text : List Char} (h : Literal text) {c : Char} (hc : c ∈ text) :
    (∀ piece ∈ [escapeDash c, (escapeDash c).flatMap encodeSlash],
      Tame piece ∧ (∃ new, Template piece new) ∧ '\x00' ∉ piece) := by
  have hplain := h.plain c hc
  simp only [List.mem_cons, List.not_mem_nil, or_false, not_or] at hplain
  have hself : Tame [c] ∧ (∃ new, Template [c] new) ∧ '\x00' ∉ [c] :=
    ⟨.char (by simp [hplain]) .nil, ⟨_, .char hplain.2.2.2.1 .nil⟩, by simp [Ne.symm hplain.1]⟩
  -- A dash is escaped, a slash may be encoded, and any other character stays.
  by_cases hdash : c = '-'
  · subst hdash
    have hpiece : Tame "%-".toList ∧ (∃ new, Template "%-".toList new) ∧ '\x00' ∉ "%-".toList :=
      ⟨.escaped (by decide) .nil, ⟨_, .escaped (by decide) .nil⟩, by decide⟩
    exact List.forall_mem_cons.mpr ⟨hpiece, List.forall_mem_singleton.mpr hpiece⟩
  · rw [escapeDash, if_neg hdash, List.flatMap_singleton, encodeSlash]
    refine List.forall_mem_cons.mpr ⟨hself, List.forall_mem_singleton.mpr ?_⟩
    split
    · exact ⟨.escaped (by decide) (.char (by decide) (.char (by decide) .nil)),
        ⟨_, .escaped (by decide) (.char (by decide) (.char (by decide) .nil))⟩, by decide⟩
    · exact hself

/-- What is put together of such pieces behind a `=`. -/
theorem of_pieces {text : List Char} {f : Char → List Char}
    (h : ∀ c ∈ text, Tame (f c) ∧ (∃ new, Template (f c) new) ∧ '\x00' ∉ f c) :
    Tame ("%=".toList ++ text.flatMap f) ∧ (∃ new, Template ("%=".toList ++ text.flatMap f) new) ∧
      '\x00' ∉ "%=".toList ++ text.flatMap f := by
  refine ⟨.escaped (by decide) (Tame.flatMap fun c hc => (h c hc).1), ?_, ?_⟩
  · obtain ⟨new, hnew⟩ := exists_template_flatMap fun c hc => (h c hc).2.1
    exact ⟨_, .escaped (by decide) hnew⟩
  · rw [List.mem_append, not_or, List.mem_flatMap]
    exact ⟨by decide, fun ⟨c, hc, hzero⟩ => (h c hc).2.2 hzero⟩

/-- With literal paths the path of a request is rewritten somehow: the script does not fail. -/
theorem exists_rewritePath (hservice : Literal service) (hgateway : Literal gateway)
    (path : List Char) : ∃ newPath, rewritePath service gateway path = .ok newPath := by
  have hescaped : ∀ {text : List Char}, Literal text → ∀ c ∈ text, Tame (escapeDash c) ∧
      (∃ new, Template (escapeDash c) new) ∧ '\x00' ∉ escapeDash c :=
    fun h c hc => escaped_cases h hc _ (by simp)
  have hencoded : ∀ {text : List Char}, Literal text → ∀ c ∈ text,
      Tame ((escapeDash c).flatMap encodeSlash) ∧
        (∃ new, Template ((escapeDash c).flatMap encodeSlash) new) ∧
        '\x00' ∉ (escapeDash c).flatMap encodeSlash :=
    fun h c hc => escaped_cases h hc _ (by simp)
  have hanchor : ∀ rest : List Char, ("%=".toList ++ rest).head? ≠ some '^' := fun rest =>
    show some '%' ≠ some '^' by decide
  have hencode : ∀ text : List Char,
      ("%=".toList ++ text.flatMap escapeDash).flatMap encodeSlash =
        "%=".toList ++ text.flatMap fun c => (escapeDash c).flatMap encodeSlash := by
    intro text
    rw [List.flatMap_append, List.flatMap_assoc]
    rfl
  have hrewrite := gsub_dash gateway
  have hprefix := gsub_dash service
  -- The plain search: the gateway path is the pattern, and the service path the replacement.
  obtain ⟨hpattern, -, hpatternZero⟩ := of_pieces (hescaped hgateway)
  obtain ⟨-, ⟨new, hnews⟩, -⟩ := of_pieces (hescaped hservice)
  obtain ⟨first, hfirst⟩ : ∃ first, gsub path ("%=".toList ++ gateway.flatMap escapeDash)
      ("%=".toList ++ service.flatMap escapeDash) = .ok first :=
    exists_gsub_of_tame hpattern hpatternZero (hanchor _) hnews _
  -- The encoded search works on what the plain one has left.
  have hpatternEncoded := gsub_slash ("%=".toList ++ gateway.flatMap escapeDash)
  have hreplaceEncoded := gsub_slash ("%=".toList ++ service.flatMap escapeDash)
  rw [hencode] at hpatternEncoded hreplaceEncoded
  obtain ⟨hencodedPattern, -, hencodedZero⟩ := of_pieces (hencoded hgateway)
  obtain ⟨-, ⟨new', hencodedNews⟩, -⟩ := of_pieces (hencoded hservice)
  obtain ⟨second, hsecond⟩ : ∃ second,
      gsubUpTo (("%=".toList ++ service.flatMap escapeDash).count '/') first.1 _ _ = .ok second :=
    exists_gsub_of_tame hencodedPattern hencodedZero (hanchor _) hencodedNews _
  refine ⟨second.1, ?_⟩
  simp only [rewritePath, hrewrite, hprefix, hfirst, hpatternEncoded, hreplaceEncoded, hsecond,
    bind, Except.bind]
  rfl

/-! ### The script -/

/-- The pattern of event streams. -/
theorem spells_eventStream : Spells "text/event%-stream".toList "text/event-stream".toList := by
  have hfirst : Literal "text/event".toList := by decide
  have hlast : Literal "stream".toList := by decide
  rw [show "text/event%-stream".toList = "text/event".toList ++ '%' :: '-' :: "stream".toList by
      decide, show "text/event-stream".toList =
        "text/event".toList ++ '-' :: "stream".toList by decide]
  have hdash : Spells ('%' :: '-' :: "stream".toList) ('-' :: "stream".toList) :=
    .escaped (by decide) (by simp [quantifiers]) hlast.spells
  exact hfirst.spells.append hdash (by simp [quantifiers])

/-- The pattern of the marker. -/
theorem literal_marker : Literal "__gateway_no_rewrite__=1".toList := by decide

/-- With literal paths, the script of responses. -/
theorem run_envoyOnResponse {metadata : String × String} (hgateway : Literal (bytes metadata.1))
    (hservice : Literal (bytes metadata.2)) {response : Response} (h : response.IsRewritten) :
    (envoyOnResponse metadata).run response =
      .ok () (response.replace (bytes metadata.2) (bytes metadata.1)) := by
  have hctype := headerMatch_of_spells spells_eventStream (by decide) (by decide)
    h.not_eventStream response
  have hmarker := headerMatch_of_spells literal_marker.spells (by decide) (by decide)
    h.not_marked response
  unfold envoyOnResponse
  simp only [EStateM.run_bind, EStateM.run_get, if_neg h.not_upgrade, hctype, hmarker,
    Bool.false_eq_true, if_false]
  exact run_rewriteResponse hservice hgateway response

/-- With literal paths, the script of requests. -/
theorem run_envoyOnRequest {metadata : String × String} (hgateway : Literal (bytes metadata.1))
    (hservice : Literal (bytes metadata.2)) {request : Request} (h : request.upgrade = none) :
    ∃ path, (envoyOnRequest metadata).run request =
      .ok () (request.replace path (bytes metadata.1) (bytes metadata.2)) := by
  have hequals : Literal "=".toList := by decide
  obtain ⟨upgrade, path, contentLength, body⟩ := request
  obtain rfl : upgrade = none := h
  obtain ⟨newPath, hnewPath⟩ := exists_rewritePath hservice hgateway path
  refine ⟨if decide ("=".toList <:+: path) then newPath else path, ?_⟩
  unfold envoyOnRequest
  simp only [EStateM.run_bind, EStateM.run_get, Option.isSome_none, Bool.false_eq_true, if_false,
    isMatch_of_spells hequals.spells (by decide) (by decide), hnewPath,
    gsubIfAny_of_literal hgateway hservice, call]
  -- The path is rewritten if there is a `=` in it.
  generalize decide ("=".toList <:+: path) = found
  cases found
  · rfl
  · rfl

end Literal

/-- The script of a route whose paths are literal and not the same rewrites literally. -/
theorem rewritesLiterally_of_literal {p : Preferences} {r : RouteInstance}
    (hne : r.servicePath ≠ r.gatewayPath) (hservice : Literal (bytes r.servicePath))
    (hgateway : Literal (bytes r.gatewayPath)) : RewritesLiterally p r :=
  ⟨(r.gatewayPath, r.servicePath), if_neg hne,
    fun _ h => run_envoyOnResponse hgateway hservice h,
    fun _ h => run_envoyOnRequest hgateway hservice h⟩

/-! ## A path with a dash -/

/-- A route of the hub to a path of its service. -/
def hubRoute (servicePath : String) : RouteInstance where
  pk := 5
  name := "hub api"
  httpPort := 1
  serviceCluster :=
    { pk := 3, name := "hub", serviceId := none
      serviceType := ⟨2, "hub", none, none, none, none⟩ }
  servicePort := 24817
  isServiceHttps := false
  servicePath := servicePath
  gatewayPath := "/api/hub/"
  envoyClusterName := "cluster-3-24817-nodes:*"

/-- Paths of letters and slashes are literal. -/
theorem rewritesLiterally_galaxy : RewritesLiterally {} (hubRoute "/galaxy/") :=
  rewritesLiterally_of_literal (by decide) (by decide) (by decide)

/-- A page of the hub with one link. -/
def hubPage (link : String) : Response where
  status := "200".toList
  contentType := some "application/json".toList
  location := none
  accelBuffering := none
  contentLength := some "2".toList
  body := some (bytes link)

/-- A service path with a dash is a pattern that does not match it, and its links are left as they
are. -/
theorem not_rewritesLiterally_dash :
    (envoyOnResponse ("/api/hub/", "/galaxy-ng/")).run (hubPage "/galaxy-ng/v3/") =
        .ok () { hubPage "/galaxy-ng/v3/" with contentLength := some "14".toList } ∧
      ¬RewritesLiterally {} (hubRoute "/galaxy-ng/") := by
  have hrun : (envoyOnResponse ("/api/hub/", "/galaxy-ng/")).run (hubPage "/galaxy-ng/v3/") =
      .ok () { hubPage "/galaxy-ng/v3/" with contentLength := some "14".toList } := rfl
  refine ⟨hrun, ?_⟩
  rintro ⟨metadata, hmetadata, hresponse, -⟩
  obtain rfl : ("/api/hub/", "/galaxy-ng/") = metadata := Option.some.inj hmetadata
  have hreplaced := hresponse (hubPage "/galaxy-ng/v3/")
    ⟨by decide, fun value hvalue => by cases hvalue; decide, fun value hvalue => by cases hvalue⟩
  rw [hrun] at hreplaced
  -- The link in the body is still that of the service.
  have hbody := congrArg Response.body (EStateM.Result.ok.inj hreplaced).2
  exact absurd hbody (by decide)

end AapGateway.Proxy
