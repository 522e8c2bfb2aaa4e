import AapGateway.Proxy.PathRewrite

/-!
# Paths in the query of a request

The script puts the service path in place of the gateway path where it is the value of a parameter
in the path of a request, behind a `=`, written as it is or with every slash encoded. It looks for
the plain spelling first. When it looks for the encoded one, the number of slashes in the service
path is handed to `string.gsub` along with the replacement, and is the number of replacements to
make.

## Main definitions

* `DashOnly`: paths in which `-` is the only character that means something in a pattern;
* `rewriteQuery`: the path with every occurrence replaced, in its own spelling;
* `RewritesQuery`: the script rewrites the path of a request so;
* `QueryFits`: the encoded occurrences are at most as many as the slashes of the service path, and
  no occurrence gets in the way of another one.

## Main results

* `rewritePath_of_dashOnly`: what the script makes of the path;
* `rewritesQuery_of_queryFits`: it rewrites the paths that fit, and no others if the two paths are
  without `=`.
-/

namespace AapGateway.Proxy

open Lua Text

/-- The characters that mean something in a pattern, but for the dash. -/
def magicCharacters : List Char := ['^', '$', '(', ')', '%', '.', '[', ']', '*', '+', '?']

/-- A path in which the dash is the only character that means something in a pattern. A zero, which
ends a pattern, is in no path. -/
def DashOnly (path : List Char) : Prop :=
  ∀ c ∈ path, c ∉ '\x00' :: magicCharacters

instance (path : List Char) : Decidable (DashOnly path) :=
  decidable_of_iff (path.all (fun c => decide (c ∉ '\x00' :: magicCharacters)) = true)
    (by simp only [List.all_eq_true, decide_eq_true_eq, DashOnly])

/-- A path with its slashes encoded. -/
def encodeSlashes (path : List Char) : List Char :=
  path.flatMap fun c => if c = '/' then "%2F".toList else [c]

/-- The path of a request, cut at the occurrences of the gateway path behind a `=`: the plain ones
are the first pieces, the encoded ones are the second pieces. -/
def queryPieces (gateway path : List Char) : List Piece :=
  cut ('=' :: gateway) ('=' :: encodeSlashes gateway) 0 path

/-- The path of a request with the service path in every such place, in the same spelling. -/
def rewriteQuery (gateway service path : List Char) : List Char :=
  write ('=' :: service) ('=' :: encodeSlashes service) (queryPieces gateway path)

/-- The script rewrites the path of a request so, unless it is an upgrade request. -/
def RewritesQuery (metadata : String × String) (request : Request) : Prop :=
  request.upgrade = none → ∃ after, (envoyOnRequest metadata).run request = .ok () after ∧
    after.path = rewriteQuery (bytes metadata.1) (bytes metadata.2) request.path

/-- The path of a request fits two paths. -/
structure PathFits (gateway service path : List Char) : Prop where
  /-- There are no more encoded occurrences than slashes in the service path. -/
  encoded_le : (queryPieces gateway path).count .second ≤ service.count '/'
  /-- No plain occurrence begins inside an encoded one. -/
  sourcesApart : SourcesApart ('=' :: gateway) ('=' :: encodeSlashes gateway)
    (queryPieces gateway path)
  /-- Replacing the plain ones makes no encoded one, if any of these is replaced at all. -/
  targetsApart : '/' ∉ service ∨ TargetsApart ('=' :: service) ('=' :: encodeSlashes gateway)
    (queryPieces gateway path)

/-- A request is no upgrade, and its path fits the two paths of the route or these are the same. -/
def QueryFits (metadata : String × String) (request : Request) : Prop :=
  request.upgrade = none → bytes metadata.1 = bytes metadata.2 ∨
    PathFits (bytes metadata.1) (bytes metadata.2) request.path

section DashOnly

variable {gateway service path : List Char}

theorem DashOnly.notMem (h : DashOnly path) {c : Char} (hc : c ∈ '\x00' :: magicCharacters) :
    c ∉ path := fun hmem => h c hmem hc

/-- A character of such a path with its dash escaped, and with its slash encoded. -/
theorem escaped_of_dashOnly (h : DashOnly path) {c : Char} (hc : c ∈ path) :
    (Spells (escapeDash c) [c] ∧ ∀ q ∈ (escapeDash c).head?, q ∉ quantifiers) ∧
      Template (escapeDash c) [c] := by
  have hpercent : ∀ q ∈ some '%', q ∉ quantifiers := by simp [quantifiers]
  by_cases hdash : c = '-'
  · -- The dash becomes `%-`, which is an escaped character.
    rw [hdash]
    exact ⟨⟨.escaped (by decide) (by simp) .nil, hpercent⟩, .escaped (by decide) .nil⟩
  · have hplain := h c hc
    simp only [magicCharacters, List.mem_cons, List.not_mem_nil, or_false, not_or] at hplain
    rw [escapeDash, if_neg hdash]
    refine ⟨⟨.char (by simp [hplain]) (fun hdollar => absurd hdollar (by simp [hplain])) (by simp)
      .nil, ?_⟩, .char (by simp [hplain]) .nil⟩
    simp [quantifiers, hplain, hdash]

theorem encoded_of_dashOnly (h : DashOnly path) {c : Char} (hc : c ∈ path) :
    (Spells ((escapeDash c).flatMap encodeSlash) (if c = '/' then "%2F".toList else [c]) ∧
        ∀ q ∈ ((escapeDash c).flatMap encodeSlash).head?, q ∉ quantifiers) ∧
      Template ((escapeDash c).flatMap encodeSlash) (if c = '/' then "%2F".toList else [c]) := by
  have hpercent : ∀ q ∈ some '%', q ∉ quantifiers := by simp [quantifiers]
  have hdigit : ∀ q ∈ some '2', q ∉ quantifiers := by simp [quantifiers]
  have hletter : ∀ q ∈ some 'F', q ∉ quantifiers := by simp [quantifiers]
  by_cases hslash : c = '/'
  · -- A slash is no dash, and it is written `%%2F`.
    rw [if_pos hslash, hslash]
    refine ⟨⟨.escaped (by decide) hdigit ?_, hpercent⟩, .escaped (by decide) ?_⟩
    · exact .char (by decide) (by decide) hletter (.char (by decide) (by decide) (by simp) .nil)
    · exact .char (by decide) (.char (by decide) .nil)
  · -- Neither another character nor what its dash is escaped with is a slash.
    rw [if_neg hslash]
    have hself : (escapeDash c).flatMap encodeSlash = escapeDash c := by
      unfold escapeDash
      split
      · rfl
      · rw [List.flatMap_singleton, encodeSlash, if_neg hslash]
    rw [hself]
    exact escaped_of_dashOnly h hc

/-- The plain pattern spells the gateway path behind a `=`, and so it is with the replacement. -/
theorem plain_of_dashOnly (h : DashOnly path) :
    Spells ("%=".toList ++ path.flatMap escapeDash) ('=' :: path) ∧
      Template ("%=".toList ++ path.flatMap escapeDash) ('=' :: path) := by
  have hspells := Spells.flatMap fun c hc => (escaped_of_dashOnly h hc).1
  have htemplate := Template.flatMap fun c hc => (escaped_of_dashOnly h hc).2
  rw [List.flatMap_singleton'] at hspells htemplate
  exact ⟨.escaped (by decide) hspells.2 hspells.1, .escaped (by decide) htemplate⟩

/-- The encoded pattern spells the encoded gateway path. -/
theorem encodedPlain_of_dashOnly (h : DashOnly path) :
    Spells (("%=".toList ++ path.flatMap escapeDash).flatMap encodeSlash)
        ('=' :: encodeSlashes path) ∧
      Template (("%=".toList ++ path.flatMap escapeDash).flatMap encodeSlash)
        ('=' :: encodeSlashes path) := by
  have hspells := Spells.flatMap fun c hc => (encoded_of_dashOnly h hc).1
  have htemplate := Template.flatMap fun c hc => (encoded_of_dashOnly h hc).2
  rw [List.flatMap_append, List.flatMap_assoc]
  exact ⟨.escaped (by decide) hspells.2 hspells.1, .escaped (by decide) htemplate⟩

/-- No pattern has a zero in it. -/
theorem zero_notMem_of_dashOnly (h : DashOnly path) :
    '\x00' ∉ "%=".toList ++ path.flatMap escapeDash ∧
      '\x00' ∉ ("%=".toList ++ path.flatMap escapeDash).flatMap encodeSlash := by
  have hplain : '\x00' ∉ "%=".toList ++ path.flatMap escapeDash := by
    rw [List.mem_append, not_or, List.mem_flatMap]
    refine ⟨by decide, fun ⟨c, hc, hzero⟩ => ?_⟩
    have hne : '\x00' ≠ c := fun heq => h c hc (heq ▸ List.mem_cons_self)
    unfold escapeDash at hzero
    split at hzero
    · exact absurd hzero (by decide)
    · exact hne (List.mem_singleton.mp hzero)
  refine ⟨hplain, ?_⟩
  rw [List.mem_flatMap]
  rintro ⟨c, hc, hzero⟩
  unfold encodeSlash at hzero
  split at hzero
  · exact absurd hzero (by decide)
  · exact hplain (List.mem_singleton.mp hzero ▸ hc)

/-- Escaping the dashes leaves the slashes. -/
theorem count_escapeDash (path : List Char) :
    (path.flatMap escapeDash).count '/' = path.count '/' := by
  induction path with
  | nil => rfl
  | cons c path ih =>
      rw [List.flatMap_cons, List.count_append, ih, List.count_cons]
      unfold escapeDash
      split
      · next hdash =>
          rw [hdash]
          exact Nat.add_comm _ _
      · rw [List.count_singleton, Nat.add_comm]

/-- What the script makes of the path: the plain occurrences are replaced, and then as many of the
encoded ones as there are slashes in the service path. -/
def afterScript (gateway service path : List Char) : List Char :=
  replaceUpTo ('=' :: encodeSlashes gateway) ('=' :: encodeSlashes service) (service.count '/') 0
    (replaceFrom ('=' :: gateway) ('=' :: service) 0 path)

theorem rewritePath_of_dashOnly (hgateway : DashOnly gateway) (hservice : DashOnly service)
    (path : List Char) :
    rewritePath service gateway path = .ok (afterScript gateway service path) := by
  obtain ⟨hpattern, -⟩ := plain_of_dashOnly hgateway
  obtain ⟨-, hreplace⟩ := plain_of_dashOnly hservice
  obtain ⟨hencodedPattern, -⟩ := encodedPlain_of_dashOnly hgateway
  obtain ⟨-, hencodedReplace⟩ := encodedPlain_of_dashOnly hservice
  have hzero := zero_notMem_of_dashOnly hgateway
  have hanchor : some '%' ≠ some '^' := by decide
  have hfirst : gsub path ("%=".toList ++ gateway.flatMap escapeDash)
      ("%=".toList ++ service.flatMap escapeDash) =
        .ok (replaceFrom ('=' :: gateway) ('=' :: service) 0 path, _) :=
    gsub_of_spells hpattern (List.cons_ne_nil _ _) hzero.1 hanchor hreplace
  have hsecond : ∀ src maxS, gsubUpTo maxS src
      (("%=".toList ++ gateway.flatMap escapeDash).flatMap encodeSlash)
      (("%=".toList ++ service.flatMap escapeDash).flatMap encodeSlash) =
        .ok (replaceUpTo ('=' :: encodeSlashes gateway) ('=' :: encodeSlashes service)
          maxS 0 src, _) :=
    fun src => gsubUpTo_of_spells hencodedPattern (List.cons_ne_nil _ _) hzero.2 hanchor
      hencodedReplace
  -- The slashes that are counted are those of the service path.
  have hcount : ("%=".toList ++ service.flatMap escapeDash).count '/' = service.count '/' := by
    rw [List.count_append, count_escapeDash]
    exact Nat.zero_add _
  simp only [rewritePath, gsub_dash, hfirst, gsub_slash, hsecond, hcount, bind, Except.bind]
  rfl

/-- Such a path never fails as a pattern. -/
theorem tame_of_dashOnly (h : DashOnly path) : Tame path := by
  induction path with
  | nil => exact .nil
  | cons c path ih =>
      have hplain := h c List.mem_cons_self
      simp only [magicCharacters, List.mem_cons, List.not_mem_nil, or_false, not_or] at hplain
      exact .char (by simp [hplain]) (ih fun d hd => h d (List.mem_cons_of_mem c hd))

/-- The body of a request is rewritten somehow. -/
theorem exists_gsubIfAny (hgateway : DashOnly gateway) (hservice : DashOnly service)
    (body : Option (List Char)) : ∃ newBody, gsubIfAny body gateway service = .ok newBody := by
  cases body with
  | none => exact ⟨none, rfl⟩
  | some body =>
      have hanchor : gateway.head? ≠ some '^' := fun hhead =>
        hgateway.notMem (by decide) (List.mem_of_mem_head? hhead)
      obtain ⟨res, hres⟩ : ∃ res, gsub body gateway service = .ok res :=
        exists_gsub_of_tame (tame_of_dashOnly hgateway) (hgateway.notMem (by decide)) hanchor
          (Literal.template_self (hservice.notMem (by decide))) _
      exact ⟨some res.1, by rw [gsubIfAny, hres]; rfl⟩

/-- A path without `=` is not rewritten, and there is nothing to rewrite in it. -/
theorem afterScript_of_notMem (h : '=' ∉ path) : afterScript gateway service path = path := by
  rw [afterScript, replaceFrom_eq_self h, replaceUpTo_eq_self_of_notMem h]

/-- The script of a request that is no upgrade. -/
theorem exists_run_envoyOnRequest {metadata : String × String} {request : Request}
    (hgateway : DashOnly (bytes metadata.1)) (hservice : DashOnly (bytes metadata.2))
    (h : request.upgrade = none) :
    ∃ after, (envoyOnRequest metadata).run request = .ok () after ∧
      after.path = afterScript (bytes metadata.1) (bytes metadata.2) request.path := by
  have hequals : Literal "=".toList := by decide
  obtain ⟨upgrade, path, contentLength, body⟩ := request
  obtain rfl : upgrade = none := h
  obtain ⟨newBody, hbody⟩ := exists_gsubIfAny hgateway hservice body
  -- The body and its length are rewritten as well, whatever becomes of the path.
  refine ⟨⟨none, afterScript (bytes metadata.1) (bytes metadata.2) path,
    newLength contentLength newBody, newBody⟩, ?_, rfl⟩
  unfold envoyOnRequest
  simp only [EStateM.run_bind, EStateM.run_get, Option.isSome_none, Bool.false_eq_true, if_false,
    isMatch_of_spells hequals.spells (by decide) (by decide),
    rewritePath_of_dashOnly hgateway hservice, hbody, call]
  by_cases hfound : "=".toList <:+: path
  · rw [decide_eq_true hfound]
    rfl
  · -- Without a `=` the header is not touched.
    have hnotMem : '=' ∉ path := fun hmem => hfound ((List.singleton_infix_iff _ _).mpr hmem)
    rw [decide_eq_false hfound, afterScript_of_notMem hnotMem]
    rfl

/-! ### Which paths fit -/

/-- A path without `%` can be read back from its encoded spelling. -/
theorem replaceFrom_encodeSlashes (h : '%' ∉ path) :
    replaceFrom "%2F".toList ['/'] 0 (encodeSlashes path) = path := by
  induction path with
  | nil => rfl
  | cons c path ih =>
      rw [List.mem_cons, not_or] at h
      unfold encodeSlashes at ih ⊢
      rw [List.flatMap_cons]
      by_cases hslash : c = '/'
      · rw [if_pos hslash, replaceFrom_append (by decide), ih h.2, hslash]
        rfl
      · -- Only an encoded slash brings a `%` with it.
        have hnone : ∀ rest, ¬"%2F".toList <+: c :: rest := fun rest hprefix =>
          h.1 (List.cons_prefix_cons.mp hprefix).1
        rw [if_neg hslash, List.singleton_append, replaceFrom_cons (hnone _), ih h.2]

/-- A path without slashes has one spelling. -/
theorem encodeSlashes_eq_self (h : '/' ∉ path) : encodeSlashes path = path := by
  unfold encodeSlashes
  conv_rhs => rw [← List.flatMap_singleton' path]
  refine List.flatMap_congr fun c hc => if_neg ?_
  rintro rfl
  exact h hc

/-- The encoded spelling has no slash, a `%` for every slash, and no new `=`. -/
theorem slash_notMem_encodeSlashes (path : List Char) : '/' ∉ encodeSlashes path := by
  unfold encodeSlashes
  rw [List.mem_flatMap]
  rintro ⟨c, -, hc⟩
  split at hc
  · exact absurd hc (by decide)
  · next hslash => exact hslash (List.mem_singleton.mp hc).symm

theorem percent_mem_encodeSlashes (h : '/' ∈ path) : '%' ∈ encodeSlashes path :=
  List.mem_flatMap.mpr ⟨'/', h, by decide⟩

theorem equals_notMem_encodeSlashes (h : '=' ∉ path) : '=' ∉ encodeSlashes path := by
  unfold encodeSlashes
  rw [List.mem_flatMap]
  rintro ⟨c, hmem, hc⟩
  split at hc
  · exact absurd hc (by decide)
  · exact h (List.mem_singleton.mp hc ▸ hmem)

/-- An encoded path with slashes in it begins no text that begins with a path with slashes. -/
theorem not_encodeSlashes_prefix (hgateway : '/' ∈ gateway) (hservice : '/' ∈ service)
    (hpercent : '%' ∉ service) (rest : List Char) : ¬encodeSlashes gateway <+: service ++ rest := by
  intro hprefix
  -- One of the two would begin the other, but only one has a `%` and only one has a slash.
  rcases List.prefix_or_prefix_of_prefix hprefix (List.prefix_append service rest) with h | h
  · exact hpercent (h.subset (percent_mem_encodeSlashes hgateway))
  · exact slash_notMem_encodeSlashes gateway (h.subset hservice)

/-- Where the path fits, every occurrence is replaced in its own spelling, and where the occurrences
stay apart without being few enough, they are not. -/
theorem afterScript_eq_iff (hgateway : DashOnly gateway) (hservice : DashOnly service)
    (hne : gateway ≠ service)
    (hsources : SourcesApart ('=' :: gateway) ('=' :: encodeSlashes gateway)
      (queryPieces gateway path))
    (htargets : '/' ∉ service ∨ TargetsApart ('=' :: service) ('=' :: encodeSlashes gateway)
      (queryPieces gateway path)) :
    afterScript gateway service path = rewriteQuery gateway service path ↔
      (queryPieces gateway path).count .second ≤ service.count '/' := by
  -- Different paths have different encoded spellings, since these can be read back.
  have hspellings : '=' :: encodeSlashes gateway ≠ '=' :: encodeSlashes service := by
    intro heq
    have hread := congrArg (replaceFrom "%2F".toList ['/'] 0) (List.cons.inj heq).2
    rw [replaceFrom_encodeSlashes (hgateway.notMem (by decide)),
      replaceFrom_encodeSlashes (hservice.notMem (by decide))] at hread
    exact hne hread
  exact replaceUpTo_replaceFrom_iff (List.cons_ne_nil _ _)
    (List.cons_ne_nil _ _) hspellings hsources
    (htargets.imp_left List.count_eq_zero.mpr)

/-- Paths without `=`: the occurrences of a gateway path with a slash stay apart. -/
theorem apart_of_slash (hequals : '=' ∉ gateway) (hequals' : '=' ∉ service) (hslash : '/' ∈ gateway)
    (hservice : DashOnly service) (path : List Char) :
    SourcesApart ('=' :: gateway) ('=' :: encodeSlashes gateway) (queryPieces gateway path) ∧
      ('/' ∉ service ∨ TargetsApart ('=' :: service) ('=' :: encodeSlashes gateway)
        (queryPieces gateway path)) := by
  have hencoded := equals_notMem_encodeSlashes hequals
  refine ⟨sourcesApart_of_marked hencoded path, ?_⟩
  by_cases hslash' : '/' ∈ service
  · refine Or.inr (targetsApart_of_marked hencoded hequals' ?_ path)
    exact not_encodeSlashes_prefix hslash hslash' (hservice.notMem (by decide))
  · exact Or.inl hslash'

/-- A gateway path without a slash has no other spelling. If the path of a request is rewritten as
it should be, the second search has found nothing, or was not to replace anything. -/
theorem apart_of_afterScript_eq (hgateway : DashOnly gateway) (hslash : '/' ∉ gateway)
    (heq : afterScript gateway service path = rewriteQuery gateway service path) :
    SourcesApart ('=' :: gateway) ('=' :: encodeSlashes gateway) (queryPieces gateway path) ∧
      ('/' ∉ service ∨ TargetsApart ('=' :: service) ('=' :: encodeSlashes gateway)
        (queryPieces gateway path)) := by
  have hself := encodeSlashes_eq_self hslash
  have hcount : (queryPieces gateway path).count .second = 0 := by
    rw [queryPieces, hself]
    exact count_second_cut_self (List.cons_ne_nil _ _) path
  have hsources : SourcesApart ('=' :: gateway) ('=' :: encodeSlashes gateway)
      (queryPieces gateway path) := sourcesApart_of_count_eq_zero hcount
  refine ⟨hsources, ?_⟩
  by_cases hslash' : '/' ∈ service
  · right
    -- The first search has replaced everything already.
    have hfirst : replaceFrom ('=' :: gateway) ('=' :: service) 0 path =
        write ('=' :: service) ('=' :: encodeSlashes gateway) (queryPieces gateway path) :=
      replaceFrom_eq_write (List.cons_ne_nil _ _) (List.cons_ne_nil _ _) hsources
    have hwritten :
        write ('=' :: service) ('=' :: encodeSlashes service) (queryPieces gateway path) =
        write ('=' :: service) ('=' :: encodeSlashes gateway) (queryPieces gateway path) :=
      write_of_count_eq_zero hcount
    rw [afterScript, hfirst, rewriteQuery, hwritten] at heq
    obtain ⟨limit, hlimit⟩ : ∃ limit, service.count '/' = limit + 1 :=
      Nat.exists_eq_succ_of_ne_zero fun hzero => List.count_eq_zero.mp hzero hslash'
    rw [hlimit] at heq
    refine targetsApart_of_not_infix hcount
      (not_infix_of_replaceUpTo_eq_self (List.cons_ne_nil _ _) ?_ heq)
    -- The service path with its slashes encoded has a `%` in it, the gateway path has none.
    intro hspellings
    have hpercent := percent_mem_encodeSlashes hslash'
    rw [← (List.cons.inj hspellings).2, hself] at hpercent
    exact hgateway.notMem (by decide) hpercent
  · exact Or.inl hslash'

/-- Two paths that are the same are replaced by themselves. -/
theorem afterScript_self (gateway path : List Char) :
    afterScript gateway gateway path = rewriteQuery gateway gateway path := by
  have hne : ∀ text : List Char, '=' :: text ≠ [] := List.cons_ne_nil '='
  rw [afterScript, replaceUpTo_self (hne _), replaceFrom_self (hne _), rewriteQuery, queryPieces,
    write_cut (hne _) (hne _)]

end DashOnly

/-! ## The script -/

section Script

variable {metadata : String × String} {request : Request}

/-- The script rewrites a path as it should exactly when the path after it is the rewritten one. -/
theorem rewritesQuery_iff (hgateway : DashOnly (bytes metadata.1))
    (hservice : DashOnly (bytes metadata.2)) :
    RewritesQuery metadata request ↔ (request.upgrade = none →
      afterScript (bytes metadata.1) (bytes metadata.2) request.path =
        rewriteQuery (bytes metadata.1) (bytes metadata.2) request.path) := by
  refine forall_congr' fun hupgrade => ?_
  obtain ⟨after, hrun, hpath⟩ := exists_run_envoyOnRequest hgateway hservice hupgrade
  constructor
  · rintro ⟨after', hrun', hpath'⟩
    obtain rfl : after = after' := (EStateM.Result.ok.inj (hrun.symm.trans hrun')).2
    rw [← hpath, hpath']
  · intro heq
    exact ⟨after, hrun, hpath.trans heq⟩

/-- With paths in which the dash is the only pattern character, the script rewrites the query of
every request that fits. If there is no `=` in the two paths, it rewrites no others. -/
theorem rewritesQuery_of_queryFits (hgateway : DashOnly (bytes metadata.1))
    (hservice : DashOnly (bytes metadata.2)) (request : Request) :
    (QueryFits metadata request → RewritesQuery metadata request) ∧
      ('=' ∉ bytes metadata.1 → '=' ∉ bytes metadata.2 →
        RewritesQuery metadata request → QueryFits metadata request) := by
  rw [rewritesQuery_iff hgateway hservice]
  constructor
  · intro hfits hupgrade
    rcases hfits hupgrade with hsame | ⟨hfew, hsources, htargets⟩
    · rw [hsame]
      exact afterScript_self _ _
    · by_cases hne : bytes metadata.1 = bytes metadata.2
      · rw [hne]
        exact afterScript_self _ _
      · exact (afterScript_eq_iff hgateway hservice hne hsources htargets).mpr hfew
  · intro hequals hequals' hrewrites hupgrade
    have heq := hrewrites hupgrade
    refine or_iff_not_imp_left.mpr fun hne => ?_
    -- A gateway path with a slash has two spellings, another one has one.
    obtain ⟨hsources, htargets⟩ : SourcesApart _ _ _ ∧ (_ ∨ TargetsApart _ _ _) := by
      by_cases hslash : '/' ∈ bytes metadata.1
      · exact apart_of_slash hequals hequals' hslash hservice request.path
      · exact apart_of_afterScript_eq hgateway hslash heq
    exact ⟨(afterScript_eq_iff hgateway hservice hne hsources htargets).mp heq, hsources, htargets⟩

end Script

/-! ## A request with three links -/

/-- A request to the hub. -/
def hubRequest (path : String) : Request where
  upgrade := none
  path := path.toList
  contentLength := none
  body := none

/-- Two encoded links and a plain one are all replaced: the service path has two slashes. -/
theorem rewritesQuery_twoEncoded :
    RewritesQuery ("/api/hub-a/", "/galaxy-ng/")
      (hubRequest "/x/?a=%2Fapi%2Fhub-a%2Fv3&b=/api/hub-a/v3&c=%2Fapi%2Fhub-a%2F") := by
  refine (rewritesQuery_of_queryFits (by decide) (by decide) _).1 fun _ => Or.inr ?_
  have hservice : DashOnly (bytes "/galaxy-ng/") := by decide
  have hapart := apart_of_slash (by decide : '=' ∉ bytes "/api/hub-a/") (by decide) (by decide)
    hservice "/x/?a=%2Fapi%2Fhub-a%2Fv3&b=/api/hub-a/v3&c=%2Fapi%2Fhub-a%2F".toList
  exact ⟨by decide, hapart.1, hapart.2⟩

/-- Of three encoded links the last one is left as it is. -/
theorem not_rewritesQuery_threeEncoded :
    ¬RewritesQuery ("/api/hub/", "/galaxy/")
      (hubRequest "/x/?a=%2Fapi%2Fhub%2F&b=%2Fapi%2Fhub%2F&c=%2Fapi%2Fhub%2F") := by
  have hleft : afterScript (bytes "/api/hub/") (bytes "/galaxy/")
      "/x/?a=%2Fapi%2Fhub%2F&b=%2Fapi%2Fhub%2F&c=%2Fapi%2Fhub%2F".toList =
        "/x/?a=%2Fgalaxy%2F&b=%2Fgalaxy%2F&c=%2Fapi%2Fhub%2F".toList := by decide
  rw [rewritesQuery_iff (by decide) (by decide)]
  intro h
  exact absurd (hleft.symm.trans (h rfl)) (by decide)

end AapGateway.Proxy
