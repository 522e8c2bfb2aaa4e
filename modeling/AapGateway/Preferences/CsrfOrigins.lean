import AapGateway.Foundations.UrlParse

/-!
# Trusted origins

`check_csrf_origin` decides whether a string is an origin that requests may come from. It splits the
string as a URL and tests some of the parts: the scheme, the path, the query, the fragment, and the
host in lower case or the whole net location of a wildcard. The user information, the port, the
parameters of the path and what the split drops are not tested.

## Main definitions

* `checkCsrfOrigin`, with the tests that it makes;
* `IsOrigin`: the grammar of an origin;
* `Spelled`: what is not tested is as the grammar has it.

## Main results

* `isOrigin_of_spelled` and `spelled_of_isOrigin`: a string that passes the tests is an origin
  exactly if the rest of it is as it should be;
* `accepts_isOrigin_iff`: when the check accepts origins only.
-/

namespace AapGateway.Preferences

open UrlParse IpAddress

/-- What the check takes from elsewhere: case mapping, normalization, and the validation of domain
names. -/
structure OriginNames extends Unicode where
  /-- `validate_domain_name`. -/
  validateDomainName : String → Bool

/-- The behaviour of these functions that the check relies on. -/
structure OriginNames.Documented (names : OriginNames) : Prop where
  /-- Only the empty text is empty in lower case. -/
  eq_empty_of_lower : ∀ {s}, names.lower s = "" → s = ""
  /-- No character becomes a colon in lower case. -/
  colon_of_lower : ∀ {s}, ':' ∈ (names.lower s).toList → ':' ∈ s.toList
  /-- A way to write `localhost` has neither colons nor brackets. -/
  notMem_of_localhost : ∀ {s}, names.lower s = "localhost" →
    ':' ∉ s.toList ∧ '[' ∉ s.toList ∧ ']' ∉ s.toList
  /-- A domain name has neither colons nor brackets. -/
  notMem_of_domainName : ∀ {s}, names.validateDomainName s = true →
    ':' ∉ s.toList ∧ '[' ∉ s.toList ∧ ']' ∉ s.toList

/-- A message with the value it is about. -/
def got (message value : String) : String :=
  message ++ " Got: " ++ value

/-- `_validate_url_structure`. -/
def validateUrlStructure (parts : ParseResult) (value : String) : Option String :=
  if parts.scheme ∉ ["https", "http"] then
    some (got "The origin must start with either http:// or https://." value)
  else if parts.netloc = "" then some (got "The hostname should not be empty." value)
  else if parts.path ∉ ["", "/"] then
    some (got "The origin must include only the scheme and hostname (no path)." value)
  else if parts.query ≠ "" then
    some (got "The origin must not include query parameters." value)
  else if parts.fragment ≠ "" then some (got "The origin must not include fragments." value)
  else none

/-- `_validate_wildcard_domain`. -/
def validateWildcardDomain (names : OriginNames) (netloc value : String) : Option String :=
  if ¬ ['*', '.'] <+: netloc.toList then
    some (got ("wildcard must be at the start of the domain and followed by a dot " ++
      "(e.g., '*.example.com').") value)
  else
    let domainPart := String.ofList (netloc.toList.drop 2)
    if domainPart = "" then
      some (got "wildcard domain must have a valid domain after '*.'." value)
    else if '*' ∈ domainPart.toList then
      some (got "only one wildcard at the beginning is allowed." value)
    else if (ipAddress domainPart.toList).isSome then
      some (got "wildcards cannot be used with IP addresses." value)
    else if '.' ∉ domainPart.toList ∧ names.lower domainPart ≠ "localhost" then
      some (got "wildcard domain must have a valid domain after '*.'." value)
    else if names.lower domainPart ≠ "localhost" ∧ ¬ names.validateDomainName domainPart then
      some (got ("invalid domain name after wildcard: '" ++ domainPart ++ "'.") value)
    else none

/-- `_validate_regular_hostname`. -/
def validateRegularHostname (names : OriginNames) (hostname : Option String) (value : String) :
    Option String :=
  match hostname with
  | none => none
  | some hostname =>
    if hostname = "" then none
    else if (ipAddress hostname.toList).isSome then none
    else if names.lower hostname ≠ "localhost" ∧ ¬ names.validateDomainName hostname then
      some (got ("invalid domain name: '" ++ hostname ++ "'.") value)
    else none

/-- `check_csrf_origin` of a string. An origin that is accepted has no reason against it. -/
def checkCsrfOrigin (names : OriginNames) (value : String) : Option String :=
  if value = "*" then none
  else
    match urlparse names.toUnicode value with
    | .error e => some ("Unable to parse this as a URL. Got: " ++ value ++ ". Error: " ++ e)
    | .ok parts =>
      match validateUrlStructure parts value with
      | some structureError => some structureError
      | none =>
        if '*' ∈ parts.netloc.toList then validateWildcardDomain names parts.netloc value
        else validateRegularHostname names (hostname names.toUnicode parts.netloc.toList) value

/-! ## The grammar -/

/-- A character that does not end a host and is not dropped from it. -/
def IsHostChar (c : Char) : Prop :=
  isDelimiter c = false ∧ c ≠ '@' ∧ c ≠ '\t' ∧ c ≠ '\r' ∧ c ≠ '\n'

/-- A host without colons and brackets. -/
structure IsBare (host : List Char) : Prop where
  chars : ∀ c ∈ host, IsHostChar c
  colon : ':' ∉ host
  opening : '[' ∉ host
  closing : ']' ∉ host

/-- A host. Names are judged in lower case. -/
inductive IsHost (names : OriginNames) : List Char → Prop
  /-- A domain name, `localhost` or an IPv4 address. -/
  | name {host : List Char} (ne : host ≠ []) (bare : IsBare host)
      (valid : names.validateDomainName (lowerHost names.toUnicode host) = true ∨
        names.lower (lowerHost names.toUnicode host) = "localhost" ∨
        ipAddress (lowerHost names.toUnicode host).toList = some .v4) : IsHost names host
  /-- An IPv6 address in brackets. -/
  | address {address : List Char} (chars : ∀ c ∈ address, IsHostChar c) (closing : ']' ∉ address)
      (valid : ipAddress address = some .v6) : IsHost names ('[' :: address ++ [']'])
  /-- A domain name or `localhost` behind a wildcard. -/
  | wildcard {domain : List Char} (bare : IsBare domain)
      (valid : names.validateDomainName (String.ofList domain) = true ∨
        names.lower (String.ofList domain) = "localhost") : IsHost names ('*' :: '.' :: domain)

/-- A decimal number up to 65535. -/
def IsPort (digits : List Char) : Prop :=
  digits ≠ [] ∧ digits.all Char.isDigit = true ∧ decimal digits ≤ 65535

instance (digits : List Char) : Decidable (IsPort digits) :=
  inferInstanceAs (Decidable (_ ∧ _ ∧ _))

/-- Nothing, or a colon and a port. -/
def IsOptionalPort (port : List Char) : Prop :=
  port = [] ∨ ∃ digits, port = ':' :: digits ∧ IsPort digits

/-- The parts of an origin that is no wildcard of its own. -/
structure OriginText (names : OriginNames) (scheme host port slash : List Char) : Prop where
  scheme : scheme = "http".toList ∨ scheme = "https".toList
  host : IsHost names host
  port : IsOptionalPort port
  slash : slash = [] ∨ slash = ['/']

/-- `*`, `scheme://host` or `scheme://host:port`, and at most one slash. -/
def IsOrigin (names : OriginNames) (value : String) : Prop :=
  value = "*" ∨ ∃ scheme host port slash, OriginText names scheme host port slash ∧
    value.toList = scheme ++ ':' :: '/' :: '/' :: (host ++ port ++ slash)

/-! ## The tests -/

/-- The parts that are tested pass their tests. -/
def PassesTests (names : OriginNames) (value : String) (parts : ParseResult) : Prop :=
  validateUrlStructure parts value = none ∧
    if '*' ∈ parts.netloc.toList then validateWildcardDomain names parts.netloc value = none
    else validateRegularHostname names (hostname names.toUnicode parts.netloc.toList) value = none

/-- What is not tested is as it should be. -/
structure Spelled (value : String) (parts : ParseResult) : Prop where
  /-- Nothing was dropped from the string or written otherwise in it: blanks in front, tabs and line
  breaks, an upper-case scheme, parameters, and the marks of an empty query or fragment. -/
  whole : value = parts.scheme ++ "://" ++ parts.netloc ++ parts.path
  /-- There is no user information. -/
  userinfo : '@' ∉ parts.netloc.toList
  /-- There is a host. -/
  host : (hostinfo parts.netloc.toList).1 ≠ []
  /-- The port is a number in range, or missing with its colon. -/
  port : IsOptionalPort (portText parts.netloc.toList)
  /-- What stands in brackets is an IPv6 address, not one of a future version. -/
  brackets : '[' ∈ parts.netloc.toList → ipAddress (hostinfo parts.netloc.toList).1 = some .v6

section Tests

variable {names : OriginNames} {value : String} {parts : ParseResult}

/-- What is accepted has passed the tests, or is the wildcard. -/
theorem checkCsrfOrigin_eq_none_iff :
    checkCsrfOrigin names value = none ↔
      value = "*" ∨ ∃ parts, urlparse names.toUnicode value = .ok parts ∧
        PassesTests names value parts := by
  unfold checkCsrfOrigin PassesTests
  by_cases hstar : value = "*"
  · simp [hstar]
  · rw [if_neg hstar]
    cases hparse : urlparse names.toUnicode value with
    | error e => simp [hstar]
    | ok parts =>
        cases hstructure : validateUrlStructure parts value with
        | some e => simp [hstar, hstructure]
        | none =>
            simp only [hstar, false_or, Except.ok.injEq, exists_eq_left', hstructure, true_and]
            split <;> rfl

/-- A chain of tests finds no fault exactly if the first does not and the others do not. -/
theorem ite_some_eq_none_iff {α : Type} {p : Prop} [Decidable p] {fault : α} {others : Option α} :
    (if p then some fault else others) = none ↔ ¬ p ∧ others = none := by
  by_cases h : p <;> simp [h]

/-- The test of the structure. -/
theorem of_validateUrlStructure (h : validateUrlStructure parts value = none) :
    (parts.scheme = "https" ∨ parts.scheme = "http") ∧ (parts.path = "" ∨ parts.path = "/") := by
  simp only [validateUrlStructure, ite_some_eq_none_iff] at h
  obtain ⟨hscheme, -, hpath, -⟩ := h
  exact ⟨by simpa using not_not.mp hscheme, by simpa using not_not.mp hpath⟩

/-- The test of a wildcard. -/
theorem of_validateWildcardDomain {netloc : String}
    (h : validateWildcardDomain names netloc value = none) :
    ∃ domain, netloc.toList = '*' :: '.' :: domain ∧
      (names.validateDomainName (String.ofList domain) = true ∨
        names.lower (String.ofList domain) = "localhost") := by
  simp only [validateWildcardDomain, ite_some_eq_none_iff] at h
  obtain ⟨hstart, -, -, -, -, hname, -⟩ := h
  obtain ⟨domain, hdomain⟩ := not_not.mp hstart
  refine ⟨domain, hdomain.symm, ?_⟩
  rw [← hdomain] at hname
  by_cases hlocal : names.lower (String.ofList domain) = "localhost"
  · exact Or.inr hlocal
  · refine Or.inl ?_
    by_contra hinvalid
    exact hname ⟨hlocal, hinvalid⟩

/-- The test of a host name. -/
theorem of_validateRegularHostname {hostname : String} (hne : hostname ≠ "")
    (h : validateRegularHostname names (some hostname) value = none) :
    names.validateDomainName hostname = true ∨ names.lower hostname = "localhost" ∨
      (ipAddress hostname.toList).isSome := by
  unfold validateRegularHostname at h
  simp only [if_neg hne] at h
  by_cases haddress : (ipAddress hostname.toList).isSome = true
  · exact Or.inr (Or.inr haddress)
  · rw [if_neg haddress, ite_some_eq_none_iff] at h
    by_cases hlocal : names.lower hostname = "localhost"
    · exact Or.inr (Or.inl hlocal)
    · refine Or.inl ?_
      by_contra hinvalid
      exact h.1 ⟨hlocal, hinvalid⟩

end Tests

section Grammar

variable {names : OriginNames} {value : String} {parts : ParseResult} {host port : List Char}

/-- The lower-case form of a host is not empty. -/
theorem lowerHost_ne_empty (hnames : names.Documented) (hne : host ≠ []) :
    lowerHost names.toUnicode host ≠ "" := by
  intro hempty
  unfold lowerHost at hempty
  obtain ⟨hlower, hzone⟩ := String.append_eq_empty_iff.mp hempty
  have hbefore := hnames.eq_empty_of_lower hlower
  -- The zone and what is before it make up the host.
  have hnil : before '%' host ++ host.dropWhile (· ≠ '%') = [] := by
    rw [String.ofList_eq_empty_iff] at hbefore hzone
    rw [hbefore, hzone, List.nil_append]
  rw [before, List.takeWhile_append_dropWhile] at hnil
  exact hne hnil

/-- A colon in the lower-case form of a host is one of the host. -/
theorem colon_of_lowerHost (hnames : names.Documented)
    (h : ':' ∈ (lowerHost names.toUnicode host).toList) : ':' ∈ host := by
  unfold lowerHost at h
  rw [String.toList_append, List.mem_append] at h
  rcases h with hbefore | hzone
  · have hmem := hnames.colon_of_lower hbefore
    rw [String.toList_ofList] at hmem
    exact before_subset hmem
  · rw [String.toList_ofList] at hzone
    exact (List.dropWhile_suffix _).subset hzone

/-- The characters of a port. -/
theorem IsOptionalPort.of_mem (h : IsOptionalPort port) {c : Char} (hc : c ∈ port) :
    c = ':' ∨ c.isDigit = true := by
  rcases h with rfl | ⟨digits, rfl, -, hdigits, -⟩
  · exact absurd hc List.not_mem_nil
  · rcases List.mem_cons.mp hc with rfl | hc
    · exact Or.inl rfl
    · exact Or.inr (List.all_eq_true.mp hdigits c hc)

/-- A port has the characters of a host, and no bracket. -/
theorem IsOptionalPort.chars (h : IsOptionalPort port) :
    (∀ c ∈ port, IsHostChar c) ∧ '[' ∉ port := by
  refine ⟨fun c hc => ?_, fun hmem => absurd (h.of_mem hmem) (by decide)⟩
  have hne : ∀ d : Char, d ≠ ':' → d.isDigit = false → c ≠ d := by
    rintro d hcolon hdigit rfl
    rcases h.of_mem hc with rfl | hc
    · exact hcolon rfl
    · rw [hdigit] at hc
      cases hc
  refine ⟨?_, hne _ (by decide) (by decide), hne _ (by decide) (by decide),
    hne _ (by decide) (by decide), hne _ (by decide) (by decide)⟩
  simp only [isDelimiter, Bool.or_eq_false_iff, decide_eq_false_iff_not]
  exact ⟨⟨hne _ (by decide) (by decide), hne _ (by decide) (by decide)⟩,
    hne _ (by decide) (by decide)⟩

/-- The characters of a host. -/
theorem IsHost.chars (h : IsHost names host) : ∀ c ∈ host, IsHostChar c := by
  have hmark : ∀ c ∈ ['[', ']', '*', '.'], IsHostChar c := by
    simp [IsHostChar, isDelimiter]
  cases h with
  | name _ bare _ => exact bare.chars
  | address chars _ _ =>
      intro c hc
      rcases List.mem_append.mp hc with hc | hc
      · rcases List.mem_cons.mp hc with rfl | hc
        · exact hmark _ (by decide)
        · exact chars c hc
      · rw [List.mem_singleton.mp hc]
        exact hmark _ (by decide)
  | wildcard bare _ =>
      intro c hc
      rcases List.mem_cons.mp hc with rfl | hc
      · exact hmark _ (by decide)
      · rcases List.mem_cons.mp hc with rfl | hc
        · exact hmark _ (by decide)
        · exact bare.chars c hc

/-- How a host and a port are read from a net location that is written out. -/
theorem IsHost.hostinfo (h : IsHost names host) (hport : IsOptionalPort port) :
    (UrlParse.hostinfo (host ++ port)).1 ≠ [] ∧ portText (host ++ port) = port ∧
      ('[' ∈ host ++ port → ipAddress (UrlParse.hostinfo (host ++ port)).1 = some .v6) := by
  have huser : '@' ∉ host ++ port := by
    intro hmem
    rcases List.mem_append.mp hmem with hmem | hmem
    · exact (h.chars _ hmem).2.1 rfl
    · exact (hport.chars.1 _ hmem).2.1 rfl
  have htext : IsPortText port := hport.imp id fun ⟨digits, hdigits, _⟩ => ⟨digits, hdigits⟩
  -- A host without brackets is read up to the colon.
  have hbare : host ≠ [] → IsBare host → (UrlParse.hostinfo (host ++ port)).1 ≠ [] ∧
      portText (host ++ port) = port ∧
      ('[' ∈ host ++ port → ipAddress (UrlParse.hostinfo (host ++ port)).1 = some .v6) := by
    intro hne bare
    have hbracket : '[' ∉ host ++ port := by
      rw [List.mem_append, not_or]
      exact ⟨bare.opening, hport.chars.2⟩
    obtain ⟨hhost, hrest⟩ := hostinfo_bare huser hbracket bare.colon htext
    rw [hhost, hrest]
    exact ⟨hne, rfl, fun hmem => absurd hmem hbracket⟩
  cases h with
  | name ne bare _ => exact hbare ne bare
  | @address address chars closing valid =>
      have hwritten : '[' :: address ++ [']'] ++ port = '[' :: address ++ ']' :: port := by simp
      rw [hwritten] at huser ⊢
      obtain ⟨hhost, hrest⟩ := hostinfo_bracketed huser closing
      rw [hhost, hrest]
      exact ⟨ne_nil_of_ipAddress valid, rfl, fun _ => valid⟩
  | @wildcard domain bare _ =>
      refine hbare (List.cons_ne_nil _ _)
        ⟨IsHost.chars (.wildcard bare (by assumption)), ?_, ?_, ?_⟩
      · simpa using bare.colon
      · simpa using bare.opening
      · simpa using bare.closing

/-- The net location of a string that passes the tests is a host and a port, if what is not tested
is as it should be. -/
theorem exists_host_of_spelled (hnames : names.Documented)
    (hparse : urlparse names.toUnicode value = .ok parts) (htests : PassesTests names value parts)
    (h : Spelled value parts) :
    ∃ host port, parts.netloc.toList = host ++ port ∧ IsHost names host ∧ IsOptionalPort port := by
  obtain ⟨hdelimiters, hcheck⟩ := netloc_of_urlparse hparse
  have hchars : ∀ c ∈ parts.netloc.toList, IsHostChar c := by
    intro c hc
    obtain ⟨hdelimiter, hcontrol⟩ := hdelimiters c hc
    exact ⟨hdelimiter, fun huser => h.userinfo (huser ▸ hc), hcontrol⟩
  obtain ⟨-, htest⟩ := htests
  by_cases hstar : '*' ∈ parts.netloc.toList
  · rw [if_pos hstar] at htest
    obtain ⟨domain, hdomain, hvalid⟩ := of_validateWildcardDomain htest
    have hplain : ':' ∉ domain ∧ '[' ∉ domain ∧ ']' ∉ domain := by
      rcases hvalid with hvalid | hlocal
      · simpa using hnames.notMem_of_domainName hvalid
      · simpa using hnames.notMem_of_localhost hlocal
    have hbare : IsBare domain := by
      refine ⟨fun c hc => hchars c ?_, hplain.1, hplain.2.1, hplain.2.2⟩
      exact hdomain ▸ List.mem_cons_of_mem _ (List.mem_cons_of_mem _ hc)
    exact ⟨_, [], by rw [hdomain, List.append_nil], .wildcard hbare hvalid, Or.inl rfl⟩
  · rw [if_neg hstar] at htest
    by_cases hbracket : '[' ∈ parts.netloc.toList
    · obtain ⟨hsplit, hclose⟩ := eq_of_brackets h.userinfo hcheck hbracket
      refine ⟨_, _, hsplit.trans (by simp), .address (fun c hc => hchars c ?_) hclose
        (h.brackets hbracket), h.port⟩
      rw [hsplit]
      simp [hc]
    · obtain ⟨hsplit, hcolon⟩ := eq_of_no_brackets h.userinfo hbracket
      have hsub : (UrlParse.hostinfo parts.netloc.toList).1 ⊆ parts.netloc.toList := by
        intro c hc
        rw [hsplit]
        exact List.mem_append_left _ hc
      rw [hostname, if_neg h.host] at htest
      have hbare : IsBare (UrlParse.hostinfo parts.netloc.toList).1 :=
        ⟨fun c hc => hchars c (hsub hc), hcolon, fun hmem => hbracket (hsub hmem),
          fun hmem => hbracket ((mem_brackets_of_checkSplit hcheck).mpr (hsub hmem))⟩
      refine ⟨_, _, hsplit, .name h.host hbare ?_, h.port⟩
      refine (of_validateRegularHostname (lowerHost_ne_empty hnames h.host) htest).imp id
        (Or.imp id fun haddress => ?_)
      obtain ⟨version, hversion⟩ := Option.isSome_iff_exists.mp haddress
      match version, hversion with
      | .v4, hversion => exact hversion
      | .v6, hversion =>
          exact absurd (colon_of_lowerHost hnames (colon_mem_of_ipAddress hversion)) hcolon

/-- A string that passes the tests is an origin, if what is not tested is as it should be. -/
theorem isOrigin_of_spelled (hnames : names.Documented)
    (hparse : urlparse names.toUnicode value = .ok parts) (htests : PassesTests names value parts)
    (h : Spelled value parts) : IsOrigin names value := by
  obtain ⟨host, port, hnetloc, hhost, hport⟩ := exists_host_of_spelled hnames hparse htests h
  obtain ⟨hscheme, hpath⟩ := of_validateUrlStructure htests.1
  refine Or.inr ⟨parts.scheme.toList, host, port, parts.path.toList, ⟨?_, hhost, hport, ?_⟩, ?_⟩
  · rcases hscheme with hscheme | hscheme <;> rw [hscheme]
    · exact Or.inr rfl
    · exact Or.inl rfl
  · rcases hpath with hpath | hpath <;> rw [hpath]
    · exact Or.inl rfl
    · exact Or.inr rfl
  · have htext := congrArg String.toList h.whole
    simp only [String.toList_append, hnetloc] at htext
    simpa using htext

/-- What is not tested is as it should be in an origin that is written as a URL. -/
theorem spelled_of_isOrigin (hparse : urlparse names.toUnicode value = .ok parts)
    (hstar : value ≠ "*") (h : IsOrigin names value) : Spelled value parts := by
  rcases h with heq | ⟨scheme, host, port, slash, htext, hvalue⟩
  · exact absurd heq hstar
  · have hchars : ∀ c ∈ host ++ port, IsHostChar c := by
      intro c hc
      rcases List.mem_append.mp hc with hc | hc
      · exact htext.host.chars c hc
      · exact htext.port.chars.1 c hc
    have hscheme : IsScheme scheme := by
      rcases htext.scheme with rfl | rfl <;> exact ⟨by decide, by decide, by decide⟩
    obtain ⟨hparts, hnetloc, hpath⟩ := urlparse_whole hvalue hscheme
      (fun c hc => ⟨(hchars c hc).1, (hchars c hc).2.2⟩) htext.slash hparse
    obtain ⟨hhost, hport, hbrackets⟩ := htext.host.hostinfo htext.port
    refine ⟨?_, ?_, ?_, ?_, ?_⟩
    · apply String.toList_injective
      simp only [String.toList_append, hparts, hnetloc, hpath, hvalue]
      simp
    · rw [hnetloc]
      exact fun hmem => (hchars _ hmem).2.1 rfl
    · rw [hnetloc]
      exact hhost
    · rw [hnetloc, hport]
      exact htext.port
    · rw [hnetloc]
      exact hbrackets

/-- A string is accepted only if it is an origin, exactly when it is the wildcard, or does not pass
the tests of its parts, or is written as it should be in the rest. -/
theorem accepts_isOrigin_iff (hnames : names.Documented) (value : String) :
    (checkCsrfOrigin names value = none → IsOrigin names value) ↔
      value = "*" ∨ ∀ parts, urlparse names.toUnicode value = .ok parts →
        PassesTests names value parts → Spelled value parts := by
  rw [checkCsrfOrigin_eq_none_iff]
  constructor
  · intro h
    by_cases hstar : value = "*"
    · exact Or.inl hstar
    · refine Or.inr fun parts hparse htests => ?_
      exact spelled_of_isOrigin hparse hstar (h (Or.inr ⟨parts, hparse, htests⟩))
  · rintro (rfl | h) haccepted
    · exact Or.inl rfl
    · rcases haccepted with hstar | ⟨parts, hparse, htests⟩
      · exact Or.inl hstar
      · exact isOrigin_of_spelled hnames hparse htests (h parts hparse htests)

/-- A host of letters, digits, hyphens and dots that has a dot. -/
def asciiNames : OriginNames where
  lower s := String.ofList (s.toList.map Char.toLower)
  nfkc s := s
  repr s := "'" ++ s ++ "'"
  validateDomainName s :=
    s.toList.all (fun c => c.isAlphanum || c = '-' || c = '.') && '.' ∈ s.toList

/-- The names behave as documented. -/
theorem documented_asciiNames : asciiNames.Documented where
  eq_empty_of_lower {s} h := by
    rw [asciiNames, String.ofList_eq_empty_iff, List.map_eq_nil_iff] at h
    exact String.toList_eq_nil_iff.mp h
  colon_of_lower {s} h := by
    simp only [asciiNames, String.toList_ofList, List.mem_map] at h
    obtain ⟨c, hc, hcolon⟩ := h
    have hsame : c = ':' := by
      rw [Char.toLower] at hcolon
      split at hcolon
      · -- An upper-case letter becomes a letter.
        rename_i hupper
        have hval := congrArg (fun d : Char => d.val.toNat) hcolon
        simp [UInt32.le_iff_toNat_le, UInt32.toNat_add] at hval hupper
        omega
      · exact hcolon
    exact hsame ▸ hc
  notMem_of_localhost {s} h := by
    have hlower : s.toList.map Char.toLower = "localhost".toList := by
      rw [← h]
      simp [asciiNames]
    have hnot : ∀ c : Char, c.toLower ∉ "localhost".toList → c ∉ s.toList := fun c hc hmem =>
      hc (hlower ▸ List.mem_map_of_mem hmem)
    exact ⟨hnot _ (by decide), hnot _ (by decide), hnot _ (by decide)⟩
  notMem_of_domainName {s} h := by
    have hall : ∀ c ∈ s.toList, (c.isAlphanum || c = '-' || c = '.') = true := by
      simp only [asciiNames, Bool.and_eq_true, List.all_eq_true] at h
      exact h.1
    exact ⟨fun hmem => absurd (hall _ hmem) (by decide),
      fun hmem => absurd (hall _ hmem) (by decide), fun hmem => absurd (hall _ hmem) (by decide)⟩

/-- An origin that is accepted, and is one. -/
theorem isOrigin_examplePort : IsOrigin asciiNames "https://example.com:8000" := by
  refine (accepts_isOrigin_iff documented_asciiNames _).mpr (Or.inr fun parts hparse _ => ?_)
    (by decide +kernel)
  have hparts : urlparse asciiNames.toUnicode "https://example.com:8000" =
      .ok ⟨"https", "example.com:8000", "", "", "", ""⟩ := by decide +kernel
  obtain rfl := Except.ok.inj (hparts.symm.trans hparse)
  refine ⟨by decide +kernel, by decide +kernel, by decide +kernel, Or.inr ?_, fun h => ?_⟩
  · exact ⟨"8000".toList, by decide +kernel, by decide +kernel⟩
  · exact absurd h (by decide +kernel)

/-- A string with user information is accepted, and is no origin. -/
theorem not_accepts_isOrigin_user :
    ¬ ∀ names : OriginNames, names.Documented → ∀ value,
      checkCsrfOrigin names value = none → IsOrigin names value := by
  intro h
  have horigin := h asciiNames documented_asciiNames "https://user@example.com" (by decide +kernel)
  rcases horigin with heq | ⟨scheme, host, port, slash, htext, hvalue⟩
  · exact absurd heq (by decide)
  · -- The user information has no place in the grammar.
    have hmem : '@' ∈ scheme ++ ':' :: '/' :: '/' :: (host ++ port ++ slash) := by
      rw [← hvalue]
      decide
    have hscheme : '@' ∉ scheme := by
      rcases htext.scheme with rfl | rfl <;> decide
    have hslash : '@' ∉ slash := by
      rcases htext.slash with rfl | rfl <;> decide
    simp only [List.mem_append, List.mem_cons] at hmem
    rcases hmem with hmem | hmem | hmem | hmem | (hmem | hmem) | hmem
    · exact hscheme hmem
    · exact absurd hmem (by decide)
    · exact absurd hmem (by decide)
    · exact absurd hmem (by decide)
    · exact (htext.host.chars _ hmem).2.1 rfl
    · exact (htext.port.chars.1 _ hmem).2.1 rfl
    · exact hslash hmem

end Grammar

end AapGateway.Preferences
