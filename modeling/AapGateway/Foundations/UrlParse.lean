import AapGateway.Foundations.IpAddress

/-!
# Splitting URLs

The decomposition of a URL by the standard library of the modelled language:
`scheme://netloc/path;params?query#fragment`. The split is permissive. White space in front and the
control characters that browsers drop are removed, the scheme is lower-cased, and empty parts leave
no trace of their delimiters.

## Main definitions

* `urlsplit` and `urlparse`, where an error is the message of a `ValueError`;
* `hostinfo`, `hostname` and `portText`: host and port of a net location.

## Main results

* `netloc_of_urlparse`: what is known of the net location of a URL;
* `urlparse_whole`: the parts of a URL that is written out of them;
* `hostinfo_bare` and `hostinfo_bracketed`: host and port of a net location that is written out.
-/

namespace UrlParse

open IpAddress

/-- What the split needs to know of Unicode and of the texts of messages. -/
structure Unicode where
  /-- `s.lower()`. -/
  lower : String → String
  /-- `unicodedata.normalize('NFKC', s)`. -/
  nfkc : String → String
  /-- `repr(s)`. -/
  repr : String → String

/-- The text before the first `c`: `s.partition(c)[0]`. -/
def before (c : Char) (cs : List Char) : List Char :=
  cs.takeWhile (· ≠ c)

/-- The text after the first `c`: `s.partition(c)[2]`. -/
def after (c : Char) (cs : List Char) : List Char :=
  (cs.dropWhile (· ≠ c)).tail

/-- The text after the last `c`: `s.rpartition(c)[2]`. -/
def afterLast (c : Char) (cs : List Char) : List Char :=
  cs.rtakeWhile (· ≠ c)

/-- The parts of a URL. -/
structure ParseResult where
  scheme : String
  netloc : String
  path : String
  params : String
  query : String
  fragment : String
  deriving DecidableEq, Repr

/-! ## The net location -/

/-- `_hostinfo`: the host, without brackets, and the port. -/
def hostinfo (netloc : List Char) : List Char × List Char :=
  let hostinfo := afterLast '@' netloc
  if '[' ∈ hostinfo then
    let bracketed := after '[' hostinfo
    (before ']' bracketed, after ':' (after ']' bracketed))
  else (before ':' hostinfo, after ':' hostinfo)

/-- What follows the host in a net location: the port with its colon. -/
def portText (netloc : List Char) : List Char :=
  let hostinfo := afterLast '@' netloc
  if '[' ∈ hostinfo then after ']' (after '[' hostinfo) else hostinfo.dropWhile (· ≠ ':')

/-- A host in lower case, but for its zone. -/
def lowerHost (u : Unicode) (host : List Char) : String :=
  u.lower (String.ofList (before '%' host)) ++ String.ofList (host.dropWhile (· ≠ '%'))

/-- `parts.hostname`. -/
def hostname (u : Unicode) (netloc : List Char) : Option String :=
  let host := (hostinfo netloc).1
  if host = [] then none else some (lowerHost u host)

/-- The regular expression `\Av[a-fA-F0-9]+\..+\Z`. -/
def isIPvFuture (host : List Char) : Bool :=
  let version := host.tail.takeWhile isHexDigit
  let rest := host.tail.dropWhile isHexDigit
  version ≠ [] && rest.head? = some '.' && rest.tail ≠ []

/-- `_check_bracketed_host`. -/
def checkBracketedHost (u : Unicode) (host : List Char) : Except String Unit :=
  if host.head? = some 'v' then
    if isIPvFuture host then .ok () else .error "IPvFuture address is invalid"
  else
    match ipAddress host with
    | none =>
        .error (u.repr (String.ofList host) ++ " does not appear to be an IPv4 or IPv6 address")
    | some .v4 => .error "An IPv4 address cannot be in brackets"
    | some .v6 => .ok ()

/-- `_check_bracketed_netloc`. -/
def checkBracketedNetloc (u : Unicode) (netloc : List Char) : Except String Unit :=
  let hostnameAndPort := afterLast '@' netloc
  if '[' ∈ hostnameAndPort then
    let bracketed := after '[' hostnameAndPort
    let port := after ']' bracketed
    if before '[' hostnameAndPort ≠ [] then .error "Invalid IPv6 URL"
    else if port ≠ [] ∧ port.head? ≠ some ':' then .error "Invalid IPv6 URL"
    else checkBracketedHost u (before ']' bracketed)
  else checkBracketedHost u (before ':' hostnameAndPort)

/-- `_checknetloc`: no character may turn into a delimiter under normalization. -/
def checkNetloc (u : Unicode) (netloc : List Char) : Except String Unit :=
  if netloc.all (·.toNat < 128) then .ok ()
  else
    let n := String.ofList (netloc.filter fun c => c ∉ ['@', ':', '#', '?'])
    if n = u.nfkc n then .ok ()
    else if (u.nfkc n).toList.any (· ∈ ['/', '?', '#', '@', ':']) then
      .error ("netloc '" ++ String.ofList netloc ++
        "' contains invalid characters under NFKC normalization")
    else .ok ()

/-! ## The split -/

/-- The text that is split: without control characters and blanks in front, and without tabs and
line breaks. -/
def cleaned (url : List Char) : List Char :=
  (url.dropWhile (·.toNat ≤ 32)).filter fun c => c ≠ '\t' ∧ c ≠ '\r' ∧ c ≠ '\n'

/-- `scheme_chars`. -/
def isSchemeChar (c : Char) : Bool :=
  c.isAlpha || c.isDigit || c = '+' || c = '-' || c = '.'

/-- The scheme and what follows its colon, or no scheme and the whole text. -/
def splitScheme (url : List Char) : List Char × List Char :=
  let scheme := before ':' url
  if ':' ∈ url ∧ (scheme.head?.any Char.isAlpha) ∧ scheme.all isSchemeChar then
    (scheme.map Char.toLower, after ':' url)
  else ([], url)

/-- A character that ends the net location. -/
def isDelimiter (c : Char) : Bool :=
  c = '/' || c = '?' || c = '#'

/-- The net location after two slashes, and what follows it. -/
def splitNetloc (url : List Char) : List Char × List Char :=
  if ['/', '/'] <+: url then
    ((url.drop 2).takeWhile (!isDelimiter ·), (url.drop 2).dropWhile (!isDelimiter ·))
  else ([], url)

/-- The checks of the net location, in the order of the source. -/
def checkSplit (u : Unicode) (netloc : List Char) : Except String Unit :=
  if decide ('[' ∈ netloc) ≠ decide (']' ∈ netloc) then .error "Invalid IPv6 URL"
  else if '[' ∈ netloc then
    match checkBracketedNetloc u netloc with
    | .error e => .error e
    | .ok () => checkNetloc u netloc
  else checkNetloc u netloc

/-- The schemes with parameters. -/
def usesParams : List String :=
  ["", "ftp", "hdl", "prospero", "http", "imap", "https", "shttp", "rtsp", "rtsps", "rtspu", "sip",
    "sips", "mms", "sftp", "tel"]

/-- `_splitparams`: the parameters are those of the last segment of the path. -/
def splitParams (path : List Char) : List Char × List Char :=
  let segment := afterLast '/' path
  if ';' ∈ segment then (path.rdropWhile (· ≠ '/') ++ before ';' segment, after ';' segment)
  else (path, [])

/-- `urlparse`. -/
def urlparse (u : Unicode) (url : String) : Except String ParseResult :=
  let (scheme, rest) := splitScheme (cleaned url.toList)
  let (netloc, rest) := splitNetloc rest
  match checkSplit u netloc with
  | .error e => .error e
  | .ok () =>
    let fragment := after '#' rest
    let query := after '?' (before '#' rest)
    let path := before '?' (before '#' rest)
    let scheme := String.ofList scheme
    let (path, params) := if scheme ∈ usesParams then splitParams path else (path, [])
    .ok { scheme
          netloc := String.ofList netloc
          path := String.ofList path
          params := String.ofList params
          query := String.ofList query
          fragment := String.ofList fragment }

/-! ## Partitions -/

section Partitions

variable {c : Char} {cs ds : List Char}

/-- The text before a character does not contain it. -/
theorem notMem_before : c ∉ before c cs := by
  intro hmem
  unfold before at hmem
  have hne := List.mem_takeWhile_imp hmem
  simp at hne

/-- The text before a character is a part of the text. -/
theorem before_subset : before c cs ⊆ cs :=
  (List.takeWhile_prefix _).subset

/-- A text without a character is before it. -/
theorem before_of_notMem (h : c ∉ cs) : before c cs = cs := by
  refine List.takeWhile_eq_self_iff.mpr fun d hd => decide_eq_true ?_
  rintro rfl
  exact h hd

/-- Without a character the text is after its last occurrence. -/
theorem afterLast_of_notMem (h : c ∉ cs) : afterLast c cs = cs := by
  refine List.rtakeWhile_eq_self_iff.mpr fun d hd => decide_eq_true ?_
  rintro rfl
  exact h hd

/-- The rest from the first occurrence of a character on. -/
theorem dropWhile_append_cons (h : c ∉ cs) : (cs ++ c :: ds).dropWhile (· ≠ c) = c :: ds := by
  have hskip : ∀ d ∈ cs, decide (d ≠ c) = true := by
    intro d hd
    refine decide_eq_true ?_
    rintro rfl
    exact h hd
  rw [List.dropWhile_append_of_pos hskip, List.dropWhile_cons_of_neg (by simp)]

/-- The text before the first occurrence of a character. -/
theorem before_append_cons (h : c ∉ cs) : before c (cs ++ c :: ds) = cs := by
  have hskip : ∀ d ∈ cs, decide (d ≠ c) = true := by
    intro d hd
    refine decide_eq_true ?_
    rintro rfl
    exact h hd
  rw [before, List.takeWhile_append_of_pos hskip, List.takeWhile_cons_of_neg (by simp),
    List.append_nil]

/-- The text after the first occurrence of a character. -/
theorem after_append_cons (h : c ∉ cs) : after c (cs ++ c :: ds) = ds := by
  rw [after, dropWhile_append_cons h, List.tail_cons]

/-- A text is what is before a character in it, the character, and what is after it. -/
theorem before_append_after (h : c ∈ cs) : before c cs ++ c :: after c cs = cs := by
  obtain ⟨as, bs, rfl, hnot⟩ := List.eq_append_cons_of_mem h
  rw [before_append_cons hnot, after_append_cons hnot]

end Partitions

/-! ## Net locations that are written out -/

section Netloc

variable {host port ds netloc : List Char} {u : Unicode}

/-- What follows a host is nothing, or starts with a colon. -/
def IsPortText (port : List Char) : Prop :=
  port = [] ∨ ∃ ds, port = ':' :: ds

/-- The host and the port of a net location without brackets. -/
theorem hostinfo_bare (huser : '@' ∉ host ++ port) (hbracket : '[' ∉ host ++ port)
    (hcolon : ':' ∉ host) (hport : IsPortText port) :
    (hostinfo (host ++ port)).1 = host ∧ portText (host ++ port) = port := by
  unfold hostinfo portText
  rw [afterLast_of_notMem huser]
  simp only [if_neg hbracket]
  rcases hport with rfl | ⟨ds, rfl⟩
  · rw [List.append_nil]
    refine ⟨before_of_notMem hcolon, List.dropWhile_eq_nil_iff.mpr fun c hc => decide_eq_true ?_⟩
    rintro rfl
    exact hcolon hc
  · exact ⟨before_append_cons hcolon, dropWhile_append_cons hcolon⟩

/-- The host and the port of a net location with brackets. -/
theorem hostinfo_bracketed (huser : '@' ∉ '[' :: host ++ ']' :: port) (hclose : ']' ∉ host) :
    (hostinfo ('[' :: host ++ ']' :: port)).1 = host ∧
      portText ('[' :: host ++ ']' :: port) = port := by
  have hafter : after '[' ('[' :: host ++ ']' :: port) = host ++ ']' :: port :=
    @after_append_cons '[' [] _ List.not_mem_nil
  unfold hostinfo portText
  rw [afterLast_of_notMem huser]
  simp only [hafter, before_append_cons hclose, after_append_cons hclose]
  simp

/-- A net location without brackets and user information is its host and what follows it. -/
theorem eq_of_no_brackets (huser : '@' ∉ netloc) (hbracket : '[' ∉ netloc) :
    netloc = (hostinfo netloc).1 ++ portText netloc ∧ ':' ∉ (hostinfo netloc).1 := by
  unfold hostinfo portText
  rw [afterLast_of_notMem huser]
  simp only [if_neg hbracket]
  exact ⟨List.takeWhile_append_dropWhile.symm, notMem_before⟩

/-- A net location that has passed its checks has both brackets or none. -/
theorem mem_brackets_of_checkSplit (hcheck : checkSplit u netloc = .ok ()) :
    '[' ∈ netloc ↔ ']' ∈ netloc := by
  unfold checkSplit at hcheck
  split at hcheck
  · cases hcheck
  · rename_i hsame
    simpa using hsame

/-- A net location with brackets and without user information is the bracketed host and what
follows it. -/
theorem eq_of_brackets (huser : '@' ∉ netloc) (hcheck : checkSplit u netloc = .ok ())
    (hbracket : '[' ∈ netloc) :
    netloc = '[' :: (hostinfo netloc).1 ++ ']' :: portText netloc ∧
      ']' ∉ (hostinfo netloc).1 := by
  have hclose : ']' ∈ netloc := (mem_brackets_of_checkSplit hcheck).mp hbracket
  have hnetloc : checkBracketedNetloc u netloc = .ok () := by
    unfold checkSplit at hcheck
    rw [if_neg (by simp [hbracket, hclose]), if_pos hbracket] at hcheck
    split at hcheck
    · cases hcheck
    · assumption
  have hbefore : before '[' netloc = [] := by
    unfold checkBracketedNetloc at hnetloc
    rw [afterLast_of_notMem huser] at hnetloc
    simp only [if_pos hbracket] at hnetloc
    by_contra hne
    rw [if_pos hne] at hnetloc
    cases hnetloc
  have hopen : netloc = '[' :: after '[' netloc := by
    conv_lhs => rw [← before_append_after hbracket, hbefore, List.nil_append]
  have hinside : ']' ∈ after '[' netloc := by
    rw [hopen] at hclose
    exact (List.mem_cons.mp hclose).resolve_left (by decide)
  have hsplit := before_append_after hinside
  unfold hostinfo portText
  rw [afterLast_of_notMem huser]
  simp only [if_pos hbracket]
  refine ⟨?_, notMem_before⟩
  rw [List.cons_append, hsplit]
  exact hopen

end Netloc

/-! ## URLs that are written out -/

section Whole

variable {u : Unicode} {url : String} {parts : ParseResult} {scheme netloc path : List Char}

/-- Nothing is removed from a text that starts with a letter and has no tab or line break. -/
theorem cleaned_eq_self {url : List Char} (hhead : ∀ c, url.head? = some c → 32 < c.toNat)
    (hall : ∀ c ∈ url, c ≠ '\t' ∧ c ≠ '\r' ∧ c ≠ '\n') : cleaned url = url := by
  have hstart : url.dropWhile (·.toNat ≤ 32) = url := by
    match url, hhead with
    | [], _ => rfl
    | c :: cs, hhead =>
        have hlt := hhead c rfl
        rw [List.dropWhile_cons_of_neg (by simpa using hlt)]
  rw [cleaned, hstart]
  exact List.filter_eq_self.mpr fun c hc => decide_eq_true (hall c hc)

/-- A character of the cleaned text is neither a tab nor a line break. -/
theorem of_mem_cleaned {url : List Char} {c : Char} (h : c ∈ cleaned url) :
    c ≠ '\t' ∧ c ≠ '\r' ∧ c ≠ '\n' :=
  of_decide_eq_true (List.mem_filter.mp h).2

/-- The rest after the scheme is a part of the text. -/
theorem splitScheme_subset (url : List Char) : (splitScheme url).2 ⊆ url := by
  unfold splitScheme
  dsimp only
  split
  · exact ((List.tail_suffix _).trans (List.dropWhile_suffix _)).subset
  · exact List.Subset.refl _

/-- The net location is a part of the text, and contains no delimiter. -/
theorem of_mem_splitNetloc {url : List Char} {c : Char} (h : c ∈ (splitNetloc url).1) :
    c ∈ url ∧ isDelimiter c = false := by
  unfold splitNetloc at h
  split at h
  · refine ⟨List.mem_of_mem_drop ((List.takeWhile_prefix _).subset h), ?_⟩
    simpa using List.mem_takeWhile_imp h
  · exact absurd h List.not_mem_nil

/-- The net location has no delimiter, no tab and no line break, and has passed its checks. -/
theorem netloc_of_urlparse (h : urlparse u url = .ok parts) :
    (∀ c ∈ parts.netloc.toList,
      isDelimiter c = false ∧ c ≠ '\t' ∧ c ≠ '\r' ∧ c ≠ '\n') ∧
      checkSplit u parts.netloc.toList = .ok () := by
  unfold urlparse at h
  dsimp only at h
  split at h
  · cases h
  · rename_i hcheck
    obtain rfl := Except.ok.inj h
    simp only [String.toList_ofList]
    refine ⟨fun c hc => ?_, hcheck⟩
    obtain ⟨hurl, hdelimiter⟩ := of_mem_splitNetloc hc
    exact ⟨hdelimiter, of_mem_cleaned (splitScheme_subset _ hurl)⟩

/-- A scheme as it is written in lower case. -/
structure IsScheme (scheme : List Char) : Prop where
  alpha : scheme.head?.any Char.isAlpha = true
  chars : scheme.all isSchemeChar = true
  lower : scheme.map Char.toLower = scheme

/-- A character of a scheme is no blank, no colon and no control character. -/
theorem of_isSchemeChar {c : Char} (h : isSchemeChar c = true) : 32 < c.toNat ∧ c ≠ ':' := by
  constructor
  · by_contra hle
    have hlt : c.toNat < 33 := by omega
    revert h
    rw [show c = Char.ofNat c.toNat from (Char.ofNat_toNat c).symm]
    generalize c.toNat = n at hlt
    revert n
    decide
  · rintro rfl
    exact absurd h (by decide)

/-- The scheme of a URL that is written out. -/
theorem splitScheme_whole {rest : List Char} (h : IsScheme scheme) :
    splitScheme (scheme ++ ':' :: rest) = (scheme, rest) := by
  have hcolon : ':' ∉ scheme := fun hmem =>
    (of_isSchemeChar (List.all_eq_true.mp h.chars _ hmem)).2 rfl
  have hmem : ':' ∈ scheme ++ ':' :: rest := by simp
  unfold splitScheme
  simp only [before_append_cons hcolon, after_append_cons hcolon]
  rw [if_pos ⟨hmem, h.alpha, h.chars⟩, h.lower]

/-- The net location of a URL that is written out. -/
theorem splitNetloc_whole (hnetloc : ∀ c ∈ netloc, isDelimiter c = false)
    (hpath : path = [] ∨ path = ['/']) :
    splitNetloc ('/' :: '/' :: (netloc ++ path)) = (netloc, path) := by
  have hskip : ∀ c ∈ netloc, (!isDelimiter c) = true := fun c hc => by simp [hnetloc c hc]
  unfold splitNetloc
  rw [if_pos ⟨netloc ++ path, rfl⟩]
  simp only [List.drop_succ_cons, List.drop_zero]
  rw [List.takeWhile_append_of_pos hskip, List.dropWhile_append_of_pos hskip]
  rcases hpath with rfl | rfl
  · simp
  · rw [List.takeWhile_cons_of_neg (by decide), List.dropWhile_cons_of_neg (by decide)]
    simp

/-- The parts of a URL that is written out of a scheme, a net location and at most a slash. -/
theorem urlparse_whole (hurl : url.toList = scheme ++ ':' :: '/' :: '/' :: (netloc ++ path))
    (hscheme : IsScheme scheme)
    (hnetloc : ∀ c ∈ netloc, isDelimiter c = false ∧ c ≠ '\t' ∧ c ≠ '\r' ∧ c ≠ '\n')
    (hpath : path = [] ∨ path = ['/']) (h : urlparse u url = .ok parts) :
    parts.scheme.toList = scheme ∧ parts.netloc.toList = netloc ∧ parts.path.toList = path := by
  have hclean : cleaned url.toList = url.toList := by
    refine cleaned_eq_self (fun c hc => ?_) fun c hc => ?_
    · -- The text starts with the first letter of the scheme.
      rw [hurl] at hc
      match scheme, hscheme with
      | [], hscheme => exact absurd hscheme.alpha (by decide)
      | d :: ds, hscheme =>
          obtain rfl := Option.some.inj hc
          exact (of_isSchemeChar (List.all_eq_true.mp hscheme.chars _ List.mem_cons_self)).1
    · rw [hurl] at hc
      have hblank : ∀ d : Char, 32 < d.toNat → d ≠ '\t' ∧ d ≠ '\r' ∧ d ≠ '\n' := by
        intro d hd
        refine ⟨?_, ?_, ?_⟩ <;> rintro rfl <;> exact absurd hd (by decide)
      rcases List.mem_append.mp hc with hc | hc
      · exact hblank c (of_isSchemeChar (List.all_eq_true.mp hscheme.chars _ hc)).1
      · simp only [List.mem_cons, List.mem_append] at hc
        rcases hc with rfl | rfl | rfl | hc | hc
        · decide
        · decide
        · decide
        · exact (hnetloc c hc).2
        · rcases hpath with rfl | rfl
          · exact absurd hc List.not_mem_nil
          · rw [List.mem_singleton.mp hc]
            decide
  unfold urlparse at h
  rw [hclean, hurl, splitScheme_whole hscheme] at h
  simp only [splitNetloc_whole (fun c hc => (hnetloc c hc).1) hpath] at h
  split at h
  · cases h
  · obtain rfl := Except.ok.inj h
    simp only [String.toList_ofList]
    refine ⟨trivial, trivial, ?_⟩
    rcases hpath with rfl | rfl <;> split <;> rfl

end Whole

end UrlParse
