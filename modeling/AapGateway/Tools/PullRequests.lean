import Mathlib
import AapGateway.Foundations.Scan
import AapGateway.Foundations.Text

/-!
# The pull requests that a description requires

The checkout script reads the pull requests that a description names on the lines that say
`requires`, and checks out their repositories. It normalizes the name of a repository: the name is
put in lower case, and its `.git` is to be removed. `str.rstrip` takes the text `.git` as a set of
characters, though, so that every `.`, `g`, `i` and `t` at the end of a name is lost.

## Main definitions

* `parseAllGithubPrReferences`: the references of a description;
* `Occurrence`: a reference that is written on a line after the word `requires`;
* `NamesRepository`: every reference is read as the repository that it names.

## Main results

* `parseAllGithubPrReferences_eq`: a reference is read after those before it;
* `namesRepository_iff`: the repositories are the right ones exactly if no name ends in one of the
  four characters once its `.git` is removed.
-/

namespace AapGateway.Tools

open Matcher

/-! ### Reading the description -/

/-- `str.lower`, of which only this is used. -/
structure Lowering where
  lower : String → String
  lower_of_ascii : ∀ s, (∀ c ∈ s.toList, c.toNat < 128) →
    (lower s).toList = s.toList.map Char.toLower
  /-- What is in lower case stays as it is, and so does a part of it. -/
  lower_of_prefix : ∀ s t, t.toList <+: (lower s).toList → lower t = t

/-- A character as `re.IGNORECASE` compares it with a letter of `requires`. -/
def ignoreCase (c : Char) : Char :=
  if c = 'ı' ∨ c = 'İ' then 'i' else if c = 'ſ' then 's' else c.toLower

/-- `[a-zA-Z0-9_-]`. -/
def isOrgChar (c : Char) : Bool :=
  c.isAlphanum || c = '_' || c = '-'

/-- `[a-zA-Z0-9_.-]`. -/
def isRepoChar (c : Char) : Bool :=
  isOrgChar c || c = '.'

/-- `\d`. -/
def isDecimal (c : Char) : Bool :=
  Text.zeroDigits.any fun first => first ≤ c.toNat && c.toNat < first + 10

/-- `requires[^\n]*`. -/
def requiresPattern : Matcher Char (List Char) := fun text =>
  if "requires".toList.isPrefixOf (text.map ignoreCase) then
    -- no character of the word ends a line
    some (text.takeWhile (· ≠ '\n'), text.dropWhile (· ≠ '\n'))
  else none

/-- `https?://github\.com/`. -/
def ghPrefix : Matcher Char Unit :=
  literal "https://github.com/".toList <|> literal "http://github.com/".toList

/-- `/pull/|#`. -/
def separator : Matcher Char Unit :=
  literal "/pull/".toList <|> literal "#".toList

/-- A reference without the prefix. No run can be shorter than it is, since the character that has
to follow it is not of its class. -/
def orgRepoPattern : Matcher Char (List Char × List Char) := do
  let org ← oneOrMore isOrgChar
  literal ['/']
  let repo ← oneOrMore isRepoChar
  separator
  let prNum ← oneOrMore isDecimal
  return (org ++ '/' :: repo, prNum)

/-- `pr_pattern`: the prefix is optional. -/
def prPattern : Matcher Char (List Char × List Char) :=
  (do ghPrefix; orgRepoPattern) <|> orgRepoPattern

variable (casing : Lowering)

/-- `get_normalized_repo`. -/
def getNormalizedRepo (repo : String) : String :=
  String.ofList ((casing.lower repo).toList.rdropWhile (· ∈ ".git".toList))

/-- The references of a line from the word `requires` on. -/
def referencesOf (requiresText : List Char) : List String :=
  (findall prPattern requiresText).map fun m =>
    getNormalizedRepo casing (String.ofList m.1) ++ "#" ++ String.ofList m.2

/-- `parse_all_github_pr_references`. -/
def parseAllGithubPrReferences (prBody : String) : List String :=
  (findall requiresPattern prBody.toList).flatMap (referencesOf casing)

/-! ### References -/

/-- The two ways to write a reference. -/
inductive Form where
  | short
  | url
  deriving DecidableEq, Repr

/-- What is written before the organization. -/
def Form.start : Form → String
  | .short => ""
  | .url => "https://github.com/"

/-- What is written between the repository and the number. -/
def Form.middle : Form → String
  | .short => "#"
  | .url => "/pull/"

/-- `org/repo#n` or `https://github.com/org/repo/pull/n`. -/
structure Reference where
  form : Form
  org : List Char
  repo : List Char
  prNum : List Char
  org_ne_nil : org ≠ []
  isOrgChar_org : ∀ c ∈ org, isOrgChar c = true
  repo_ne_nil : repo ≠ []
  isRepoChar_repo : ∀ c ∈ repo, isRepoChar c = true
  prNum_ne_nil : prNum ≠ []
  isDecimal_prNum : ∀ c ∈ prNum, isDecimal c = true

/-- The reference as it is written. -/
def Reference.text (r : Reference) : List Char :=
  r.form.start.toList ++ (r.org ++ (['/'] ++ (r.repo ++ (r.form.middle.toList ++ r.prNum))))

/-- The name without one `.git` at its end. -/
def withoutGit (name : List Char) : List Char :=
  if ".git".toList <:+ name then name.take (name.length - 4) else name

/-- The reference in lower case, without the `.git` of its repository. -/
def Reference.normalized (r : Reference) : String :=
  String.ofList (r.org.map Char.toLower ++ '/' :: withoutGit (r.repo.map Char.toLower)) ++ "#" ++
    String.ofList r.prNum

/-- A character that may stand in `org/repo#n`. -/
def isReferenceChar (c : Char) : Bool :=
  isRepoChar c || isDecimal c || c = '/' || c = '#'

/-- A reference that is written on a line after the word `requires`. -/
structure Occurrence (prBody : String) where
  /-- The lines before. -/
  earlier : List Char
  /-- The line up to the reference. -/
  line : List Char
  reference : Reference
  rest : List Char
  prBody_eq : prBody.toList = earlier ++ line ++ (reference.text ++ rest)
  earlier_lines : earlier = [] ∨ ['\n'] <:+ earlier
  newline_notMem : '\n' ∉ line
  requires : "requires".toList <:+: line.map ignoreCase
  /-- The reference starts here. -/
  delimited : ∃ d, [d] <:+ line ∧ isReferenceChar d = false
  /-- The number ends here. -/
  rest_head : ∀ c ∈ rest.head?, isDecimal c = false

/-- The description up to the reference. -/
def Occurrence.before {prBody : String} (o : Occurrence prBody) : String :=
  String.ofList (o.earlier ++ o.line)

/-- Every reference on a line that says `requires` is read as it is named, after those before it,
and the name of a repository has a normal form, which only `.git` and upper case tell from it. -/
structure NamesRepository (prBody name : String) : Prop where
  references : ∀ o : Occurrence prBody, ∃ later,
    parseAllGithubPrReferences casing prBody =
      parseAllGithubPrReferences casing o.before ++ o.reference.normalized :: later
  idempotent : getNormalizedRepo casing (getNormalizedRepo casing name) =
    getNormalizedRepo casing name
  unchanged : casing.lower name = name → ¬".git".toList <:+ name.toList →
    getNormalizedRepo casing name = name

/-- The name ends in one of the characters of `.git`. -/
def EndsInMark (name : List Char) : Prop :=
  ∃ c ∈ name.getLast?, c ∈ ".git".toList

/-- No name ends in one of the characters of `.git` once its `.git` is removed. -/
structure KeepsNames (prBody name : String) : Prop where
  references : ∀ o : Occurrence prBody,
    ¬EndsInMark (withoutGit (o.reference.repo.map Char.toLower))
  name : casing.lower name = name → ¬".git".toList <:+ name.toList → ¬EndsInMark name.toList

/-! ### Reading one reference -/

theorem isRepoChar_of_isOrgChar {c : Char} (h : isOrgChar c = true) : isRepoChar c = true := by
  simp [isRepoChar, h]

theorem not_isReferenceChar_iff {c : Char} :
    isReferenceChar c = false ↔
      isRepoChar c = false ∧ isDecimal c = false ∧ c ≠ '/' ∧ c ≠ '#' := by
  simp [isReferenceChar, and_assoc]

theorem isOrgChar_eq_false {c : Char} (h : isReferenceChar c = false) : isOrgChar c = false := by
  have hrepo := (not_isReferenceChar_iff.mp h).1
  cases horg : isOrgChar c with
  | false => rfl
  | true => rw [isRepoChar_of_isOrgChar horg] at hrepo; exact hrepo

/-- The fixed texts of the pattern. -/
def fixedTexts : List (List Char) :=
  [['/'], "#".toList, "/pull/".toList, "https://github.com/".toList, "http://github.com/".toList]

/-- A fixed text can have the characters side by side. -/
def Adjoins (c c' : Char) : Prop :=
  isReferenceChar c = true ∨ isOrgChar c' = false

instance : DecidableRel Adjoins := fun _ _ => inferInstanceAs (Decidable (_ ∨ _))

/-- The colon of an address is followed by a slash, and no fixed text ends with it. -/
theorem adjoins_of_mem_fixedTexts :
    ∀ lit ∈ fixedTexts, lit.IsChain Adjoins ∧
      ∀ c ∈ lit.getLast?, isReferenceChar c = true := by
  simp [fixedTexts, Adjoins, isReferenceChar, isRepoChar, isOrgChar]

section Boundary

variable {d : Char} {more : List Char}

/-- No fixed text of the pattern reaches from before a reference into its organization. -/
theorem stopsAt_literal_of_mem {lit : List Char} (hlit : lit ∈ fixedTexts)
    (hd : isReferenceChar d = false) (hmore : ∀ c ∈ more.head?, isOrgChar c = true) :
    StopsAt (literal lit) d more := by
  obtain ⟨hchain, hlast⟩ := adjoins_of_mem_fixedTexts lit hlit
  apply stopsAt_literal
  · intro hsuffix
    have hdlast := hlast d (List.singleton_suffix_iff_getLast?_eq_some.mp hsuffix)
    rw [hd] at hdlast
    cases hdlast
  · intro c hc hinfix
    have hadjoins : Adjoins d c := by simpa using hchain.infix hinfix
    rcases hadjoins with hdref | hcorg
    · rw [hd] at hdref
      cases hdref
    · rw [hmore c hc] at hcorg
      cases hcorg

theorem stopsAt_orgRepoPattern (hd : isReferenceChar d = false)
    (hmore : ∀ c ∈ more.head?, isOrgChar c = true) : StopsAt orgRepoPattern d more := by
  obtain ⟨hrepo, hdecimal, -, -⟩ := not_isReferenceChar_iff.mp hd
  refine (stopsAt_oneOrMore (isOrgChar_eq_false hd)).bind fun _ => ?_
  refine (stopsAt_literal_of_mem (by simp [fixedTexts]) hd hmore).bind fun _ => ?_
  refine (stopsAt_oneOrMore hrepo).bind fun _ => ?_
  refine StopsAt.bind ?_ fun _ => ?_
  · exact (stopsAt_literal_of_mem (by simp [fixedTexts]) hd hmore).orElse
      (stopsAt_literal_of_mem (by simp [fixedTexts]) hd hmore)
  · exact (stopsAt_oneOrMore hdecimal).bind fun _ => stopsAt_pure _

/-- A match does not reach from before a reference into it. -/
theorem stopsAt_prPattern (hd : isReferenceChar d = false)
    (hmore : ∀ c ∈ more.head?, isOrgChar c = true) : StopsAt prPattern d more := by
  have hbody := stopsAt_orgRepoPattern hd hmore
  have haddress : StopsAt ghPrefix d more :=
    (stopsAt_literal_of_mem (by simp [fixedTexts]) hd hmore).orElse
      (stopsAt_literal_of_mem (by simp [fixedTexts]) hd hmore)
  exact (haddress.bind fun _ => hbody).orElse hbody

end Boundary

namespace Reference

variable (r : Reference)

/-- A reference starts with a character of an organization. -/
theorem isOrgChar_head_text {c : Char} (rest : List Char)
    (hc : c ∈ (r.text ++ rest).head?) : isOrgChar c = true := by
  cases hform : r.form with
  | short =>
    obtain ⟨a, org, horg⟩ := List.exists_cons_of_ne_nil r.org_ne_nil
    have hac : a = c := by simpa [text, hform, Form.start, horg] using hc
    rw [← hac]
    exact r.isOrgChar_org a (by simp [horg])
  | url =>
    have hch : 'h' = c := by simpa [text, hform, Form.start] using hc
    rw [← hch]
    decide

/-- The separator of either form is read. -/
theorem run_separator (rest : List Char) :
    separator.run (r.form.middle.toList ++ rest) = some ((), rest) := by
  rw [separator, run_orElse]
  cases r.form with
  | short =>
    have hpull : ¬"/pull/".toList <+: Form.short.middle.toList ++ rest := by simp [Form.middle]
    rw [run_literal_eq_none hpull, Form.middle, run_literal]
    rfl
  | url =>
    rw [Form.middle, run_literal]
    rfl

/-- The separator starts with a character that is not of a repository. -/
theorem isRepoChar_head_middle {c : Char} (rest : List Char)
    (hc : c ∈ (r.form.middle.toList ++ rest).head?) : isRepoChar c = false := by
  cases hform : r.form with
  | short =>
    have hsharp : '#' = c := by simpa [hform, Form.middle] using hc
    rw [← hsharp]
    decide
  | url =>
    have hslash : '/' = c := by simpa [hform, Form.middle] using hc
    rw [← hslash]
    decide

/-- A reference is read from its organization on. -/
theorem run_orgRepoPattern {rest : List Char} (hrest : ∀ c ∈ rest.head?, isDecimal c = false) :
    orgRepoPattern.run
        (r.org ++ (['/'] ++ (r.repo ++ (r.form.middle.toList ++ (r.prNum ++ rest))))) =
      some ((r.org ++ '/' :: r.repo, r.prNum), rest) := by
  have horg (tail : List Char) :
      (oneOrMore isOrgChar).run (r.org ++ (['/'] ++ tail)) = some (r.org, ['/'] ++ tail) :=
    run_oneOrMore r.org_ne_nil r.isOrgChar_org (by simp; decide)
  have hrepo (tail : List Char) :
      (oneOrMore isRepoChar).run (r.repo ++ (r.form.middle.toList ++ tail)) =
        some (r.repo, r.form.middle.toList ++ tail) :=
    run_oneOrMore r.repo_ne_nil r.isRepoChar_repo fun _ hc => r.isRepoChar_head_middle _ hc
  have hnum := run_oneOrMore r.prNum_ne_nil r.isDecimal_prNum hrest
  simp only [orgRepoPattern, StateT.run_bind, horg, run_literal, hrepo, run_separator, hnum,
    Option.bind_eq_bind, Option.bind_some]
  rfl

/-- The scheme of an address ends with a colon, and an organization with a slash. -/
theorem not_scheme_prefix {scheme address : List Char} (hscheme : ∀ c ∈ scheme, isOrgChar c = true)
    (rest : List Char) : ¬scheme ++ ':' :: address <+: r.org ++ ('/' :: rest) := by
  rintro ⟨more, heq⟩
  have hdrop := congrArg (List.dropWhile isOrgChar) heq
  have hcolon : isOrgChar ':' = false := by decide
  have hslash : isOrgChar '/' = false := by decide
  rw [List.append_assoc, List.dropWhile_append_of_pos hscheme,
    List.dropWhile_append_of_pos r.isOrgChar_org] at hdrop
  simp [hcolon, hslash] at hdrop

/-- A reference does not start with an address when its form is short. -/
theorem run_ghPrefix_eq_none (rest : List Char) :
    ghPrefix.run (r.org ++ ('/' :: rest)) = none := by
  have hhttps : "https://github.com/".toList = "https".toList ++ ':' :: "//github.com/".toList := by
    simp
  have hhttp : "http://github.com/".toList = "http".toList ++ ':' :: "//github.com/".toList := by
    simp
  rw [ghPrefix, run_orElse, hhttps, hhttp, run_literal_eq_none, run_literal_eq_none]
  · rfl
  · exact r.not_scheme_prefix (by simp; decide) rest
  · exact r.not_scheme_prefix (by simp; decide) rest

/-- A reference is read as a whole. -/
theorem run_prPattern {rest : List Char} (hrest : ∀ c ∈ rest.head?, isDecimal c = false) :
    prPattern.run (r.text ++ rest) = some ((r.org ++ '/' :: r.repo, r.prNum), rest) := by
  have hbody := r.run_orgRepoPattern hrest
  rw [prPattern, run_orElse, StateT.run_bind]
  cases hform : r.form with
  | short =>
    have htext : r.text ++ rest =
        r.org ++ (['/'] ++ (r.repo ++ (r.form.middle.toList ++ (r.prNum ++ rest)))) := by
      simp [text, hform, Form.start]
    have haddress := r.run_ghPrefix_eq_none
      (r.repo ++ (r.form.middle.toList ++ (r.prNum ++ rest)))
    rw [htext, hbody]
    rw [List.singleton_append, haddress]
    rfl
  | url =>
    have htext : r.text ++ rest = "https://github.com/".toList ++
        (r.org ++ (['/'] ++ (r.repo ++ (r.form.middle.toList ++ (r.prNum ++ rest))))) := by
      simp [text, hform, Form.start]
    have haddress (tail : List Char) :
        ghPrefix.run ("https://github.com/".toList ++ tail) = some ((), tail) := by
      rw [ghPrefix, run_orElse, run_literal]
      rfl
    rw [htext, haddress, Option.bind_eq_bind, Option.bind_some, hbody]
    rfl

/-- No character of a reference ends a line. -/
theorem newline_notMem_text : '\n' ∉ r.text := by
  have hclass {p : Char → Bool} {cs : List Char} (hcs : ∀ c ∈ cs, p c = true)
      (hp : p '\n' = false) : '\n' ∉ cs := fun hmem => by
    rw [hcs _ hmem] at hp
    cases hp
  have horg := hclass r.isOrgChar_org (by decide)
  have hrepo := hclass r.isRepoChar_repo (by decide)
  have hnum := hclass r.isDecimal_prNum (by decide)
  cases hform : r.form with
  | short => simp [text, hform, Form.start, Form.middle, horg, hrepo, hnum]
  | url => simp [text, hform, Form.start, Form.middle, horg, hrepo, hnum]

end Reference

/-! ### Reading a line -/

/-- A line that says `requires` is read from that word to its end, whatever is written after it. -/
theorem findall_requiresPattern_line {line : List Char} (hline : '\n' ∉ line)
    (hrequires : "requires".toList <:+: line.map ignoreCase) :
    ∃ start, start ≠ [] ∧ start <:+ line ∧ ∀ more,
      findall requiresPattern (line ++ more) =
        (start ++ more.takeWhile (· ≠ '\n')) ::
          findall requiresPattern (more.dropWhile (· ≠ '\n')) := by
  -- the word is where the line starts, or it is on what comes after the first character
  induction line with
  | nil => simp at hrequires
  | cons c line ih =>
    have htail : '\n' ∉ line := fun hmem => hline (List.mem_cons_of_mem c hmem)
    by_cases hstart : "requires".toList <+: (c :: line).map ignoreCase
    · refine ⟨c :: line, by simp, List.suffix_rfl, fun more => ?_⟩
      have hword : "requires".toList <+: (c :: line ++ more).map ignoreCase := by
        rw [List.map_append]
        exact hstart.trans (List.prefix_append _ _)
      have hclass : ∀ a ∈ c :: line, (decide (a ≠ '\n')) = true := fun a ha =>
        decide_eq_true fun heq => hline (heq ▸ ha)
      have hrun : requiresPattern.run
          ((c :: line ++ more.takeWhile (· ≠ '\n')) ++ more.dropWhile (· ≠ '\n')) =
            some (c :: line ++ more.takeWhile (· ≠ '\n'), more.dropWhile (· ≠ '\n')) := by
        rw [List.append_assoc, List.takeWhile_append_dropWhile]
        simp only [StateT.run, requiresPattern]
        rw [if_pos (List.isPrefixOf_iff_prefix.mpr hword),
          List.takeWhile_append_of_pos hclass, List.dropWhile_append_of_pos hclass]
      have hfind := findall_of_run (by simp) hrun
      rwa [List.append_assoc, List.takeWhile_append_dropWhile] at hfind
    · rw [List.map_cons, List.infix_cons_iff] at hrequires
      have hrest := hrequires.resolve_left hstart
      obtain ⟨start, hne, hsuffix, hfind⟩ := ih htail hrest
      refine ⟨start, hne, hsuffix.trans (List.suffix_cons c line), fun more => ?_⟩
      have hnone : requiresPattern.run (c :: (line ++ more)) = none := by
        simp only [StateT.run, requiresPattern]
        rw [if_neg]
        intro hword
        -- the word is as long as on the rest of the line, so it would end on the line
        have hlong := List.isPrefixOf_iff_prefix.mp hword
        rw [← List.cons_append, List.map_append] at hlong
        refine hstart (List.prefix_of_prefix_length_le hlong (List.prefix_append _ _) ?_)
        have hlength := hrest.length_le
        simp only [List.map_cons, List.length_cons]
        omega
      rw [List.cons_append, findall_cons_of_run_eq_none hnone, hfind]

/-- A line is read up to its end. -/
theorem stopsAt_requiresPattern (more : List Char) : StopsAt requiresPattern '\n' more where
  run_append {text} h := by
    have htake : (text ++ more).takeWhile (· ≠ '\n') = text.takeWhile (· ≠ '\n') :=
      takeWhile_append (by decide) h
    have hdrop : (text ++ more).dropWhile (· ≠ '\n') = text.dropWhile (· ≠ '\n') ++ more :=
      dropWhile_append (by decide) h
    have hiff : "requires".toList <+: (text ++ more).map ignoreCase ↔
        "requires".toList <+: text.map ignoreCase := by
      rw [List.map_append]
      refine ⟨fun hlong => ?_, fun hshort => hshort.trans (List.prefix_append _ _)⟩
      rcases List.prefix_or_prefix_of_prefix hlong (List.prefix_append _ _) with hle | hge
      · exact hle
      · -- otherwise the end of the line would be a character of the word
        have hmem : ignoreCase '\n' ∈ "requires".toList :=
          hge.subset (List.mem_map_of_mem (h.subset (List.mem_singleton_self _)))
        exact absurd hmem (by simp; decide)
    simp only [StateT.run, requiresPattern, List.isPrefixOf_iff_prefix, hiff,
      htake, hdrop]
    split <;> rfl
  suffix {text b rest} h hrun := by
    simp only [StateT.run, requiresPattern] at hrun
    split at hrun
    · obtain ⟨-, rfl⟩ := Prod.ext_iff.mp (Option.some.inj hrun)
      exact suffix_dropWhile (by decide) h
    · cases hrun

/-! ### Reading a description -/

/-- A reference as the parser returns it. -/
def Reference.read (r : Reference) : String :=
  getNormalizedRepo casing (String.ofList (r.org ++ '/' :: r.repo)) ++ "#" ++ String.ofList r.prNum

/-- The text of a line up to a reference is read as it is without what follows, and the reference is
read after it. -/
theorem referencesOf_append (r : Reference) {start rest : List Char} {d : Char}
    (hstart : [d] <:+ start) (hd : isReferenceChar d = false)
    (hrest : ∀ c ∈ rest.head?, isDecimal c = false) :
    referencesOf casing (start ++ (r.text ++ rest)) =
      referencesOf casing start ++ r.read casing :: referencesOf casing rest := by
  have hne : r.text ≠ [] := by simp [Reference.text, r.org_ne_nil]
  have hstops := stopsAt_prPattern hd fun _ hc => r.isOrgChar_head_text rest hc
  rw [referencesOf, findall_append hstops (.inr hstart),
    findall_of_run hne (r.run_prPattern hrest), List.map_append, List.map_cons]
  rfl

/-- A reference is read after those before it. -/
theorem parseAllGithubPrReferences_eq {prBody : String} (o : Occurrence prBody) :
    ∃ later, parseAllGithubPrReferences casing prBody =
      parseAllGithubPrReferences casing o.before ++ o.reference.read casing :: later := by
  obtain ⟨start, hne, hsuffix, hfind⟩ := findall_requiresPattern_line o.newline_notMem o.requires
  obtain ⟨d, hdline, hd⟩ := o.delimited
  -- the reference is on the part of its line that is read
  have hdstart : [d] <:+ start :=
    List.suffix_of_suffix_length_le hdline hsuffix (List.length_pos_iff.mpr hne)
  have hcut : ∀ c ∈ (o.rest.takeWhile (· ≠ '\n')).head?, isDecimal c = false := by
    intro c hc
    obtain ⟨cut, hcut⟩ := List.head?_eq_some_iff.mp hc
    obtain ⟨later, hlater⟩ := List.takeWhile_prefix (l := o.rest) (· ≠ '\n')
    apply o.rest_head
    rw [← hlater, hcut]
    rfl
  have hclass : ∀ c ∈ o.reference.text, (decide (c ≠ '\n')) = true := fun c hc =>
    decide_eq_true fun heq => o.reference.newline_notMem_text (heq ▸ hc)
  have hlines (more : List Char) :
      findall requiresPattern (o.earlier ++ o.line ++ more) =
        findall requiresPattern o.earlier ++ (start ++ more.takeWhile (· ≠ '\n')) ::
          findall requiresPattern (more.dropWhile (· ≠ '\n')) := by
    rw [List.append_assoc, findall_append (stopsAt_requiresPattern _) o.earlier_lines, hfind]
  have hbefore : parseAllGithubPrReferences casing o.before =
      (findall requiresPattern o.earlier).flatMap (referencesOf casing) ++
        referencesOf casing start := by
    have hline := hlines []
    rw [List.append_nil] at hline
    rw [parseAllGithubPrReferences, Occurrence.before, String.toList_ofList, hline]
    simp [findall, scan]
  refine ⟨referencesOf casing (o.rest.takeWhile (· ≠ '\n')) ++
    (findall requiresPattern ((o.reference.text ++ o.rest).dropWhile (· ≠ '\n'))).flatMap
      (referencesOf casing), ?_⟩
  rw [hbefore, parseAllGithubPrReferences, o.prBody_eq, hlines,
    List.takeWhile_append_of_pos hclass, List.flatMap_append, List.flatMap_cons,
    referencesOf_append casing _ hdstart hd hcut]
  simp

/-- A reference is read as it is named if it is normalized to its name. -/
theorem exists_later_iff {prBody : String} (o : Occurrence prBody) :
    (∃ later, parseAllGithubPrReferences casing prBody =
      parseAllGithubPrReferences casing o.before ++ o.reference.normalized :: later) ↔
      o.reference.read casing = o.reference.normalized := by
  obtain ⟨later, hlater⟩ := parseAllGithubPrReferences_eq casing o
  constructor
  · rintro ⟨later', hlater'⟩
    rw [hlater] at hlater'
    exact (List.cons.inj (List.append_cancel_left hlater')).1
  · intro hread
    exact ⟨later, hread ▸ hlater⟩

/-! ### Normalizing a name -/

/-- What is left of a name that does not end in one of the characters. -/
theorem rdropWhile_eq_self_iff (name : List Char) :
    name.rdropWhile (· ∈ ".git".toList) = name ↔ ¬EndsInMark name := by
  rw [List.rdropWhile_eq_self_iff]
  constructor
  · rintro h ⟨c, hc, hmark⟩
    obtain ⟨before, rfl⟩ := List.getLast?_eq_some_iff.mp hc
    exact h (by simp) (by simpa using hmark)
  · intro h hne hmark
    exact h ⟨_, List.getLast?_eq_some_getLast hne, by simpa using hmark⟩

/-- The `.git` at the end of a name is lost with the characters before it. -/
theorem rdropWhile_withoutGit (name : List Char) :
    (withoutGit name).rdropWhile (· ∈ ".git".toList) = name.rdropWhile (· ∈ ".git".toList) := by
  rw [withoutGit]
  split
  · rename_i hgit
    obtain ⟨before, rfl⟩ := hgit
    have htake :
        (before ++ ".git".toList).take ((before ++ ".git".toList).length - 4) = before := by simp
    rw [htake]
    simp [List.rdropWhile]
  · rfl

/-- A name loses nothing but its `.git`. -/
theorem rdropWhile_eq_withoutGit_iff (name : List Char) :
    name.rdropWhile (· ∈ ".git".toList) = withoutGit name ↔ ¬EndsInMark (withoutGit name) := by
  rw [← rdropWhile_withoutGit, rdropWhile_eq_self_iff]

/-- What comes before a character that is not of the class stays. -/
theorem rdropWhile_append_cons {p : Char → Bool} {a : Char} (ha : p a = false)
    (before after : List Char) :
    (before ++ a :: after).rdropWhile p = before ++ a :: after.rdropWhile p := by
  induction after using List.reverseRecOn with
  | nil => rw [List.rdropWhile_nil, List.rdropWhile_concat_neg _ _ _ (by simp [ha])]
  | append_singleton after b ih =>
    rw [← List.cons_append, ← List.append_assoc, List.rdropWhile_concat, List.rdropWhile_concat]
    split
    · exact ih
    · simp

theorem toNat_lt_of_isRepoChar {c : Char} (h : isRepoChar c = true) : c.toNat < 128 := by
  simp only [isRepoChar, isOrgChar, Char.isAlphanum, Char.isAlpha, Char.isUpper, Char.isLower,
    Char.isDigit, Bool.or_eq_true, Bool.and_eq_true, decide_eq_true_eq, UInt32.le_iff_toNat_le] at h
  rcases h with ((((h | h) | h) | rfl) | rfl) | rfl
  · have hupper : c.toNat ≤ 90 := h.2
    omega
  · have hlower : c.toNat ≤ 122 := h.2
    omega
  · have hdigit : c.toNat ≤ 57 := h.2
    omega
  · decide
  · decide
  · decide

/-- The name of a repository is one of ASCII. -/
theorem Reference.lower_name (r : Reference) :
    (casing.lower (String.ofList (r.org ++ '/' :: r.repo))).toList =
      r.org.map Char.toLower ++ '/' :: r.repo.map Char.toLower := by
  have hascii : ∀ c ∈ r.org ++ '/' :: r.repo, c.toNat < 128 := by
    intro c hc
    rcases List.mem_append.mp hc with horg | hrest
    · exact toNat_lt_of_isRepoChar (isRepoChar_of_isOrgChar (r.isOrgChar_org c horg))
    · rcases List.mem_cons.mp hrest with rfl | hrepo
      · decide
      · exact toNat_lt_of_isRepoChar (r.isRepoChar_repo c hrepo)
  rw [casing.lower_of_ascii _ (by simpa using hascii)]
  simp

/-- A reference is read as it is named unless its repository loses more than its `.git`. -/
theorem Reference.read_eq_normalized_iff (r : Reference) :
    r.read casing = r.normalized ↔ ¬EndsInMark (withoutGit (r.repo.map Char.toLower)) := by
  have hread : r.read casing = String.ofList (r.org.map Char.toLower ++
      '/' :: (r.repo.map Char.toLower).rdropWhile (· ∈ ".git".toList)) ++ "#" ++
        String.ofList r.prNum := by
    rw [read, getNormalizedRepo, r.lower_name, rdropWhile_append_cons (by decide)]
  rw [hread, normalized, ← rdropWhile_eq_withoutGit_iff, ← String.toList_inj]
  simp

theorem toList_getNormalizedRepo (name : String) :
    (getNormalizedRepo casing name).toList =
      (casing.lower name).toList.rdropWhile (· ∈ ".git".toList) :=
  String.toList_ofList

/-- A name that has been normalized is normalized. -/
theorem getNormalizedRepo_idempotent (name : String) :
    getNormalizedRepo casing (getNormalizedRepo casing name) = getNormalizedRepo casing name := by
  have hlower : casing.lower (getNormalizedRepo casing name) = getNormalizedRepo casing name := by
    apply casing.lower_of_prefix name
    rw [toList_getNormalizedRepo]
    exact List.rdropWhile_prefix _ _
  apply String.toList_inj.mp
  rw [toList_getNormalizedRepo, hlower, toList_getNormalizedRepo, List.rdropWhile_idempotent]

/-- A name in lower case is left alone if it does not end in one of the characters. -/
theorem getNormalizedRepo_eq_self_iff {name : String} (h : casing.lower name = name) :
    getNormalizedRepo casing name = name ↔ ¬EndsInMark name.toList := by
  rw [← rdropWhile_eq_self_iff, ← String.toList_inj, toList_getNormalizedRepo, h]

/-- The references of a description are read as the repositories that they name, and the normal form
of a name is what it should be, exactly if no name ends in one of the four characters once its
`.git` is removed. -/
theorem namesRepository_iff (prBody name : String) :
    NamesRepository casing prBody name ↔ KeepsNames casing prBody name := by
  constructor
  · rintro ⟨hreferences, -, hunchanged⟩
    refine ⟨fun o => ?_, fun hlower hgit => ?_⟩
    · rw [← o.reference.read_eq_normalized_iff casing, ← exists_later_iff]
      exact hreferences o
    · rw [← getNormalizedRepo_eq_self_iff casing hlower]
      exact hunchanged hlower hgit
  · rintro ⟨hreferences, hname⟩
    refine ⟨fun o => ?_, getNormalizedRepo_idempotent casing name, fun hlower hgit => ?_⟩
    · rw [exists_later_iff, o.reference.read_eq_normalized_iff casing]
      exact hreferences o
    · rw [getNormalizedRepo_eq_self_iff casing hlower]
      exact hname hlower hgit

/-- `str.lower` on ASCII. -/
def asciiLowering : Lowering where
  lower s := String.ofList (s.toList.map Char.toLower)
  lower_of_ascii s _ := by simp
  lower_of_prefix s t h := by
    rw [String.toList_ofList] at h
    have hfixed : ∀ c ∈ t.toList, c.toLower = id c := by
      intro c hc
      obtain ⟨a, -, rfl⟩ := List.mem_map.mp (h.subset hc)
      exact Char.toLower_toLower_eq_toLower a
    rw [List.map_congr_left hfixed, List.map_id, String.ofList_toList]

/-- `ansible/config#12`. -/
def configReference : Reference where
  form := .short
  org := "ansible".toList
  repo := "config".toList
  prNum := "12".toList
  org_ne_nil := by simp
  isOrgChar_org := by simp; decide
  repo_ne_nil := by simp
  isRepoChar_repo := by simp; decide
  prNum_ne_nil := by simp
  isDecimal_prNum := by simp; decide

/-- The reference in a description of one line. -/
def configOccurrence : Occurrence "Requires ansible/config#12" where
  earlier := []
  line := "Requires ".toList
  reference := configReference
  rest := []
  prBody_eq := by simp [Reference.text, configReference, Form.start, Form.middle]
  earlier_lines := .inl rfl
  newline_notMem := by simp
  requires := by simp; decide
  delimited := ⟨' ', by simp; decide, by decide⟩
  rest_head := by simp

/-- A description requires `ansible/config`, and `ansible/conf` is checked out. -/
theorem not_namesRepository_config :
    ¬NamesRepository asciiLowering "Requires ansible/config#12" "ansible/jewel" := by
  rintro ⟨hreferences, -, -⟩
  have hread := (exists_later_iff asciiLowering configOccurrence).mp (hreferences configOccurrence)
  apply (configReference.read_eq_normalized_iff asciiLowering).mp hread
  exact ⟨'g', by decide +kernel, by simp⟩

/-! ### The repositories that are always cloned -/

/-- `$`: the end of the text, or of its only line. -/
def endOfText : Matcher Char Unit := fun text =>
  if text = [] ∨ text = ['\n'] then some ((), text) else none

/-- `\[org1|org2|…\]/`. -/
def orgListPattern : Matcher Char (List (List Char)) := do
  literal ['[']
  let orgList ← oneOrMore fun c => isOrgChar c || c = '|'
  literal "]/".toList
  if 2 ≤ (orgList.splitOn '|').length ∧ [] ∉ orgList.splitOn '|' then
    return orgList.splitOn '|'
  else failure

/-- `org/`. -/
def singleOrgPattern : Matcher Char (List (List Char)) := do
  let org ← oneOrMore isOrgChar
  literal ['/']
  return [org]

/-- `repo_pattern`. -/
def repoPattern : Matcher Char (List (List Char) × List Char) := do
  let orgs ← orgListPattern <|> singleOrgPattern
  let repoName ← oneOrMore isRepoChar
  endOfText
  return (orgs, repoName)

/-- The variants of one specification. -/
def repoVariants (repoSpec : String) : Option (List String) :=
  (repoPattern.run repoSpec.toList).map fun m =>
    m.1.1.map fun org => getNormalizedRepo casing (String.ofList (org ++ '/' :: m.1.2))

/-- `parse_and_validate_repo_specs`. The error is the list of the invalid specifications. -/
def parseAndValidateRepoSpecs (repoSpecs : List String) :
    Except (List String) (List (List String)) :=
  match repoSpecs.filter fun repoSpec => (repoVariants casing repoSpec).isNone with
  | [] => .ok (repoSpecs.filterMap (repoVariants casing))
  | invalidRepos => .error invalidRepos

/-- A specification names at least one organization. -/
theorem yields_repoPattern : Yields repoPattern fun m => m.1 ≠ [] := by
  have hlist : Yields orgListPattern (· ≠ []) := by
    refine yields_true.bind fun _ _ => yields_true.bind fun _ _ => yields_true.bind fun _ _ => ?_
    split
    · rename_i horgs
      refine yields_pure fun hnil => ?_
      rw [hnil] at horgs
      simp at horgs
    · exact yields_failure
  have hsingle : Yields singleOrgPattern (· ≠ []) :=
    yields_true.bind fun _ _ => yields_true.bind fun _ _ => yields_pure (by simp)
  refine (hlist.orElse hsingle).bind fun orgs horgs => ?_
  exact yields_true.bind fun _ _ => yields_true.bind fun _ _ => yields_pure horgs

/-- A specification that is accepted has variants, and their names are in normal form. -/
theorem normalized_of_repoVariants {repoSpec : String} {variants : List String}
    (h : repoVariants casing repoSpec = some variants) :
    variants ≠ [] ∧ ∀ repo ∈ variants, getNormalizedRepo casing repo = repo := by
  obtain ⟨m, hrun, rfl⟩ := Option.map_eq_some_iff.mp h
  refine ⟨?_, fun repo hrepo => ?_⟩
  · exact List.map_eq_nil_iff.not.mpr (yields_repoPattern.of_run hrun)
  · obtain ⟨org, -, rfl⟩ := List.mem_map.mp hrepo
    exact getNormalizedRepo_idempotent casing _

/-- The specifications are accepted if each of them is valid. -/
theorem parseAndValidateRepoSpecs_eq_ok_iff {repoSpecs : List String}
    {alwaysCloneRepos : List (List String)} :
    parseAndValidateRepoSpecs casing repoSpecs = .ok alwaysCloneRepos ↔
      repoSpecs.map (repoVariants casing) = alwaysCloneRepos.map some := by
  rw [parseAndValidateRepoSpecs]
  split
  · rename_i hvalid
    have hsome : ∀ variants ∈ repoSpecs.map (repoVariants casing), variants.isSome := by
      simpa [Option.isSome_iff_ne_none] using hvalid
    have hmap : repoSpecs.map (repoVariants casing) =
        (repoSpecs.filterMap (repoVariants casing)).map some := by
      rw [List.map_filterMap_some_eq_filter_map_isSome, List.filter_eq_self.mpr hsome]
    rw [hmap, (List.map_injective_iff.mpr (Option.some_injective _)).eq_iff, Except.ok.injEq]
  · rename_i hinvalid
    refine iff_of_false (by simp) fun hmap => hinvalid ?_
    -- a specification that is not valid would have variants
    rw [List.filter_eq_nil_iff]
    intro repoSpec hmem hnone
    have hvariants : repoVariants casing repoSpec ∈ alwaysCloneRepos.map some :=
      hmap ▸ List.mem_map_of_mem hmem
    obtain ⟨variants, -, hsome⟩ := List.mem_map.mp hvariants
    rw [← hsome] at hnone
    cases hnone

end AapGateway.Tools
