import AapGateway.Foundations.ReplaceUpTo

/-!
# Lua patterns

`string.gsub` and `string.match` of Lua 5.1. A Lua string is a sequence of bytes, and a byte is kept
as the character of its number. What is wrong with a pattern or with a replacement is found when the
matcher comes to it, so that a malformed pattern may do no harm on one text and fail on another.

## Main definitions

* `Item` and `nextItem`: the parts of a pattern, and the first of them;
* `matchHere`: the matcher, at one position;
* `gsub` and `isMatch`: `string.gsub`, and whether `string.match` finds anything;
* `Spells` and `Template`: patterns and replacements that stand for one text;
* `Literal`: texts that stand for themselves as both.

## Main results

* `gsubUpTo_of_spells`: with such a pattern and such a replacement, `gsub` replaces text by text, up
  to a number of times if it is told so;
* `isMatch_of_spells`: such a pattern is found exactly in the texts that contain its text;
* `exists_gsub_of_tame`: patterns of single characters never fail.
-/

namespace Lua

/-- What a pattern or a replacement fails with. -/
inductive PatternError where
  /-- "malformed pattern (ends with '%')". -/
  | endsWithEscape
  /-- "malformed pattern (missing ']')". -/
  | missingBracket
  /-- "missing '[' after '%f' in pattern". -/
  | missingSet
  /-- "unbalanced pattern". -/
  | unbalanced
  /-- "too many captures". -/
  | tooManyCaptures
  /-- "invalid pattern capture". -/
  | invalidPatternCapture
  /-- "invalid capture index". -/
  | invalidCaptureIndex
  /-- "unfinished capture". -/
  | unfinishedCapture
  deriving DecidableEq, Repr

/-- `isspace(c)`. -/
def isSpace (c : Char) : Bool :=
  c = ' ' || 9 ≤ c.toNat && c.toNat ≤ 13

/-- `ispunct(c)`. -/
def isPunct (c : Char) : Bool :=
  32 < c.toNat && c.toNat < 127 && !c.isAlphanum

/-- `iscntrl(c)`. -/
def isControl (c : Char) : Bool :=
  c.toNat < 32 || c.toNat = 127

/-- `isxdigit(c)`. -/
def isHexDigit (c : Char) : Bool :=
  c.isDigit || 'a' ≤ c && c ≤ 'f' || 'A' ≤ c && c ≤ 'F'

/-- `match_class`: a class is named by a letter, a capital one for its complement, and any other
character after a `%` is that character. -/
def matchClass (c cl : Char) : Bool :=
  let res : Option Bool :=
    match cl.toLower with
    | 'a' => some c.isAlpha
    | 'c' => some (isControl c)
    | 'd' => some c.isDigit
    | 'l' => some c.isLower
    | 'p' => some (isPunct c)
    | 's' => some (isSpace c)
    | 'u' => some c.isUpper
    | 'w' => some c.isAlphanum
    | 'x' => some (isHexDigit c)
    | 'z' => some (c.toNat = 0)
    | _ => none
  match res with
  | none => cl = c
  | some res => if cl.isLower then res else !res

/-- Whether a character is in what stands between the brackets of a set. -/
def inSet (c : Char) : List Char → Bool
  | [] => false
  | ['%'] => c = ']'
  | '%' :: cl :: set => matchClass c cl || inSet c set
  | a :: '-' :: b :: set => a ≤ c && c ≤ b || inSet c set
  | a :: set => a = c || inSet c set

/-- `matchbracketclass`. -/
def matchBracketClass (c : Char) : List Char → Bool
  | '^' :: set => !inSet c set
  | set => inSet c set

/-- Up to the bracket that closes a set: what is in the set, and what follows it. -/
def setTail : List Char → Option (List Char × List Char)
  | [] => none
  | ']' :: p => some ([], p)
  | '%' :: c :: p => (setTail p).map fun (set, rest) => ('%' :: c :: set, rest)
  | c :: p => (setTail p).map fun (set, rest) => (c :: set, rest)

/-- The same from the first character in a set, which may be a bracket. -/
def setBody : List Char → Option (List Char × List Char)
  | [] => none
  | '%' :: c :: p => (setTail p).map fun (set, rest) => ('%' :: c :: set, rest)
  | c :: p => (setTail p).map fun (set, rest) => (c :: set, rest)

/-- The same from the opening bracket on. -/
def setEnd : List Char → Except PatternError (List Char × List Char)
  | '^' :: p =>
    match setBody p with
    | none => .error .missingBracket
    | some (set, rest) => .ok ('^' :: set, rest)
  | p =>
    match setBody p with
    | none => .error .missingBracket
    | some (set, rest) => .ok (set, rest)

/-- The part of a pattern that one character is matched with. -/
inductive Single where
  | any
  | escaped (cl : Char)
  | set (contents : List Char)
  | char (c : Char)
  deriving DecidableEq, Repr

/-- `singlematch`. -/
def Single.matches (c : Char) : Single → Bool
  | .any => true
  | .escaped cl => matchClass c cl
  | .set contents => matchBracketClass c contents
  | .char a => a = c

/-- How often a part is to be matched. -/
inductive Repeat where
  | once
  | optional
  | star
  | plus
  | minus
  deriving DecidableEq, Repr

/-- What a part is followed by. -/
def quantifier : List Char → Repeat × List Char
  | '?' :: p => (.optional, p)
  | '*' :: p => (.star, p)
  | '+' :: p => (.plus, p)
  | '-' :: p => (.minus, p)
  | p => (.once, p)

/-- A part of a pattern, with the pattern after it. -/
inductive Item where
  | finish
  | openCapture (isPosition : Bool) (p : List Char)
  | closeCapture (p : List Char)
  | balance (b e : Char) (p : List Char)
  | frontier (set : List Char) (p : List Char)
  | back (digit : Char) (p : List Char)
  | atEnd
  | single (s : Single) (r : Repeat) (p : List Char)
  deriving DecidableEq, Repr

/-- A part that one character is matched with, and how often. -/
def singleItem (c : Char) (p : List Char) : Except PatternError Item :=
  match c, p with
  | '%', [] => .error .endsWithEscape
  | '%', cl :: p => .ok (.single (.escaped cl) (quantifier p).1 (quantifier p).2)
  | '[', p => (setEnd p).map fun (set, p) => .single (.set set) (quantifier p).1 (quantifier p).2
  | '.', p => .ok (.single .any (quantifier p).1 (quantifier p).2)
  | c, p => .ok (.single (.char c) (quantifier p).1 (quantifier p).2)

/-- The first part of a pattern. -/
def nextItem : List Char → Except PatternError Item
  | [] => .ok .finish
  | '(' :: ')' :: p => .ok (.openCapture true p)
  | '(' :: p => .ok (.openCapture false p)
  | ')' :: p => .ok (.closeCapture p)
  | '%' :: 'b' :: b :: e :: p => .ok (.balance b e p)
  | '%' :: 'b' :: _ => .error .unbalanced
  | '%' :: 'f' :: '[' :: p => (setEnd p).map fun (set, p) => .frontier set p
  | '%' :: 'f' :: _ => .error .missingSet
  | ['$'] => .ok .atEnd
  | '%' :: d :: p => if d.isDigit then .ok (.back d p) else singleItem '%' (d :: p)
  | c :: p => singleItem c p

/-! ## The matcher -/

/-- The length of a capture. -/
inductive CaptureLength where
  | unfinished
  | position
  | closed (len : ℕ)
  deriving DecidableEq, Repr

/-- A capture: where it begins, and its length. -/
structure Capture where
  init : ℕ
  len : CaptureLength
  deriving DecidableEq, Repr

/-- `LUA_MAXCAPTURES`. -/
def maxCaptures : ℕ := 32

/-- `capture_to_close`: the last capture that is unfinished. -/
def captureToClose (captures : List Capture) : Option ℕ :=
  ((List.range captures.length).filter fun l =>
    captures[l]?.any fun capture => capture.len = .unfinished).getLast?

/-- The end of a balanced text, in what follows its first character. -/
def balanceFrom (b e : Char) : ℕ → ℕ → List Char → Option ℕ
  | _, _, [] => none
  | s, cont, c :: cs =>
    if c = e then if cont = 1 then some (s + 1) else balanceFrom b e (s + 1) (cont - 1) cs
    else if c = b then balanceFrom b e (s + 1) (cont + 1) cs
    else balanceFrom b e (s + 1) cont cs

/-- `matchbalance`. -/
def matchBalance (src : List Char) (s : ℕ) (b e : Char) : Option ℕ :=
  if src[s]? = some b then balanceFrom b e (s + 1) 1 (src.drop (s + 1)) else none

/-- `match_capture`. -/
def matchCapture (src : List Char) (captures : List Capture) (s : ℕ) (digit : Char) :
    Except PatternError (Option ℕ) :=
  if digit = '0' then .error .invalidCaptureIndex
  else
    match captures[digit.toNat - '1'.toNat]? with
    | none | some ⟨_, .unfinished⟩ => .error .invalidCaptureIndex
    | some ⟨_, .position⟩ => .ok none
    | some ⟨init, .closed len⟩ =>
      .ok (if s + len ≤ src.length ∧ (src.drop s).take len = (src.drop init).take len then
        some (s + len) else none)

/-- `max_expand`, from the number of repetitions that there are. -/
def maxExpand {α : Type} (rest : ℕ → Except PatternError (Option α)) (s : ℕ) :
    ℕ → Except PatternError (Option α)
  | 0 => rest s
  | i + 1 => do
    match ← rest (s + (i + 1)) with
    | some res => return some res
    | none => maxExpand rest s i

/-- `min_expand`, where there are `n` repetitions. -/
def minExpand {α : Type} (rest : ℕ → Except PatternError (Option α)) :
    ℕ → ℕ → Except PatternError (Option α)
  | 0, s => rest s
  | n + 1, s => do
    match ← rest s with
    | some res => return some res
    | none => minExpand rest n (s + 1)

/-- The number of characters from a position on that a part matches. -/
def run (src : List Char) (s : ℕ) (part : Single) : ℕ :=
  ((src.drop s).takeWhile fun c => part.matches c).length

/-- `match`: the end of the match of a pattern at a position, and the captures. Every call is for a
shorter pattern, so that the length of the pattern is fuel enough. -/
def matchHere (src : List Char) :
    ℕ → List Capture → ℕ → List Char → Except PatternError (Option (ℕ × List Capture))
  | 0, _, _, _ => .ok none
  | fuel + 1, captures, s, p => do
    match ← nextItem p with
    | .finish => return some (s, captures)
    | .openCapture isPosition p =>
      if maxCaptures ≤ captures.length then throw .tooManyCaptures
      else
        let len := if isPosition then CaptureLength.position else .unfinished
        matchHere src fuel (captures ++ [⟨s, len⟩]) s p
    | .closeCapture p =>
      match captureToClose captures with
      | none => throw .invalidPatternCapture
      | some l =>
        let close := fun capture : Capture =>
          { capture with len := CaptureLength.closed (s - capture.init) }
        matchHere src fuel (captures.modify l close) s p
    | .balance b e p =>
      match matchBalance src s b e with
      | none => return none
      | some s => matchHere src fuel captures s p
    | .frontier set p =>
      -- Before the first character and after the last one there is a zero.
      let previous := if s = 0 then '\x00' else src.getD (s - 1) '\x00'
      if matchBracketClass previous set || !matchBracketClass (src.getD s '\x00') set then
        return none
      else matchHere src fuel captures s p
    | .back digit p =>
      match ← matchCapture src captures s digit with
      | none => return none
      | some s => matchHere src fuel captures s p
    | .atEnd => return if s = src.length then some (s, captures) else none
    | .single part r p =>
      let m := src[s]?.any fun c => part.matches c
      match r with
      | .once => if m then matchHere src fuel captures (s + 1) p else return none
      | .optional =>
        if m then
          match ← matchHere src fuel captures (s + 1) p with
          | some res => return some res
          | none => matchHere src fuel captures s p
        else matchHere src fuel captures s p
      | .star => maxExpand (fun s => matchHere src fuel captures s p) s (run src s part)
      | .plus =>
        if m then
          maxExpand (fun s => matchHere src fuel captures s p) (s + 1) (run src (s + 1) part)
        else return none
      | .minus => minExpand (fun s => matchHere src fuel captures s p) (run src s part) s

/-! ## Replacing and finding -/

/-- `push_onecapture`. -/
def oneCapture (src : List Char) (captures : List Capture) (s e l : ℕ) :
    Except PatternError (List Char) :=
  match captures[l]? with
  | none => if l = 0 then .ok ((src.drop s).take (e - s)) else .error .invalidCaptureIndex
  | some ⟨_, .unfinished⟩ => .error .unfinishedCapture
  | some ⟨init, .position⟩ => .ok (init + 1).repr.toList
  | some ⟨init, .closed len⟩ => .ok ((src.drop init).take len)

/-- `add_s`: the text that a match is replaced by. -/
def addS (src : List Char) (captures : List Capture) (s e : ℕ) :
    List Char → Except PatternError (List Char)
  | [] => .ok []
  | ['%'] => .ok ['\x00']
  | '%' :: d :: news => do
    let piece ←
      if !d.isDigit then pure [d]
      else if d = '0' then pure ((src.drop s).take (e - s))
      else oneCapture src captures s e (d.toNat - '1'.toNat)
    return piece ++ (← addS src captures s e news)
  | c :: news => do return c :: (← addS src captures s e news)

/-- The loop of `str_gsub`, from a position and a number of replacements on. Every round ends the
loop or goes on behind the position. -/
def gsubFrom (src p news : List Char) (anchor : Bool) (maxS : ℕ) :
    ℕ → ℕ → ℕ → Except PatternError (List Char × ℕ)
  | 0, n, s => .ok (src.drop s, n)
  | fuel + 1, n, s =>
    if maxS ≤ n then .ok (src.drop s, n)
    else do
      let found ← matchHere src (p.length + 1) [] s p
      let value ← found.elim (.ok []) fun (e, captures) => addS src captures s e news
      let n := if found.isSome then n + 1 else n
      -- After an empty match, and where there is none, a character is kept.
      let e := found.elim s Prod.fst
      let kept := if s < e then [] else src[s]?.toList
      let next := if s < e then e else s + 1
      if anchor || src.length < next then return (value ++ kept ++ src.drop next, n)
      else
        let (rest, n) ← gsubFrom src p news anchor maxS fuel n next
        return (value ++ kept ++ rest, n)

/-- A pattern ends before its first zero. -/
def cString (p : List Char) : List Char :=
  p.takeWhile (· ≠ '\x00')

/-- Whether a pattern is anchored, and the pattern without the anchor. -/
def anchored : List Char → Bool × List Char
  | '^' :: p => (true, p)
  | p => (false, p)

/-- `string.gsub(src, p, news, max_s)`. -/
def gsubUpTo (maxS : ℕ) (src p news : List Char) : Except PatternError (List Char × ℕ) :=
  gsubFrom src (anchored (cString p)).2 news (anchored (cString p)).1 maxS (src.length + 1) 0 0

/-- `string.gsub(src, p, news)`. -/
def gsub (src p news : List Char) : Except PatternError (List Char × ℕ) :=
  gsubUpTo (src.length + 1) src p news

/-- Whether `string.match(src, p)` finds anything, for a pattern without captures. -/
def isMatch (src p : List Char) : Except PatternError Bool :=
  (if (anchored (cString p)).1 then [0] else List.range (src.length + 1)).anyM fun s => do
    let found ← matchHere src ((anchored (cString p)).2.length + 1) [] s (anchored (cString p)).2
    return found.isSome

/-! ## Texts as patterns -/

/-- The characters that repeat the part before them. -/
def quantifiers : List Char := ['?', '*', '+', '-']

/-- A pattern that spells a text: of each part one character is matched, once. -/
inductive Spells : List Char → List Char → Prop
  | nil : Spells [] []
  | char {c : Char} {p text : List Char} (hc : c ∉ ['(', ')', '%', '.', '['])
      (hend : c = '$' → p ≠ []) (hnext : ∀ q ∈ p.head?, q ∉ quantifiers) (h : Spells p text) :
      Spells (c :: p) (c :: text)
  | escaped {c : Char} {p text : List Char} (hc : c.isAlphanum = false)
      (hnext : ∀ q ∈ p.head?, q ∉ quantifiers) (h : Spells p text) :
      Spells ('%' :: c :: p) (c :: text)

/-- A replacement that stands for a text, whatever is replaced. -/
inductive Template : List Char → List Char → Prop
  | nil : Template [] []
  | char {c : Char} {news text : List Char} (hc : c ≠ '%') (h : Template news text) :
      Template (c :: news) (c :: text)
  | escaped {d : Char} {news text : List Char} (hd : d.isDigit = false) (h : Template news text) :
      Template ('%' :: d :: news) (d :: text)

section Spelled

variable {src p text news : List Char} {captures : List Capture} {c : Char} {fuel s : ℕ}

/-- No quantifier follows. -/
theorem quantifier_eq (h : ∀ q ∈ p.head?, q ∉ quantifiers) : quantifier p = (.once, p) := by
  unfold quantifier
  split
  all_goals first | rfl | exact absurd (h _ rfl) (by decide)

/-- A character that means itself. -/
theorem nextItem_char (hc : c ∉ ['(', ')', '%', '.', '[']) (hend : c = '$' → p ≠ []) :
    nextItem (c :: p) = .ok (.single (.char c) (quantifier p).1 (quantifier p).2) := by
  simp only [List.mem_cons, List.not_mem_nil, or_false, not_or] at hc
  have hsingle : singleItem c p = .ok (.single (.char c) (quantifier p).1 (quantifier p).2) := by
    unfold singleItem
    split <;> simp_all
  unfold nextItem
  split <;> simp_all

/-- A character after a `%`. -/
theorem nextItem_escaped (hc : c.isAlphanum = false) :
    nextItem ('%' :: c :: p) =
      .ok (.single (.escaped c) (quantifier p).1 (quantifier p).2) := by
  have hdigit : c.isDigit = false := by
    rw [Char.isAlphanum, Bool.or_eq_false_iff] at hc
    exact hc.2
  have hletter : ∀ d : Char, d.isAlphanum = true → c ≠ d := by
    rintro d hd rfl
    rw [hc] at hd
    cases hd
  have hb := hletter 'b' (by decide)
  have hf := hletter 'f' (by decide)
  rw [nextItem, hdigit]
  · rfl
  all_goals
    intros
    simp_all

/-- What is no letter names no class. -/
theorem matchClass_self (hc : c.isAlphanum = false) (a : Char) :
    matchClass a c = decide (c = a) := by
  have halpha : c.isAlpha = false := by
    rw [Char.isAlphanum, Bool.or_eq_false_iff] at hc
    exact hc.1
  have hlower : c.toLower = c := by
    rw [Char.isAlpha, Bool.or_eq_false_iff] at halpha
    refine dif_neg fun hcapital => ?_
    have hupper : c.isUpper = true := by simpa [Char.isUpper] using hcapital
    rw [hupper] at halpha
    cases halpha.1
  have hletter : ∀ d : Char, d.isAlphanum = true → c ≠ d := by
    rintro d hd rfl
    rw [hc] at hd
    cases hd
  unfold matchClass
  rw [hlower]
  split <;> simp_all

/-- Two patterns that spell texts, one after the other. -/
theorem Spells.append {p' text' : List Char} (h : Spells p text) (h' : Spells p' text')
    (hnext : ∀ q ∈ p'.head?, q ∉ quantifiers) : Spells (p ++ p') (text ++ text') := by
  have hhead : ∀ {p : List Char}, (∀ q ∈ p.head?, q ∉ quantifiers) →
      ∀ q ∈ (p ++ p').head?, q ∉ quantifiers := by
    intro p hp q hq
    cases p with
    | nil => exact hnext q hq
    | cons c p => exact hp q hq
  induction h with
  | nil => exact h'
  | char hc hend hnext _ ih =>
      exact .char hc (fun hdollar hnil => hend hdollar (List.append_eq_nil_iff.mp hnil).1)
        (hhead hnext) ih
  | escaped hc hnext _ ih => exact .escaped hc (hhead hnext) ih

/-- A pattern that is put together of patterns that spell texts, none of them beginning with a
quantifier. -/
theorem Spells.flatMap {α : Type} {l : List α} {f g : α → List Char}
    (h : ∀ a ∈ l, Spells (f a) (g a) ∧ ∀ q ∈ (f a).head?, q ∉ quantifiers) :
    Spells (l.flatMap f) (l.flatMap g) ∧ ∀ q ∈ (l.flatMap f).head?, q ∉ quantifiers := by
  induction l with
  | nil => exact ⟨.nil, by simp⟩
  | cons a l ih =>
      obtain ⟨⟨ha, hhead⟩, hl⟩ := List.forall_mem_cons.mp h
      obtain ⟨hrest, hnext⟩ := ih hl
      refine ⟨ha.append hrest hnext, ?_⟩
      rw [List.flatMap_cons]
      cases hf : f a with
      | nil => exact hnext
      | cons c p =>
          rw [hf] at hhead
          exact hhead

/-- What a part of a spelling pattern matches. -/
theorem exists_nextItem_of_spells (h : Spells p (c :: text)) :
    ∃ part q, nextItem p = .ok (.single part .once q) ∧ (∀ a, part.matches a = decide (c = a)) ∧
      Spells q text ∧ q.length < p.length := by
  cases h with
  | char hc hend hnext h =>
      exact ⟨.char c, _, by rw [nextItem_char hc hend, quantifier_eq hnext], fun a => rfl, h,
        by simp⟩
  | escaped hc hnext h =>
      exact ⟨.escaped c, _, by rw [nextItem_escaped hc, quantifier_eq hnext], matchClass_self hc, h,
        by simp only [List.length_cons]; omega⟩

/-- A spelling pattern matches where its text stands. -/
theorem matchHere_of_spells (h : Spells p text) (hfuel : p.length < fuel) (s : ℕ) :
    matchHere src fuel captures s p =
      .ok (if text <+: src.drop s then some (s + text.length, captures) else none) := by
  induction text generalizing p fuel s with
  | nil =>
      cases h
      cases fuel with
      | zero => omega
      | succ fuel =>
          rw [if_pos (List.nil_prefix)]
          rfl
  | cons c text ih =>
      obtain ⟨part, q, hitem, hpart, hq, hlength⟩ := exists_nextItem_of_spells h
      cases fuel with
      | zero => omega
      | succ fuel =>
          have hrest := ih hq (by omega : q.length < fuel) (s + 1)
          rw [matchHere, hitem]
          show (if (src[s]?.any fun a => part.matches a) = true then
            matchHere src fuel captures (s + 1) q else .ok none) = _
          rw [hrest]
          cases hsrc : src[s]? with
          | none =>
              rw [List.getElem?_eq_none_iff] at hsrc
              rw [List.drop_eq_nil_of_le hsrc, if_neg (by simp), if_neg (by simp)]
          | some a =>
              obtain ⟨hs, rfl⟩ := List.getElem?_eq_some_iff.mp hsrc
              simp only [List.drop_eq_getElem_cons hs, List.cons_prefix_cons, Option.any_some,
                hpart]
              by_cases hca : c = src[s]
              · simp [hca, Nat.add_assoc, Nat.add_comm 1]
              · simp [hca]

/-- The text that a match is replaced by. -/
theorem addS_of_template {e : ℕ} (h : Template news text) :
    addS src captures s e news = .ok text := by
  induction h with
  | nil => rfl
  | char hc _ ih =>
      rw [addS, ih]
      · rfl
      all_goals
        intros
        simp_all
  | escaped hd _ ih =>
      rw [addS, ih, hd]
      rfl

/-- A round of the loop that finds a match with characters in it. -/
theorem gsubFrom_of_match {maxS n e : ℕ} {value : List Char} (hn : n < maxS)
    (hmatch : matchHere src (p.length + 1) [] s p = .ok (some (e, captures)))
    (hvalue : addS src captures s e news = .ok value) (hs : s < e) (he : e ≤ src.length) :
    gsubFrom src p news false maxS (fuel + 1) n s =
      (gsubFrom src p news false maxS fuel (n + 1) e).map fun r => (value ++ r.1, r.2) := by
  have hle : ¬src.length < e := by omega
  rw [gsubFrom, if_neg (by omega), hmatch]
  simp [bind, Except.bind, hvalue, hs, hle]
  cases gsubFrom src p news false maxS fuel (n + 1) e <;> rfl

/-- A round that finds nothing. -/
theorem gsubFrom_of_none {maxS n : ℕ} (hn : n < maxS)
    (hmatch : matchHere src (p.length + 1) [] s p = .ok none) (hs : s < src.length) :
    gsubFrom src p news false maxS (fuel + 1) n s =
      (gsubFrom src p news false maxS fuel n (s + 1)).map fun r => (src[s] :: r.1, r.2) := by
  have hle : ¬src.length < s + 1 := by omega
  rw [gsubFrom, if_neg (by omega), hmatch]
  simp [bind, Except.bind, hs, hle]
  cases gsubFrom src p news false maxS fuel n (s + 1) <;> rfl

/-- `gsub` with such a pattern and such a replacement, from a position on: what is left of the
replacements goes to the occurrences from left to right. -/
theorem gsubFrom_of_spells {old new : List Char} (hp : Spells p old) (hold : old ≠ [])
    (hnews : Template news new) {maxS n : ℕ} (hn : n ≤ maxS) (hs : s ≤ src.length)
    (hfuel : src.length < fuel + s) :
    gsubFrom src p news false maxS fuel n s =
      .ok (Text.replaceUpTo old new (maxS - n) 0 (src.drop s),
        n + min (maxS - n) (Text.countFrom old 0 (src.drop s))) := by
  induction fuel generalizing n s with
  | zero => omega
  | succ fuel ih =>
      by_cases hmax : maxS = n
      · -- Nothing more is replaced.
        rw [gsubFrom, if_pos (by omega), hmax, Nat.sub_self, Text.replaceUpTo_zero, Nat.zero_min]
        rfl
      · obtain ⟨limit, hlimit⟩ : ∃ limit, maxS - n = limit + 1 := ⟨maxS - n - 1, by omega⟩
        have hmatch : matchHere src (p.length + 1) [] s p = .ok (if old <+: src.drop s then
            some (s + old.length, []) else none) := matchHere_of_spells hp (Nat.lt_succ_self _) s
        by_cases hprefix : old <+: src.drop s
        · -- The match is replaced, and the loop goes on behind it.
          rw [if_pos hprefix] at hmatch
          obtain ⟨rest, hrest⟩ := hprefix
          have hlength : s + old.length + rest.length = src.length := by
            have hdrop := congrArg List.length hrest
            rw [List.length_append, List.length_drop] at hdrop
            omega
          have hpos : 0 < old.length := List.length_pos_of_ne_nil hold
          have hbehind : src.drop (s + old.length) = rest := by
            rw [← List.drop_drop, ← hrest, List.drop_left]
          rw [gsubFrom_of_match (by omega) hmatch (addS_of_template hnews) (by omega) (by omega),
            ih (by omega) (by omega) (by omega), hbehind, ← hrest, hlimit,
            show maxS - (n + 1) = limit by omega, Text.replaceUpTo_append hold,
            Text.countFrom_append hold, Nat.succ_min_succ]
          exact congrArg (fun k => Except.ok (_, k)) (by omega)
        · rw [if_neg hprefix] at hmatch
          rcases hs.lt_or_eq with hlt | rfl
          · rw [List.drop_eq_getElem_cons hlt] at hprefix ⊢
            rw [gsubFrom_of_none (by omega) hmatch hlt, ih hn (by omega) (by omega),
              Text.replaceUpTo_cons hprefix, Text.countFrom_cons hprefix]
            rfl
          · -- The text ends here.
            rw [gsubFrom, if_neg (by omega), hmatch, List.drop_length, hlimit]
            simp [bind, Except.bind, pure, Except.pure, Text.replaceUpTo, Text.countFrom]

/-- A pattern without zeros and without an anchor is taken as it is. -/
theorem anchored_cString (hzero : '\x00' ∉ p) (hanchor : p.head? ≠ some '^') :
    anchored (cString p) = (false, p) := by
  have hstring : cString p = p :=
    List.takeWhile_eq_self_iff.mpr fun c hc => decide_eq_true fun h => hzero (h ▸ hc)
  rw [hstring]
  unfold anchored
  split
  · exact absurd rfl hanchor
  · rfl

/-- With a pattern and a replacement that stand for texts, so many occurrences of the one text are
replaced by the other. -/
theorem gsubUpTo_of_spells {old new : List Char} (hp : Spells p old) (hold : old ≠ [])
    (hzero : '\x00' ∉ p) (hanchor : p.head? ≠ some '^') (hnews : Template news new) (maxS : ℕ) :
    gsubUpTo maxS src p news =
      .ok (Text.replaceUpTo old new maxS 0 src, min maxS (Text.countFrom old 0 src)) := by
  rw [gsubUpTo, anchored_cString hzero hanchor,
    gsubFrom_of_spells hp hold hnews (Nat.zero_le maxS) (Nat.zero_le _) (Nat.lt_succ_self _),
    List.drop_zero, Nat.sub_zero, Nat.zero_add]

/-- Without a limit all of them are, and they are counted. -/
theorem gsub_of_spells {old new : List Char} (hp : Spells p old) (hold : old ≠ [])
    (hzero : '\x00' ∉ p) (hanchor : p.head? ≠ some '^') (hnews : Template news new) :
    gsub src p news = .ok (Text.replaceFrom old new 0 src, Text.countFrom old 0 src) := by
  have hcount : Text.countFrom old 0 src ≤ src.length + 1 :=
    (Text.countFrom_le_length hold src).trans (Nat.le_succ _)
  rw [gsub, gsubUpTo_of_spells hp hold hzero hanchor hnews, Text.replaceUpTo_of_le hold hcount,
    Nat.min_eq_right hcount]

/-- A test that never fails is made of one element after the other. -/
theorem anyM_eq {f : ℕ → Except PatternError Bool} {g : ℕ → Bool} (l : List ℕ)
    (h : ∀ s, f s = .ok (g s)) : l.anyM f = .ok (l.any g) := by
  induction l with
  | nil => rfl
  | cons s l ih =>
      rw [List.anyM, h, List.any_cons]
      cases hs : g s with
      | true => rfl
      | false => exact ih

/-- A text is contained in another where it stands at some position. -/
theorem any_range_isPrefix :
    ((List.range (src.length + 1)).any fun s => decide (text <+: src.drop s))
    = decide (text <:+: src) := by
  rw [Bool.eq_iff_iff, List.any_eq_true, decide_eq_true_iff, List.infix_iff_prefix_suffix]
  constructor
  · rintro ⟨s, -, hs⟩
    exact ⟨_, of_decide_eq_true hs, List.drop_suffix s src⟩
  · rintro ⟨rest, hprefix, hsuffix⟩
    rw [List.suffix_iff_eq_drop.mp hsuffix] at hprefix
    exact ⟨_, List.mem_range.mpr (by omega), decide_eq_true hprefix⟩

/-- A pattern that stands for a text is found exactly in the texts that contain it. -/
theorem isMatch_of_spells (hp : Spells p text) (hzero : '\x00' ∉ p) (hanchor : p.head? ≠ some '^') :
    isMatch src p = .ok (decide (text <:+: src)) := by
  rw [isMatch, anchored_cString hzero hanchor, ← any_range_isPrefix]
  refine anyM_eq _ fun s => ?_
  rw [matchHere_of_spells hp (Nat.lt_succ_self _)]
  by_cases hprefix : text <+: src.drop s
  · rw [if_pos hprefix, decide_eq_true hprefix]
    rfl
  · rw [if_neg hprefix, decide_eq_false hprefix]
    rfl

end Spelled

/-! ## Literal texts -/

/-- A text that stands for itself, as a pattern and as a replacement: characters that are special
anywhere do not occur, the others are not where they are. -/
structure Literal (text : List Char) : Prop where
  ne_nil : text ≠ []
  plain : ∀ c ∈ text, c ∉ ['\x00', '(', ')', '%', '.', '[']
  not_anchored : text.head? ≠ some '^'
  not_atEnd : text.getLast? ≠ some '$'
  not_repeated : ∀ c ∈ text.tail, c ∉ quantifiers

namespace Literal

variable {text : List Char}

instance (text : List Char) : Decidable (Literal text) :=
  decidable_of_iff (text ≠ [] ∧
      text.all (fun c => decide (c ∉ ['\x00', '(', ')', '%', '.', '['])) = true ∧
      text.head? ≠ some '^' ∧ text.getLast? ≠ some '$' ∧
      text.tail.all (fun c => decide (c ∉ quantifiers)) = true)
    ⟨fun ⟨hnil, hplain, hanchor, hend, hrepeated⟩ =>
      ⟨hnil, by simpa only [List.all_eq_true, decide_eq_true_eq] using hplain, hanchor, hend,
        by simpa only [List.all_eq_true, decide_eq_true_eq] using hrepeated⟩,
      fun h => ⟨h.ne_nil, by simpa only [List.all_eq_true, decide_eq_true_eq] using h.plain,
        h.not_anchored, h.not_atEnd,
        by simpa only [List.all_eq_true, decide_eq_true_eq] using h.not_repeated⟩⟩

/-- Such a text spells itself. -/
theorem spells_self (hplain : ∀ c ∈ text, c ∉ ['\x00', '(', ')', '%', '.', '['])
    (hend : text.getLast? ≠ some '$') (hrepeated : ∀ c ∈ text.tail, c ∉ quantifiers) :
    Spells text text := by
  induction text with
  | nil => exact .nil
  | cons c text ih =>
      obtain ⟨hc, hplain⟩ := List.forall_mem_cons.mp hplain
      refine .char (by simp_all) ?_ (fun q hq => ?_) (ih hplain ?_ fun q hq => ?_)
      · rintro rfl rfl
        exact hend rfl
      · exact hrepeated q (List.mem_of_mem_head? hq)
      · cases text with
        | nil => simp
        | cons a text => rwa [List.getLast?_cons_cons] at hend
      · exact hrepeated q (List.mem_of_mem_tail hq)

theorem spells (h : Literal text) : Spells text text :=
  spells_self h.plain h.not_atEnd h.not_repeated

/-- A text without `%` stands for itself as a replacement. -/
theorem template_self (hplain : '%' ∉ text) : Template text text := by
  induction text with
  | nil => exact .nil
  | cons c text ih =>
      rw [List.mem_cons, not_or] at hplain
      exact .char (Ne.symm hplain.1) (ih hplain.2)

theorem notMem (h : Literal text) {c : Char} (hc : c ∈ ['\x00', '(', ')', '%', '.', '[']) :
    c ∉ text := fun hmem => h.plain c hmem hc

theorem template (h : Literal text) : Template text text :=
  template_self (h.notMem (by decide))

/-- `gsub` with literal texts replaces the one by the other. -/
theorem gsub_eq {src old new : List Char} (hold : Literal old) (hnew : Literal new) :
    gsub src old new = .ok (Text.replaceFrom old new 0 src, Text.countFrom old 0 src) :=
  gsub_of_spells hold.spells hold.ne_nil (hold.notMem (by decide)) hold.not_anchored hnew.template

end Literal

/-! ## Patterns that never fail -/

/-- A pattern of parts that one character is matched with, without sets. -/
inductive Tame : List Char → Prop
  | nil : Tame []
  | char {c : Char} {p : List Char} (hc : c ∉ ['(', ')', '%', '[']) (h : Tame p) : Tame (c :: p)
  | escaped {c : Char} {p : List Char} (hc : c.isAlphanum = false) (h : Tame p) :
      Tame ('%' :: c :: p)

section Tame

variable {src p q news text : List Char} {captures : List Capture} {fuel s : ℕ}

theorem Tame.append (hp : Tame p) (hq : Tame q) : Tame (p ++ q) := by
  induction hp with
  | nil => exact hq
  | char hc _ ih => exact .char hc ih
  | escaped hc _ ih => exact .escaped hc ih

/-- A pattern that is put together of such patterns. -/
theorem Tame.flatMap {α : Type} {l : List α} {f : α → List Char} (h : ∀ a ∈ l, Tame (f a)) :
    Tame (l.flatMap f) := by
  induction l with
  | nil => exact .nil
  | cons a l ih =>
      obtain ⟨ha, hl⟩ := List.forall_mem_cons.mp h
      exact ha.append (ih hl)

theorem Template.append {news' text' : List Char} (h : Template news text)
    (h' : Template news' text') : Template (news ++ news') (text ++ text') := by
  induction h with
  | nil => exact h'
  | char hc _ ih => exact .char hc ih
  | escaped hd _ ih => exact .escaped hd ih

/-- A replacement that is put together of replacements that stand for known texts. -/
theorem Template.flatMap {α : Type} {l : List α} {f g : α → List Char}
    (h : ∀ a ∈ l, Template (f a) (g a)) : Template (l.flatMap f) (l.flatMap g) := by
  induction l with
  | nil => exact .nil
  | cons a l ih =>
      obtain ⟨ha, hl⟩ := List.forall_mem_cons.mp h
      exact ha.append (ih hl)

/-- The same of replacements that stand for some texts. -/
theorem exists_template_flatMap {α : Type} {l : List α} {f : α → List Char}
    (h : ∀ a ∈ l, ∃ text, Template (f a) text) : ∃ text, Template (l.flatMap f) text := by
  induction l with
  | nil => exact ⟨_, .nil⟩
  | cons a l ih =>
      obtain ⟨ha, hl⟩ := List.forall_mem_cons.mp h
      obtain ⟨text, htext⟩ := ha
      obtain ⟨rest, hrest⟩ := ih hl
      exact ⟨_, htext.append hrest⟩

/-- So is what follows a quantifier. -/
theorem Tame.quantifier (h : Tame p) :
    Tame (quantifier p).2 ∧ (quantifier p).2.length ≤ p.length := by
  unfold Lua.quantifier
  split
  case h_5 => exact ⟨h, le_rfl⟩
  all_goals
    cases h with
    | char _ h => exact ⟨h, Nat.le_succ _⟩

/-- The first part of such a pattern. -/
theorem Tame.exists_nextItem (h : Tame p) :
    nextItem p = .ok .finish ∨ nextItem p = .ok .atEnd ∨
      ∃ part r q, nextItem p = .ok (.single part r q) ∧ Tame q := by
  cases h with
  | nil => exact Or.inl rfl
  | @char c p hc h =>
      right
      simp only [List.mem_cons, List.not_mem_nil, or_false, not_or] at hc
      by_cases hany : c = '.'
      · rw [hany]
        exact Or.inr ⟨_, _, _, rfl, h.quantifier.1⟩
      · by_cases hend : c = '$' ∧ p = []
        · rw [hend.1, hend.2]
          exact Or.inl rfl
        · refine Or.inr ⟨_, _, _, nextItem_char ?_ fun hdollar hnil => hend ⟨hdollar, hnil⟩,
            h.quantifier.1⟩
          simp [hc, hany]
  | escaped hc h => exact Or.inr (Or.inr ⟨_, _, _, nextItem_escaped hc, h.quantifier.1⟩)

/-- Repetitions do not fail if what follows them does not. -/
theorem exists_maxExpand {α : Type} {rest : ℕ → Except PatternError (Option α)}
    (h : ∀ s, ∃ res, rest s = .ok res) (s n : ℕ) : ∃ res, maxExpand rest s n = .ok res := by
  induction n with
  | zero => exact h s
  | succ n ih =>
      obtain ⟨res, hres⟩ := h (s + (n + 1))
      rw [maxExpand, hres]
      cases res with
      | none => exact ih
      | some res => exact ⟨some res, rfl⟩

theorem exists_minExpand {α : Type} {rest : ℕ → Except PatternError (Option α)}
    (h : ∀ s, ∃ res, rest s = .ok res) (n s : ℕ) : ∃ res, minExpand rest n s = .ok res := by
  induction n generalizing s with
  | zero => exact h s
  | succ n ih =>
      obtain ⟨res, hres⟩ := h s
      rw [minExpand, hres]
      cases res with
      | none => exact ih (s + 1)
      | some res => exact ⟨some res, rfl⟩

/-- The matcher does not fail on such a pattern. -/
theorem Tame.exists_matchHere (h : Tame p) (s : ℕ) :
    ∃ res, matchHere src fuel captures s p = .ok res := by
  induction fuel generalizing p s with
  | zero => exact ⟨none, rfl⟩
  | succ fuel ih =>
      rw [matchHere]
      rcases h.exists_nextItem with hitem | hitem | ⟨part, r, q, hitem, hq⟩
      · rw [hitem]
        exact ⟨_, rfl⟩
      · rw [hitem]
        exact ⟨_, rfl⟩
      · have hrest : ∀ s, ∃ res, matchHere src fuel captures s q = .ok res := fun s => ih hq s
        rw [hitem]
        cases r with
        | once =>
            show ∃ res, (if (src[s]?.any fun c => part.matches c) = true then
              matchHere src fuel captures (s + 1) q else .ok none) = .ok res
            split
            · exact hrest (s + 1)
            · exact ⟨none, rfl⟩
        | optional =>
            obtain ⟨res, hres⟩ := hrest (s + 1)
            show ∃ res, (if (src[s]?.any fun c => part.matches c) = true then
              (matchHere src fuel captures (s + 1) q).bind fun res =>
                match res with
                | some res => .ok (some res)
                | none => matchHere src fuel captures s q
              else matchHere src fuel captures s q) = .ok res
            split
            · rw [hres]
              cases res with
              | none => exact hrest s
              | some res => exact ⟨some res, rfl⟩
            · exact hrest s
        | star => exact exists_maxExpand hrest _ _
        | plus =>
            show ∃ res, (if (src[s]?.any fun c => part.matches c) = true then
              maxExpand (fun s => matchHere src fuel captures s q) (s + 1) (run src (s + 1) part)
              else .ok none) = .ok res
            split
            · exact exists_maxExpand hrest _ _
            · exact ⟨none, rfl⟩
        | minus => exact exists_minExpand hrest _ _

/-- `gsub` does not fail with such a pattern and a replacement that stands for a text. -/
theorem Tame.exists_gsubFrom (h : Tame p) (hnews : Template news text) (anchor : Bool)
    (maxS n : ℕ) : ∃ res, gsubFrom src p news anchor maxS fuel n s = .ok res := by
  induction fuel generalizing n s with
  | zero => exact ⟨_, rfl⟩
  | succ fuel ih =>
      rw [gsubFrom]
      split
      · exact ⟨_, rfl⟩
      · obtain ⟨found, hfound⟩ : ∃ found, matchHere src (p.length + 1) [] s p = .ok found :=
          h.exists_matchHere s
        obtain ⟨value, hvalue⟩ : ∃ value, (found.elim (.ok []) fun (e, captures) =>
            addS src captures s e news : Except PatternError (List Char)) = .ok value := by
          cases found with
          | none => exact ⟨_, rfl⟩
          | some found => exact ⟨_, addS_of_template hnews⟩
        rw [hfound]
        show ∃ res, (found.elim (.ok []) fun (e, captures) =>
            addS src captures s e news : Except PatternError (List Char)).bind _ = .ok res
        rw [hvalue]
        -- Wherever the loop goes on, the rounds after this one do not fail.
        have hround : ∀ (kept : List Char) (next n : ℕ), ∃ res, (do
            if anchor || src.length < next then return (value ++ kept ++ src.drop next, n)
            else
              let (rest, n) ← gsubFrom src p news anchor maxS fuel n next
              return (value ++ kept ++ rest, n) : Except PatternError (List Char × ℕ)) =
            .ok res := by
          intro kept next n
          split
          · exact ⟨_, rfl⟩
          · obtain ⟨rest, hrest⟩ := ih n (s := next)
            rw [hrest]
            exact ⟨_, rfl⟩
        exact hround _ _ _

/-- The same of a pattern as it is given. -/
theorem exists_gsub_of_tame (h : Tame p) (hzero : '\x00' ∉ p) (hanchor : p.head? ≠ some '^')
    (hnews : Template news text) (maxS : ℕ) : ∃ res, gsubUpTo maxS src p news = .ok res := by
  rw [gsubUpTo, anchored_cString hzero hanchor]
  exact h.exists_gsubFrom hnews _ _ _

end Tame

end Lua
