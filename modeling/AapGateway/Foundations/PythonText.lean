import AapGateway.Foundations.JsonReading
import AapGateway.Foundations.Replace

/-!
# Python values and their texts

The values of `json.loads` are kept as JSON values: an object is a `dict`, in the order of
insertion, and a number is kept as the literal that `repr` writes for it, where `NaN`, `Infinity`
and `-Infinity` stand for the floats that are not finite. `str` of such a value is not its JSON
text: strings inside it are written by `repr`, in single quotes where that is possible, and `None`,
`True` and `False` are words.

What depends on the tables of the interpreter is a parameter: which characters are printable, what
number a literal is read as, and when two numbers are equal. The depth up to which values may be
nested is left out.

## Main definitions

* `Python.ofJson` and `Python.loads`: the Python value of a JSON value, and of a text;
* `Python.IsValue`: the values that are read from a text;
* `Python.str`: `str(v)`;
* `Python.eqv`: equality of values, with booleans as integers or not;
* `Python.Plain`: the values inside a container that `str` writes as JSON does.

## Main results

* `Python.loads_swapped_iff`: the text of a list or `dict`, with double quotes for single ones, is
  read as that value exactly if its parts are plain.
-/

/-- A number that is no NaN and no infinity. -/
def Json.Number.isFinite (n : Json.Number) : Bool :=
  n.literal ≠ "NaN".toList && n.literal ≠ "Infinity".toList && n.literal ≠ "-Infinity".toList

/-- The interpreter, as far as the texts of values depend on it. -/
structure Python where
  /-- `c.isprintable()`. -/
  isPrintable : Char → Bool
  isPrintable_ge : ∀ c, isPrintable c = true → 32 ≤ c.toNat
  /-- The number that a literal is read as. -/
  readNumber : Json.Number → Json.Number
  readNumber_readNumber : ∀ n, readNumber (readNumber n) = readNumber n
  fits_readNumber : ∀ n : Json.Number, n.fits = true → (readNumber n).fits = true
  /-- `==` of two numbers. -/
  numberEq : Json.Number → Json.Number → Bool
  numberEq_self : ∀ n : Json.Number, n.isFinite = true → numberEq n n = true
  numberEq_comm : ∀ n m, numberEq n m = numberEq m n

namespace Python

variable (py : Python)

/-! ## Values -/

/-- The Python value of a JSON value. -/
def ofJson (v : Json) : Json :=
  v.read py.readNumber

/-- `json.loads(s)`, or `none` where it raises: of a text that is malformed, and of an integer with
more digits than `int` converts. -/
def loads (s : String) : Option Json :=
  (Json.loads s).bind fun v => if v.fits then some (py.ofJson v) else none

/-- A value that `json.loads` returns. -/
structure IsValue (v : Json) : Prop where
  ofJson_eq : py.ofJson v = v
  fits : v.fits = true

/-- The integer that a boolean is. -/
def ofBool (b : Bool) : Json.Number :=
  if b then ⟨['1'], by decide, by decide⟩ else ⟨['0'], by decide, by decide⟩

mutual

/-- Equality of values. With `boolAsInt` it is Python's `==`, where `True` is 1 and `False` is 0;
without, it says that two values are the same JSON value. -/
def eqv (boolAsInt : Bool) : Json → Json → Bool
  | .null, .null => true
  | .bool b, .bool c => b = c
  | .bool b, .num m => boolAsInt && py.numberEq (ofBool b) m
  | .num n, .num m => py.numberEq n m
  | .num n, .bool c => boolAsInt && py.numberEq n (ofBool c)
  | .str s, .str t => s = t
  | .arr vs, .arr us => eqvElements boolAsInt vs us
  | .obj kvs, .obj lus => kvs.length = lus.length && eqvMembers boolAsInt kvs lus
  | _, _ => false

/-- Equality of the elements of two lists. -/
def eqvElements (boolAsInt : Bool) : List Json → List Json → Bool
  | [], [] => true
  | v :: vs, u :: us => eqv boolAsInt v u && eqvElements boolAsInt vs us
  | _, _ => false

/-- The members of one `dict` have the values that they have in another. -/
def eqvMembers (boolAsInt : Bool) : List (String × Json) → List (String × Json) → Bool
  | [], _ => true
  | (k, v) :: kvs, lus =>
    (match lus.find? (·.1 = k) with
      | some lu => eqv boolAsInt v lu.2
      | none => false) && eqvMembers boolAsInt kvs lus

end

/-! ## Texts -/

/-- `str(n)` of a number. -/
def numberText (n : Json.Number) : List Char :=
  if n.literal = "NaN".toList then "nan".toList
  else if n.literal = "Infinity".toList then "inf".toList
  else if n.literal = "-Infinity".toList then "-inf".toList
  else n.literal

/-- A character in the `repr` of a string that is written between two `quote`. -/
def reprChar (quote c : Char) : List Char :=
  if c = quote ∨ c = '\\' then ['\\', c]
  else if c = '\n' then ['\\', 'n']
  else if c = '\r' then ['\\', 'r']
  else if c = '\t' then ['\\', 't']
  else if py.isPrintable c then [c]
  else if c.toNat < 256 then
    ['\\', 'x', Json.hexDigit (c.toNat / 16), Json.hexDigit (c.toNat % 16)]
  else if c.toNat < 65536 then '\\' :: Json.unicodeEscape c.toNat
  else '\\' :: 'U' :: '0' :: '0' :: Json.hexDigit (c.toNat / 1048576) ::
    Json.hexDigit (c.toNat / 65536 % 16) :: (Json.unicodeEscape (c.toNat % 65536)).tail

/-- The quote in the `repr` of a string: a single one, if it does not contain one without a double
one. -/
def reprQuote (s : String) : Char :=
  if '\'' ∈ s.toList ∧ '"' ∉ s.toList then '"' else '\''

/-- `repr(s)` of a string. -/
def reprString (s : String) : List Char :=
  reprQuote s :: (s.toList.flatMap (py.reprChar (reprQuote s)) ++ [reprQuote s])

/-- `repr(v)`. -/
def reprWriter : Json.Writer where
  null := "None".toList
  bool b := if b then "True".toList else "False".toList
  num := numberText
  literal := py.reprString

/-- `str(v)`. -/
def str : Json → String
  | .str s => s
  | v => String.ofList (py.reprWriter.text v)

/-- `s.replace("'", '"')`. -/
def doubleQuotes (s : String) : String :=
  Text.replace s "'" "\""

/-- A character that `str` of a container writes as it stands in JSON, or as an escape that JSON
has. -/
def PlainChar (c : Char) : Prop :=
  c ≠ '\'' ∧ c ≠ '"' ∧
    (c = '\\' ∨ c = '\n' ∨ c = '\r' ∨ c = '\t' ∨ py.isPrintable c = true ∨
      256 ≤ c.toNat ∧ c.toNat < 65536)

mutual

/-- A value inside a container that `str` writes as JSON does, up to the kind of quotes: there is no
`None`, `True` or `False`, no number that is not finite, and strings are of plain characters. -/
def Plain : Json → Prop
  | .null => False
  | .bool _ => False
  | .num n => n.isFinite = true
  | .str s => ∀ c ∈ s.toList, py.PlainChar c
  | .arr vs => PlainElements vs
  | .obj kvs => PlainMembers kvs

/-- The elements of a list are plain. -/
def PlainElements : List Json → Prop
  | [] => True
  | v :: vs => Plain v ∧ PlainElements vs

/-- The members of a `dict` are plain. -/
def PlainMembers : List (String × Json) → Prop
  | [] => True
  | (k, v) :: kvs => (∀ c ∈ k.toList, py.PlainChar c) ∧ Plain v ∧ PlainMembers kvs

end

/-! ## Double quotes for single ones -/

/-- A character after the replacement. -/
def swapQuote (c : Char) : Char :=
  if c = '\'' then '"' else c

theorem swapQuote_of_ne {c : Char} (h : c ≠ '\'') : swapQuote c = c := if_neg h

/-- The replacement changes character by character. -/
theorem doubleQuotes_eq (s : String) :
    doubleQuotes s = String.ofList (s.toList.map swapQuote) := by
  unfold doubleQuotes Text.replace
  rw [show "'".toList = ['\''] from rfl, Text.replaceFrom_singleton, List.map_eq_flatMap]
  congr 2
  ext1 c
  unfold swapQuote
  split <;> rfl

/-- The writer of `repr`, with double quotes for single ones. -/
def swapped : Json.Writer := py.reprWriter.map swapQuote

/-- The text of a value that is no string, with double quotes for single ones. -/
theorem doubleQuotes_str {v : Json} (hv : ∀ s, v ≠ .str s) :
    doubleQuotes (py.str v) = String.ofList (py.swapped.text v) := by
  have hstr : py.str v = String.ofList (py.reprWriter.text v) := by
    unfold str
    split
    · exact absurd rfl (hv _)
    · rfl
  have hmarks : ∀ c ∈ Json.marks, swapQuote c = c := by
    intro c hc
    refine swapQuote_of_ne ?_
    rintro rfl
    exact absurd hc (by decide)
  rw [doubleQuotes_eq, hstr, String.toList_ofList, Json.Writer.map_text hmarks]
  rfl

/-- A word has no quotes. -/
theorem map_swapQuote_of_isWord {word : List Char} (h : Json.Writer.IsWord word) :
    word.map swapQuote = word := by
  refine (List.map_congr_left fun c hc => swapQuote_of_ne ?_).trans word.map_id
  rintro rfl
  exact absurd (List.all_eq_true.mp h.2 _ hc) (by decide)

/-- The text of a number is a word. -/
theorem isWord_numberText (n : Json.Number) : Json.Writer.IsWord (numberText n) := by
  unfold numberText
  split_ifs
  · exact ⟨by decide, by decide⟩
  · exact ⟨by decide, by decide⟩
  · exact ⟨by decide, by decide⟩
  · exact Json.isWord_literal n

/-- The number in a text with double quotes for single ones. -/
theorem swapped_num (n : Json.Number) : py.swapped.num n = numberText n :=
  map_swapQuote_of_isWord (isWord_numberText n)

/-- The quote of a string becomes a double one. -/
theorem swapQuote_reprQuote (s : String) : swapQuote (reprQuote s) = '"' := by
  unfold reprQuote
  split <;> rfl

/-- A string literal with double quotes for single ones. -/
theorem swapped_literal (s : String) :
    py.swapped.literal s =
      '"' :: (s.toList.flatMap (fun c => (py.reprChar (reprQuote s) c).map swapQuote) ++
        ['"']) := by
  show (py.reprString s).map swapQuote = _
  simp only [reprString, List.map_cons, List.map_append, List.map_flatMap, List.map_nil,
    swapQuote_reprQuote]

theorem swapped_null : py.swapped.null = "None".toList := rfl

theorem swapped_bool (b : Bool) :
    py.swapped.bool b = if b then "True".toList else "False".toList := by
  cases b <;> rfl

/-- The words of the text and its string literals are those of a JSON text. -/
theorem lawful_swapped : py.swapped.Lawful where
  null := by
    rw [swapped_null]
    exact ⟨by decide, by decide⟩
  bool b := by
    rw [swapped_bool]
    cases b <;> exact ⟨by decide, by decide⟩
  num n := by
    rw [swapped_num]
    exact isWord_numberText n
  literal s := ⟨_, py.swapped_literal s⟩

/-- A finite number is read from its text, and no other number is. -/
theorem ofWord_numberText (n : Json.Number) :
    Json.ofWord (numberText n) = if n.isFinite then some (.num n) else none := by
  have hword : ∀ word ∈ ["nan".toList, "inf".toList, "-inf".toList], Json.ofWord word = none := by
    decide
  unfold numberText Json.Number.isFinite
  by_cases hnan : n.literal = "NaN".toList
  · rw [if_pos hnan, hword _ (by simp), hnan]
    rfl
  · rw [if_neg hnan]
    by_cases hinf : n.literal = "Infinity".toList
    · rw [if_pos hinf, hword _ (by simp), hinf]
      rfl
    · rw [if_neg hinf]
      by_cases hneg : n.literal = "-Infinity".toList
      · rw [if_pos hneg, hword _ (by simp), hneg]
        rfl
      · rw [if_neg hneg, Json.ofWord_literal, decide_eq_true hnan, decide_eq_true hinf,
          decide_eq_true hneg]
        rfl

/-- A word that is read is the number it was written for. -/
theorem strict_swapped : py.swapped.Strict where
  null u h := by
    rw [swapped_null, show Json.ofWord "None".toList = none by decide] at h
    cases h
  bool b u h := by
    have hnone : Json.ofWord (if b then "True".toList else "False".toList) = none := by
      cases b <;> decide
    rw [swapped_bool, hnone] at h
    cases h
  num n u h := by
    rw [swapped_num, ofWord_numberText] at h
    split at h
    · exact (Option.some.inj h).symm
    · cases h

/-! ## Strings with quotes -/

/-- Hexadecimal digits are no quotes. -/
theorem map_swapQuote_unicodeEscape (n : ℕ) (hn : n < 65536) :
    (Json.unicodeEscape n).map swapQuote = Json.unicodeEscape n := by
  have hdigit : ∀ d < 16, swapQuote (Json.hexDigit d) = Json.hexDigit d := by decide
  simp only [Json.unicodeEscape, List.map_cons, List.map_nil, hdigit (n / 4096) (by omega),
    hdigit (n / 256 % 16) (by omega), hdigit (n / 16 % 16) (by omega), hdigit (n % 16) (by omega),
    swapQuote_of_ne (show 'u' ≠ '\'' by decide)]

/-- What a character of a string stands for in the text with double quotes is no quote `a`, unless
it is an escaped double one. -/
theorem lacks_unit {a quote c : Char} {rest : List Char} (ha : a = '\'' ∨ a = '"')
    (hquote : swapQuote quote = '"') (hescaped : c = quote → a ≠ '"')
    (h : Json.Lacks a rest) :
    Json.Lacks a ((py.reprChar quote c).map swapQuote ++ rest) := by
  have hne : ∀ b, b ≠ '\'' → b ≠ '"' → b ≠ a := by
    rintro b hsingle hdouble rfl
    exact ha.elim hsingle hdouble
  unfold reprChar
  split_ifs with hescape hn hr ht hprintable hbyte hplane
  · rcases hescape with rfl | rfl
    · -- An escaped quote is read as a double one.
      simp only [List.map_cons, List.map_nil, hquote,
        swapQuote_of_ne (show '\\' ≠ '\'' by decide)]
      exact .escape rfl (fun heq => hescaped rfl heq.symm) h
    · exact .escape rfl (hne _ (by decide) (by decide)) h
  · exact .escape rfl (hne '\n' (by decide) (by decide)) h
  · exact .escape rfl (hne '\r' (by decide) (by decide)) h
  · exact .escape rfl (hne '\t' (by decide) (by decide)) h
  · rw [not_or] at hescape
    show Json.Lacks a (swapQuote c :: rest)
    by_cases hsingle : c = '\''
    · rw [hsingle]
      exact .plain (by decide) (Or.inl rfl) h
    · rw [swapQuote_of_ne hsingle]
      refine .plain hescape.2 ?_ h
      by_cases hdouble : c = '"'
      · exact Or.inl hdouble
      · exact Or.inr (hne c hsingle hdouble)
  · exact .broken rfl
  · have hread : Json.unescape (Json.unicodeEscape c.toNat ++ rest) = some (c, rest) := by
      rw [Json.unescape_unicodeEscape, Json.unicodeChar_of_lt hplane]
    rw [List.map_cons, map_swapQuote_unicodeEscape _ hplane]
    refine .escape hread (hne c ?_ ?_) h
    · rintro rfl
      exact hbyte (by decide)
    · rintro rfl
      exact hbyte (by decide)
  · exact .broken rfl

/-- A string literal lacks the single quote, and also the double one if the string has no single
one. -/
theorem lacksLiteral_swapped {a : Char} {s : String}
    (ha : a = '\'' ∨ a = '"' ∧ '\'' ∉ s.toList) : py.swapped.LacksLiteral a s := by
  intro rest h
  rw [swapped_literal, List.cons_append, List.append_assoc]
  refine .plain (by decide) (Or.inl rfl) ?_
  have hend : Json.Lacks a (['"'] ++ rest) := .plain (by decide) (Or.inl rfl) h
  -- Character by character, from the end of the literal.
  have hbody : ∀ cs : List Char, (a = '"' → '\'' ∉ cs) → (a = '"' → reprQuote s = '\'') →
      Json.Lacks a (cs.flatMap (fun c => (py.reprChar (reprQuote s) c).map swapQuote) ++
        (['"'] ++ rest)) := by
    intro cs hcs hquote
    induction cs with
    | nil => exact hend
    | cons c cs ih =>
        rw [List.flatMap_cons, List.append_assoc]
        refine py.lacks_unit (ha.imp_right And.left) (swapQuote_reprQuote s) ?_
          (ih fun hdouble hmem => hcs hdouble (List.mem_cons_of_mem _ hmem))
        intro hc hdouble
        refine hcs hdouble ?_
        rw [← hquote hdouble, ← hc]
        exact List.mem_cons_self
  refine hbody s.toList (fun hdouble => ?_) (fun hdouble => ?_)
  · rcases ha with rfl | ⟨-, hnone⟩
    · exact absurd hdouble (by decide)
    · exact hnone
  · rcases ha with rfl | ⟨-, hnone⟩
    · exact absurd hdouble (by decide)
    · exact if_neg fun hboth => hnone hboth.1

/-! ## Strings without quotes -/

/-- A string without quotes. -/
def QuoteFree (s : String) : Prop :=
  '\'' ∉ s.toList ∧ '"' ∉ s.toList

/-- A plain character is read back from a string literal. -/
theorem stringBody_unit {c : Char} (hc : py.PlainChar c) (fuel : ℕ) (rest : List Char) :
    Json.stringBody (fuel + 1) ((py.reprChar '\'' c).map swapQuote ++ rest) =
      (Json.stringBody fuel rest).map fun p => (c :: p.1, p.2) := by
  obtain ⟨hsingle, hdouble, hplain⟩ := hc
  unfold reprChar
  split_ifs with hescape hn hr ht hprintable hbyte hplane
  · obtain rfl := hescape.resolve_left hsingle
    exact Json.stringBody_backslash rfl fuel
  · exact Json.stringBody_backslash (by rw [hn]; rfl) fuel
  · exact Json.stringBody_backslash (by rw [hr]; rfl) fuel
  · exact Json.stringBody_backslash (by rw [ht]; rfl) fuel
  · have hge := py.isPrintable_ge c hprintable
    show Json.stringBody (fuel + 1) (swapQuote c :: rest) = _
    rw [swapQuote_of_ne hsingle, Json.stringBody, if_neg hdouble,
      if_neg fun heq => hescape (Or.inr heq), if_neg (by omega)]
  · simp [hn, hr, ht, hprintable, not_or.mp hescape] at hplain
    omega
  · rw [List.map_cons, map_swapQuote_unicodeEscape _ hplane]
    have hread : Json.unescape (Json.unicodeEscape c.toNat ++ rest) = some (c, rest) := by
      rw [Json.unescape_unicodeEscape, Json.unicodeChar_of_lt hplane]
    exact Json.stringBody_backslash hread fuel
  · simp [hn, hr, ht, hprintable, not_or.mp hescape] at hplain
    omega

/-- A character that is neither plain nor a quote is written as an escape that JSON does not
have. -/
theorem stringBody_unit_eq_none {c : Char} (hsingle : c ≠ '\'') (hdouble : c ≠ '"')
    (hc : ¬py.PlainChar c) (fuel : ℕ) (rest : List Char) :
    Json.stringBody fuel ((py.reprChar '\'' c).map swapQuote ++ rest) = none := by
  have hplain : ¬(c = '\\' ∨ c = '\n' ∨ c = '\r' ∨ c = '\t' ∨ py.isPrintable c = true ∨
      256 ≤ c.toNat ∧ c.toNat < 65536) := fun hplain => hc ⟨hsingle, hdouble, hplain⟩
  simp only [not_or] at hplain
  obtain ⟨hbackslash, hn, hr, ht, hprintable, hplane⟩ := hplain
  have hbroken : ∀ text, Json.unescape text = none →
      Json.stringBody fuel ('\\' :: text) = none := by
    intro text htext
    cases fuel with
    | zero => rfl
    | succ fuel => rw [Json.stringBody, if_neg (by decide), if_pos rfl, htext]; rfl
  unfold reprChar
  rw [if_neg (not_or.mpr ⟨hsingle, hbackslash⟩), if_neg hn, if_neg hr, if_neg ht,
    if_neg hprintable]
  split_ifs with hbyte hplane'
  · exact hbroken _ rfl
  · exact absurd ⟨by omega, hplane'⟩ hplane
  · exact hbroken _ rfl

/-- The inside of a literal is read as the string that was written or not at all. -/
theorem of_stringBody_units {cs : List Char} (hcs : '\'' ∉ cs ∧ '"' ∉ cs) {fuel : ℕ}
    {rest : List Char} {r : List Char × List Char}
    (h : Json.stringBody fuel
      (cs.flatMap (fun c => (py.reprChar '\'' c).map swapQuote) ++ '"' :: rest) = some r) :
    (∀ c ∈ cs, py.PlainChar c) ∧ r = (cs, rest) := by
  induction cs generalizing fuel r with
  | nil =>
      cases fuel with
      | zero => cases h
      | succ fuel =>
          cases h
          exact ⟨by simp, rfl⟩
  | cons c cs ih =>
      simp only [List.mem_cons, not_or] at hcs
      obtain ⟨⟨hsingle, hsingles⟩, hdouble, hdoubles⟩ := hcs
      rw [List.flatMap_cons, List.append_assoc] at h
      by_cases hc : py.PlainChar c
      · cases fuel with
        | zero => cases h
        | succ fuel =>
            rw [py.stringBody_unit hc] at h
            obtain ⟨p, hp, rfl⟩ := Option.map_eq_some_iff.mp h
            obtain ⟨hplain, rfl⟩ := ih ⟨hsingles, hdoubles⟩ hp
            exact ⟨List.forall_mem_cons.mpr ⟨hc, hplain⟩, rfl⟩
      · rw [py.stringBody_unit_eq_none (Ne.symm hsingle) (Ne.symm hdouble) hc] at h
        cases h

/-- The inside of a literal of plain characters is read back. -/
theorem stringBody_units {cs : List Char} (hcs : ∀ c ∈ cs, py.PlainChar c) {fuel : ℕ}
    (hfuel : cs.length < fuel) (rest : List Char) :
    Json.stringBody fuel
      (cs.flatMap (fun c => (py.reprChar '\'' c).map swapQuote) ++ '"' :: rest) =
        some (cs, rest) := by
  induction cs generalizing fuel with
  | nil =>
      obtain ⟨fuel, rfl⟩ := Nat.exists_eq_succ_of_ne_zero (show fuel ≠ 0 by omega)
      simp [Json.stringBody]
  | cons c cs ih =>
      obtain ⟨fuel, rfl⟩ := Nat.exists_eq_succ_of_ne_zero (show fuel ≠ 0 by omega)
      obtain ⟨hc, hcs⟩ := List.forall_mem_cons.mp hcs
      rw [List.flatMap_cons, List.append_assoc, py.stringBody_unit hc,
        ih hcs (by simpa using hfuel)]
      rfl

/-- A character takes up room in a literal. -/
theorem length_reprChar_pos (quote c : Char) : 0 < (py.reprChar quote c).length := by
  unfold reprChar
  split_ifs <;> simp

/-- The literal of a string without quotes. -/
theorem swapped_literal_of_quoteFree {s : String} (hs : QuoteFree s) (rest : List Char) :
    py.swapped.literal s ++ rest =
      '"' :: (s.toList.flatMap (fun c => (py.reprChar '\'' c).map swapQuote) ++ '"' :: rest) := by
  have hquote : reprQuote s = '\'' := if_neg fun hboth => hs.1 hboth.1
  rw [swapped_literal, hquote, List.cons_append, List.append_assoc, List.singleton_append]

/-- A string without quotes is read back exactly if its characters are plain. -/
theorem readsLiteral_swapped_iff {s : String} (hs : QuoteFree s) :
    py.swapped.ReadsLiteral s ↔ ∀ c ∈ s.toList, py.PlainChar c := by
  constructor
  · intro h
    have hread := h []
    rw [py.swapped_literal_of_quoteFree hs, Json.stringLiteral] at hread
    obtain ⟨p, hp, -⟩ := Option.map_eq_some_iff.mp hread
    exact (py.of_stringBody_units hs hp).1
  · intro hplain rest
    have hlength : ∀ cs : List Char,
        cs.length ≤ (cs.flatMap fun c => (py.reprChar '\'' c).map swapQuote).length := by
      intro cs
      induction cs with
      | nil => simp
      | cons c cs ih =>
          have hpos := py.length_reprChar_pos '\'' c
          simp only [List.flatMap_cons, List.length_append, List.length_cons, List.length_map]
          omega
    rw [py.swapped_literal_of_quoteFree hs, Json.stringLiteral, py.stringBody_units hplain]
    · simp
    · have hle := hlength s.toList
      simp only [List.length_append, List.length_cons]
      omega

/-- A string without quotes is read back if it is read at all. -/
theorem decidesLiteral_swapped {s : String} (hs : QuoteFree s) : py.swapped.DecidesLiteral s := by
  intro rest r hread
  rw [py.readsLiteral_swapped_iff hs]
  rw [py.swapped_literal_of_quoteFree hs, Json.stringLiteral] at hread
  obtain ⟨p, hp, -⟩ := Option.map_eq_some_iff.mp hread
  exact (py.of_stringBody_units hs hp).1

mutual

/-- The parts of a value whose strings have no quotes are read back exactly if they are plain. -/
theorem reads_swapped_iff : ∀ v : Json, (∀ s ∈ v.strings, QuoteFree s) →
    (py.swapped.Reads v ↔ py.Plain v)
  | .null, _ => by
      rw [Json.Writer.Reads, Plain, swapped_null]
      decide
  | .bool b, _ => by
      have hnone : Json.ofWord (if b then "True".toList else "False".toList) = none := by
        cases b <;> decide
      rw [Json.Writer.Reads, Plain, swapped_bool, hnone]
      simp
  | .num n, _ => by
      rw [Json.Writer.Reads, Plain, swapped_num, ofWord_numberText]
      split <;> simp_all
  | .str s, hs => py.readsLiteral_swapped_iff (hs s (by simp [Json.strings]))
  | .arr vs, hs => readsElements_swapped_iff vs hs
  | .obj kvs, hs => readsMembers_swapped_iff kvs hs

/-- So are the elements of a list. -/
theorem readsElements_swapped_iff : ∀ vs : List Json,
    (∀ s ∈ Json.stringsElements vs, QuoteFree s) →
      (py.swapped.ReadsElements vs ↔ py.PlainElements vs)
  | [], _ => Iff.rfl
  | v :: vs, hs =>
      and_congr (reads_swapped_iff v fun s h => hs s (List.mem_append_left _ h))
        (readsElements_swapped_iff vs fun s h => hs s (List.mem_append_right _ h))

/-- So are the members of a `dict`. -/
theorem readsMembers_swapped_iff : ∀ kvs : List (String × Json),
    (∀ s ∈ Json.stringsMembers kvs, QuoteFree s) →
      (py.swapped.ReadsMembers kvs ↔ py.PlainMembers kvs)
  | [], _ => Iff.rfl
  | (k, v) :: kvs, hs =>
      and_congr (py.readsLiteral_swapped_iff (hs k List.mem_cons_self))
        (and_congr
          (reads_swapped_iff v fun s h =>
            hs s (List.mem_cons_of_mem _ (List.mem_append_left _ h)))
          (readsMembers_swapped_iff kvs fun s h =>
            hs s (List.mem_cons_of_mem _ (List.mem_append_right _ h))))

end

/-- Plain characters are no quotes. -/
theorem quoteFree_of_plainChar {s : String} (h : ∀ c ∈ s.toList, py.PlainChar c) : QuoteFree s :=
  ⟨fun hmem => (h _ hmem).1 rfl, fun hmem => (h _ hmem).2.1 rfl⟩

mutual

/-- The strings of a plain value have no quotes. -/
theorem quoteFree_of_plain : ∀ v : Json, py.Plain v → ∀ s ∈ v.strings, QuoteFree s
  | .null, h => h.elim
  | .bool _, h => h.elim
  | .num _, _ => by simp [Json.strings]
  | .str s, h => by simpa [Json.strings] using py.quoteFree_of_plainChar h
  | .arr vs, h => quoteFree_of_plainElements vs h
  | .obj kvs, h => quoteFree_of_plainMembers kvs h

/-- So for a list of plain values. -/
theorem quoteFree_of_plainElements : ∀ vs : List Json, py.PlainElements vs →
    ∀ s ∈ Json.stringsElements vs, QuoteFree s
  | [], _, _, hs => absurd hs List.not_mem_nil
  | v :: vs, h, s, hs => (List.mem_append.mp hs).elim (quoteFree_of_plain v h.1 s)
      (quoteFree_of_plainElements vs h.2 s)

/-- So for a list of plain members. -/
theorem quoteFree_of_plainMembers : ∀ kvs : List (String × Json), py.PlainMembers kvs →
    ∀ s ∈ Json.stringsMembers kvs, QuoteFree s
  | [], _, _, hs => absurd hs List.not_mem_nil
  | (k, v) :: kvs, h, s, hs => by
      rcases List.mem_cons.mp hs with rfl | hs
      · exact py.quoteFree_of_plainChar h.1
      · exact (List.mem_append.mp hs).elim (quoteFree_of_plain v h.2.1 s)
          (quoteFree_of_plainMembers kvs h.2.2 s)

end

/-! ## Values of a text -/

/-- A Python value is its own value. -/
@[simp]
theorem ofJson_ofJson (v : Json) : py.ofJson (py.ofJson v) = py.ofJson v := by
  have hread : py.readNumber ∘ py.readNumber = py.readNumber := funext py.readNumber_readNumber
  rw [ofJson, ofJson, Json.read_read, hread]

/-- A text is read as a value if it is one of JSON whose integers are converted. -/
theorem loads_eq_some_iff {s : String} {v : Json} :
    py.loads s = some v ↔ ∃ w, Json.loads s = some w ∧ w.fits = true ∧ py.ofJson w = v := by
  rw [loads, Option.bind_eq_some_iff]
  refine exists_congr fun w => and_congr_right fun _ => ?_
  by_cases hfits : w.fits = true <;> simp [hfits]

/-- What is read from a text is a value. -/
theorem isValue_of_loads {s : String} {v : Json} (h : py.loads s = some v) : py.IsValue v := by
  obtain ⟨w, -, hfits, rfl⟩ := py.loads_eq_some_iff.mp h
  exact ⟨py.ofJson_ofJson w, Json.fits_read py.fits_readNumber hfits⟩

/-- A text of a value is read as the value. -/
theorem loads_of_isValue {s : String} {v : Json} (hv : py.IsValue v) (h : Json.loads s = some v) :
    py.loads s = some v :=
  py.loads_eq_some_iff.mpr ⟨v, h, hv.fits, hv.ofJson_eq⟩

/-- What is written for a value is read back. -/
theorem loads_dumps {v : Json} (hv : py.IsValue v) : py.loads (Json.dumps v) = some v :=
  py.loads_of_isValue hv (Json.loads_dumps v)

/-- A string is a value. -/
theorem isValue_str (s : String) : py.IsValue (.str s) :=
  ⟨rfl, rfl⟩

/-- A text that is read as a string of JSON is read as that string. -/
theorem loads_eq_str_iff {s u : String} :
    py.loads s = some (.str u) ↔ Json.loads s = some (.str u) := by
  rw [loads_eq_some_iff]
  constructor
  · rintro ⟨w, hw, -, heq⟩
    cases w with
    | str t => rwa [← show Json.str t = .str u from heq]
    | _ => cases heq
  · exact fun h => ⟨_, h, rfl, rfl⟩

/-- The members of a `dict` that is its own value have distinct names and values that are their
own. -/
theorem of_ofJson_obj {kvs : List (String × Json)} (h : py.ofJson (.obj kvs) = .obj kvs) :
    (kvs.map Prod.fst).Nodup ∧ ∀ kv ∈ kvs, py.ofJson kv.2 = kv.2 := by
  obtain ⟨hnodup, hmembers⟩ := Json.of_read_obj h
  refine ⟨hnodup, fun kv hkv => ?_⟩
  rw [Json.readMembers_eq] at hmembers
  have hkv' : (kv.1, py.ofJson kv.2) = kv :=
    List.map_inj_left.mp (hmembers.trans (List.map_id kvs).symm) kv hkv
  exact congrArg Prod.snd hkv'

/-! ## Equal values -/

mutual

/-- Equal values have the same strings. -/
theorem mem_strings_of_eqv {b : Bool} : ∀ {v u : Json}, py.eqv b v u = true →
    ∀ s ∈ v.strings, s ∈ u.strings
  | .null, _, _, _, hs => absurd hs List.not_mem_nil
  | .bool _, _, _, _, hs => absurd hs List.not_mem_nil
  | .num _, _, _, _, hs => absurd hs List.not_mem_nil
  | .str s, u, h, _, hs => by
      cases u <;> simp_all [eqv, Json.strings]
  | .arr vs, u, h, s, hs => by
      cases u with
      | arr us => exact mem_strings_of_eqvElements (by simpa [eqv] using h) s hs
      | _ => simp [eqv] at h
  | .obj kvs, u, h, s, hs => by
      cases u with
      | obj lus =>
          simp only [eqv, Bool.and_eq_true] at h
          exact mem_strings_of_eqvMembers h.2 s hs
      | _ => simp [eqv] at h

/-- So for the elements of lists. -/
theorem mem_strings_of_eqvElements {b : Bool} : ∀ {vs us : List Json},
    py.eqvElements b vs us = true → ∀ s ∈ Json.stringsElements vs, s ∈ Json.stringsElements us
  | [], _, _, _, hs => absurd hs List.not_mem_nil
  | v :: vs, us, h, s, hs => by
      cases us with
      | nil => simp [eqvElements] at h
      | cons u us =>
          simp only [eqvElements, Bool.and_eq_true] at h
          exact (List.mem_append.mp hs).elim
            (fun hs => List.mem_append_left _ (mem_strings_of_eqv h.1 s hs))
            (fun hs => List.mem_append_right _ (mem_strings_of_eqvElements h.2 s hs))

/-- So for members that another `dict` has. -/
theorem mem_strings_of_eqvMembers {b : Bool} : ∀ {kvs lus : List (String × Json)},
    py.eqvMembers b kvs lus = true → ∀ s ∈ Json.stringsMembers kvs, s ∈ Json.stringsMembers lus
  | [], _, _, _, hs => absurd hs List.not_mem_nil
  | (k, v) :: kvs, lus, h, s, hs => by
      rw [eqvMembers, Bool.and_eq_true] at h
      obtain ⟨hv, hkvs⟩ := h
      rcases List.mem_cons.mp hs with rfl | hs
      · split at hv
        · rename_i lu hfind
          refine Json.mem_stringsMembers.mpr ⟨lu, List.mem_of_find?_eq_some hfind, Or.inl ?_⟩
          exact (of_decide_eq_true (List.find?_some (p := fun lu : String × Json => lu.1 = s)
            hfind)).symm
        · cases hv
      · rcases List.mem_append.mp hs with hs | hs
        · split at hv
          · rename_i lu hfind
            exact Json.mem_stringsMembers.mpr ⟨lu, List.mem_of_find?_eq_some hfind,
              Or.inr (mem_strings_of_eqv hv s hs)⟩
          · cases hv
        · exact mem_strings_of_eqvMembers hkvs s hs

end

/-- The members of a `dict` that another has. -/
theorem eqvMembers_of_found {b : Bool} {kvs lus : List (String × Json)}
    (h : ∀ kv ∈ kvs, ∃ lu, lus.find? (·.1 = kv.1) = some lu ∧ py.eqv b kv.2 lu.2 = true) :
    py.eqvMembers b kvs lus = true := by
  induction kvs with
  | nil => rfl
  | cons kv kvs ih =>
      obtain ⟨⟨lu, hfind, heqv⟩, h⟩ := List.forall_mem_cons.mp h
      rw [eqvMembers, hfind, ih h, Bool.and_true]
      exact heqv

mutual

/-- A plain Python value is equal to itself. -/
theorem eqv_self (b : Bool) : ∀ {v : Json}, py.Plain v → py.ofJson v = v → py.eqv b v v = true
  | .null, _, _ => rfl
  | .bool _, _, _ => by simp [eqv]
  | .num n, h, _ => py.numberEq_self n h
  | .str _, _, _ => by simp [eqv]
  | .arr vs, h, hv => eqvElements_self b h (Json.arr.inj hv)
  | .obj kvs, h, hv => by
      obtain ⟨hnodup, hvalues⟩ := py.of_ofJson_obj hv
      rw [eqv, Bool.and_eq_true]
      exact ⟨decide_eq_true rfl, eqvMembers_self b h hvalues hnodup fun kv hkv => hkv⟩

/-- So are the elements of a list. -/
theorem eqvElements_self (b : Bool) : ∀ {vs : List Json}, py.PlainElements vs →
    Json.readElements py.readNumber vs = vs → py.eqvElements b vs vs = true
  | [], _, _ => rfl
  | v :: vs, h, hvs => by
      rw [Json.readElements, List.cons.injEq] at hvs
      rw [eqvElements, eqv_self b h.1 hvs.1, eqvElements_self b h.2 hvs.2]
      rfl

/-- So are members that a `dict` has. -/
theorem eqvMembers_self (b : Bool) : ∀ {kvs lus : List (String × Json)}, py.PlainMembers kvs →
    (∀ kv ∈ kvs, py.ofJson kv.2 = kv.2) → (lus.map Prod.fst).Nodup → (∀ kv ∈ kvs, kv ∈ lus) →
      py.eqvMembers b kvs lus = true
  | [], _, _, _, _, _ => rfl
  | (k, v) :: kvs, lus, h, hvalues, hnodup, hmem => by
      have hfind := Table.find?_of_mem hnodup (hmem (k, v) List.mem_cons_self)
      dsimp only at hfind
      rw [eqvMembers, hfind]
      dsimp only
      rw [eqv_self b h.2.1 (hvalues (k, v) List.mem_cons_self), eqvMembers_self b h.2.2
        (fun kv hkv => hvalues kv (List.mem_cons_of_mem _ hkv)) hnodup
        (fun kv hkv => hmem kv (List.mem_cons_of_mem _ hkv))]
      rfl

end

mutual

/-- Equality of Python values is symmetric. -/
theorem eqv_symm {b : Bool} : ∀ {v u : Json}, py.ofJson v = v → py.ofJson u = u →
    py.eqv b v u = true → py.eqv b u v = true
  | .null, u, _, _, h => by cases u <;> simp_all [eqv]
  | .bool _, u, _, _, h => by
      cases u with
      | num m => rw [eqv, py.numberEq_comm]; rwa [eqv] at h
      | _ => simp_all [eqv]
  | .num n, u, _, _, h => by
      cases u with
      | num m => rw [eqv, py.numberEq_comm]; rwa [eqv] at h
      | bool c => rw [eqv, py.numberEq_comm]; rwa [eqv] at h
      | _ => simp_all [eqv]
  | .str _, u, _, _, h => by cases u <;> simp_all [eqv]
  | .arr vs, u, hv, hu, h => by
      cases u with
      | arr us => exact eqvElements_symm (Json.arr.inj hv) (Json.arr.inj hu) (by rwa [eqv] at h)
      | _ => simp_all [eqv]
  | .obj kvs, u, hv, hu, h => by
      cases u with
      | obj lus =>
          obtain ⟨hkeys, hvalues⟩ := py.of_ofJson_obj hv
          obtain ⟨hlkeys, hlvalues⟩ := py.of_ofJson_obj hu
          rw [eqv, Bool.and_eq_true, decide_eq_true_eq] at h ⊢
          have hfound := eqvMembers_symm hvalues hlvalues h.2
          refine ⟨h.1.symm, py.eqvMembers_of_found fun lu hlu => ?_⟩
          -- The one `dict` has as many names as the other, which has all of them.
          have hsubset : kvs.map Prod.fst ⊆ lus.map Prod.fst := by
            intro k hk
            obtain ⟨kv, hkv, rfl⟩ := List.mem_map.mp hk
            obtain ⟨lu, hlu, hname, -⟩ := hfound kv hkv
            exact List.mem_map.mpr ⟨lu, hlu, hname⟩
          have hperm : (kvs.map Prod.fst).Perm (lus.map Prod.fst) :=
            (hkeys.subperm hsubset).perm_of_length_le (by simp [h.1])
          obtain ⟨kv, hkv, hname⟩ :=
            List.mem_map.mp (hperm.mem_iff.mpr (List.mem_map_of_mem hlu))
          obtain ⟨lu', hlu', hname', heqv⟩ := hfound kv hkv
          obtain rfl := List.inj_on_of_nodup_map hlkeys hlu' hlu (hname'.trans hname)
          refine ⟨kv, ?_, heqv⟩
          rw [← hname]
          exact Table.find?_of_mem hkeys hkv
      | _ => simp_all [eqv]

/-- So is that of the elements of lists. -/
theorem eqvElements_symm {b : Bool} : ∀ {vs us : List Json},
    Json.readElements py.readNumber vs = vs → Json.readElements py.readNumber us = us →
      py.eqvElements b vs us = true → py.eqvElements b us vs = true
  | [], us, _, _, h => by cases us <;> simp_all [eqvElements]
  | v :: vs, us, hvs, hus, h => by
      cases us with
      | nil => simp [eqvElements] at h
      | cons u us =>
          rw [Json.readElements, List.cons.injEq] at hvs hus
          rw [eqvElements, Bool.and_eq_true] at h ⊢
          exact ⟨eqv_symm hvs.1 hus.1 h.1, eqvElements_symm hvs.2 hus.2 h.2⟩

/-- Members that another `dict` has are equal to those of it. -/
theorem eqvMembers_symm {b : Bool} : ∀ {kvs lus : List (String × Json)},
    (∀ kv ∈ kvs, py.ofJson kv.2 = kv.2) → (∀ lu ∈ lus, py.ofJson lu.2 = lu.2) →
      py.eqvMembers b kvs lus = true →
        ∀ kv ∈ kvs, ∃ lu ∈ lus, lu.1 = kv.1 ∧ py.eqv b lu.2 kv.2 = true
  | [], _, _, _, _, _, hkv => absurd hkv List.not_mem_nil
  | (k, v) :: kvs, lus, hvalues, hlvalues, h, kv, hkv => by
      rw [eqvMembers, Bool.and_eq_true] at h
      obtain ⟨hvalue, hvalues⟩ := List.forall_mem_cons.mp hvalues
      rcases List.mem_cons.mp hkv with rfl | hkv
      · have hv := h.1
        split at hv
        · rename_i lu hfind
          have hmem := List.mem_of_find?_eq_some hfind
          exact ⟨lu, hmem, by simpa using List.find?_some hfind,
            eqv_symm hvalue (hlvalues lu hmem) hv⟩
        · cases hv
      · exact eqvMembers_symm hvalues hlvalues h.2 kv hkv

end

/-! ## Reading the text of a container -/

/-- A value that is read from the text with double quotes, and is equal to the one that was written,
has the strings of that one only. -/
theorem notMem_of_eqv {a : Char} {v w : Json} {text : List Char} (hlacks : Json.Lacks a text)
    (hread : Json.loads (String.ofList text) = some w)
    {b : Bool} (heqv : py.eqv b v (py.ofJson w) = true) :
    ∀ s ∈ v.strings, a ∉ s.toList := by
  intro s hs
  have hlacks' : Json.Lacks a (String.ofList text).toList := by rwa [String.toList_ofList]
  exact Json.notMem_of_loads hlacks' hread s
    (Json.mem_strings_of_read w s (py.mem_strings_of_eqv heqv s hs))

/-- A value that is equal to what is read from its text with double quotes has no quotes in its
strings. -/
theorem quoteFree_of_eqv {v w : Json}
    (hread : Json.loads (String.ofList (py.swapped.text v)) = some w)
    {b : Bool} (heqv : py.eqv b v (py.ofJson w) = true) : ∀ s ∈ v.strings, QuoteFree s := by
  have hlacks : ∀ a, Json.isWordChar a = false → a ∉ Json.marks →
      (∀ s ∈ v.strings, py.swapped.LacksLiteral a s) → Json.Lacks a (py.swapped.text v) := by
    intro a hword hmark hstrings
    simpa using py.lawful_swapped.lacks_text hword hmark v [] hstrings .nil
  -- Single quotes first: the text has none, so no string that is read has one.
  have hsingle : ∀ s ∈ v.strings, '\'' ∉ s.toList :=
    py.notMem_of_eqv (hlacks '\'' (by decide) (by decide) fun s _ =>
      py.lacksLiteral_swapped (Or.inl rfl)) hread heqv
  -- Without them a double quote is written only around a literal.
  have hdouble : ∀ s ∈ v.strings, '"' ∉ s.toList :=
    py.notMem_of_eqv (hlacks '"' (by decide) (by decide) fun s hs =>
      py.lacksLiteral_swapped (Or.inr ⟨rfl, hsingle s hs⟩)) hread heqv
  exact fun s hs => ⟨hsingle s hs, hdouble s hs⟩

/-- What is read from the text of a value, with double quotes for single ones, is that value exactly
if its parts are plain. -/
theorem loads_swapped_iff {v w : Json} (b : Bool) (hv : py.ofJson v = v)
    (hread : Json.loads (String.ofList (py.swapped.text v)) = some w) :
    py.eqv b v (py.ofJson w) = true ↔ py.Plain v := by
  constructor
  · intro heqv
    have hfree := py.quoteFree_of_eqv hread heqv
    have hreads := py.lawful_swapped.reads_of_loads py.strict_swapped
      (fun s hs => py.decidesLiteral_swapped (hfree s hs)) hread
    exact (py.reads_swapped_iff v hfree).mp hreads.1
  · intro hplain
    have hreads := (py.reads_swapped_iff v (py.quoteFree_of_plain v hplain)).mpr hplain
    rw [py.lawful_swapped.loads_text hreads] at hread
    cases hread
    rw [hv]
    exact py.eqv_self b hplain hv

/-- The text of a plain value, with double quotes for single ones, is read. -/
theorem loads_swapped_of_plain {v : Json} (hplain : py.Plain v) :
    Json.loads (String.ofList (py.swapped.text v)) = some v :=
  py.lawful_swapped.loads_text
    ((py.reads_swapped_iff v (py.quoteFree_of_plain v hplain)).mpr hplain)

end Python
