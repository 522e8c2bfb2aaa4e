import Mathlib

/-!
# JSON texts

`dumps` and `loads` as Python's `json` module defines them with its default arguments. A number is
kept as its literal. An object is kept as its list of members in the order of the text, and a
member is looked up as in a Python `dict`: the last one of a name wins.

Python strings can hold lone surrogates, which are no characters here: a text with an escape for
one is rejected.

## Main definitions

* `Json`: the values;
* `dumps` and `loads`: writing and reading a text.

## Main results

* `loads_dumps`: what is written is read back;
* `loads_of_head`: a text that starts with no value is rejected.
-/

namespace Json

/-- The characters of the literals that stand without quotes. -/
def isWordChar (c : Char) : Bool :=
  c.isAlphanum || c = '-' || c = '+' || c = '.'

/-- One digit or more at the front of a text, and what follows them. -/
def dropDigits : List Char → Option (List Char)
  | [] => none
  | c :: rest => if c.isDigit then some (rest.dropWhile Char.isDigit) else none

/-- The integer part of a number: no leading zeros. -/
def dropInteger : List Char → Option (List Char)
  | '0' :: rest => some rest
  | rest => dropDigits rest

/-- The exponent of a number, if there is one, is all that is left. -/
def isExponent : List Char → Bool
  | [] => true
  | 'e' :: '+' :: rest => dropDigits rest = some []
  | 'e' :: '-' :: rest => dropDigits rest = some []
  | 'e' :: rest => dropDigits rest = some []
  | 'E' :: '+' :: rest => dropDigits rest = some []
  | 'E' :: '-' :: rest => dropDigits rest = some []
  | 'E' :: rest => dropDigits rest = some []
  | _ => false

/-- What may follow the integer part of a number. -/
def isFraction : List Char → Bool
  | '.' :: rest => (dropDigits rest).any isExponent
  | rest => isExponent rest

/-- A number literal, or one of the three that Python adds. -/
def isNumber (word : List Char) : Bool :=
  word = "NaN".toList || word = "Infinity".toList || word = "-Infinity".toList ||
    (dropInteger (if word.head? = some '-' then word.tail else word)).any isFraction

/-- A number, by its literal. -/
structure Number where
  literal : List Char
  isWord : literal.all isWordChar = true
  isNumber : Json.isNumber literal = true
  deriving DecidableEq

end Json

/-- A JSON value. -/
inductive Json where
  | null
  | bool (b : Bool)
  | num (n : Json.Number)
  | str (s : String)
  | arr (elements : List Json)
  | obj (members : List (String × Json))

namespace Json

section Dumps

/-- The hexadecimal digit of a number below sixteen. -/
def hexDigit (n : ℕ) : Char :=
  if n < 10 then Char.ofNat (48 + n) else Char.ofNat (87 + n)

/-- The escape `\uXXXX` of a number below `2 ^ 16`, without its backslash. -/
def unicodeEscape (n : ℕ) : List Char :=
  ['u', hexDigit (n / 4096), hexDigit (n / 256 % 16), hexDigit (n / 16 % 16), hexDigit (n % 16)]

/-- A character in a string literal. Outside printable ASCII it is escaped, as a surrogate pair
beyond the basic plane. -/
def escape (c : Char) : List Char :=
  if c = '"' then ['\\', '"']
  else if c = '\\' then ['\\', '\\']
  else if c = '\n' then ['\\', 'n']
  else if c = '\r' then ['\\', 'r']
  else if c = '\t' then ['\\', 't']
  else if c.toNat = 12 then ['\\', 'f']
  else if c.toNat = 8 then ['\\', 'b']
  else if 32 ≤ c.toNat ∧ c.toNat < 127 then [c]
  else if c.toNat < 65536 then '\\' :: unicodeEscape c.toNat
  else '\\' :: unicodeEscape (55296 + (c.toNat - 65536) / 1024) ++
    '\\' :: unicodeEscape (56320 + (c.toNat - 65536) % 1024)

/-- A string literal. -/
def quote (s : String) : List Char :=
  '"' :: (s.toList.flatMap escape ++ ['"'])

mutual

/-- The text of a value. -/
def print : Json → List Char
  | .null => "null".toList
  | .bool true => "true".toList
  | .bool false => "false".toList
  | .num n => n.literal
  | .str s => quote s
  | .arr [] => ['[', ']']
  | .arr (v :: vs) => '[' :: (print v ++ printElements vs)
  | .obj [] => ['{', '}']
  | .obj ((k, v) :: kvs) => '{' :: (quote k ++ ':' :: ' ' :: (print v ++ printMembers kvs))

/-- The text of an array after its first element. -/
def printElements : List Json → List Char
  | [] => [']']
  | v :: vs => ',' :: ' ' :: (print v ++ printElements vs)

/-- The text of an object after its first member. -/
def printMembers : List (String × Json) → List Char
  | [] => ['}']
  | (k, v) :: kvs => ',' :: ' ' :: (quote k ++ ':' :: ' ' :: (print v ++ printMembers kvs))

end

/-- `json.dumps`. -/
def dumps (v : Json) : String :=
  String.ofList (print v)

end Dumps

section Loads

/-- Skip white space. -/
def skipSpace (text : List Char) : List Char :=
  text.dropWhile fun c => c = ' ' || c = '\t' || c = '\n' || c = '\r'

/-- The value of a hexadecimal digit. -/
def hexValue (c : Char) : Option ℕ :=
  if '0' ≤ c ∧ c ≤ '9' then some (c.toNat - 48)
  else if 'a' ≤ c ∧ c ≤ 'f' then some (c.toNat - 87)
  else if 'A' ≤ c ∧ c ≤ 'F' then some (c.toNat - 55)
  else none

/-- The number in an escape `\uXXXX`, after its backslash. -/
def unicodeValue : List Char → Option (ℕ × List Char)
  | 'u' :: a :: b :: c :: d :: rest => do
    let a ← hexValue a
    let b ← hexValue b
    let c ← hexValue c
    let d ← hexValue d
    return (((a * 16 + b) * 16 + c) * 16 + d, rest)
  | _ => none

/-- The character of a number that is no surrogate. -/
def scalar (n : ℕ) : Option Char :=
  if h : n.isValidChar then some (Char.ofNatAux n h) else none

/-- The character of a Unicode escape. A high surrogate needs a low one after it. -/
def unicodeChar (text : List Char) : Option (Char × List Char) :=
  match unicodeValue text with
  | none => none
  | some (n, rest) =>
    if 55296 ≤ n ∧ n < 56320 then
      match rest with
      | '\\' :: rest =>
        match unicodeValue rest with
        | none => none
        | some (m, rest) =>
          if 56320 ≤ m ∧ m < 57344 then
            (scalar (65536 + (n - 55296) * 1024 + (m - 56320))).map fun c => (c, rest)
          else none
      | _ => none
    else (scalar n).map fun c => (c, rest)

/-- The character of an escape, after its backslash. -/
def unescape : List Char → Option (Char × List Char)
  | '"' :: rest => some ('"', rest)
  | '\\' :: rest => some ('\\', rest)
  | '/' :: rest => some ('/', rest)
  | 'b' :: rest => some (Char.ofNat 8, rest)
  | 'f' :: rest => some (Char.ofNat 12, rest)
  | 'n' :: rest => some ('\n', rest)
  | 'r' :: rest => some ('\r', rest)
  | 't' :: rest => some ('\t', rest)
  | rest => unicodeChar rest

/-- The rest of a string literal after its opening quote. -/
def stringBody : ℕ → List Char → Option (List Char × List Char)
  | 0, _ => none
  | _ + 1, [] => none
  | fuel + 1, c :: rest =>
    if c = '"' then some ([], rest)
    else if c = '\\' then
      (unescape rest).bind fun e => (stringBody fuel e.2).map fun p => (e.1 :: p.1, p.2)
    else if c.toNat < 32 then none
    else (stringBody fuel rest).map fun p => (c :: p.1, p.2)

/-- A string literal. -/
def stringLiteral : List Char → Option (String × List Char)
  | '"' :: rest => (stringBody rest.length rest).map fun p => (String.ofList p.1, p.2)
  | _ => none

/-- The value of a literal that stands without quotes. -/
def ofWord (word : List Char) : Option Json :=
  if word = "null".toList then some .null
  else if word = "true".toList then some (.bool true)
  else if word = "false".toList then some (.bool false)
  else if h : word.all isWordChar = true ∧ isNumber word = true then some (.num ⟨word, h.1, h.2⟩)
  else none

mutual

/-- A value at the front of a text. -/
def value : ℕ → List Char → Option (Json × List Char)
  | 0, _ => none
  | fuel + 1, text =>
    match text with
    | '"' :: _ => (stringLiteral text).map fun (s, rest) => (.str s, rest)
    | '[' :: rest =>
      match skipSpace rest with
      | ']' :: rest => some (.arr [], rest)
      | rest => (elements fuel rest).map fun (vs, rest) => (.arr vs, rest)
    | '{' :: rest =>
      match skipSpace rest with
      | '}' :: rest => some (.obj [], rest)
      | rest => (members fuel rest).map fun (kvs, rest) => (.obj kvs, rest)
    | text => (ofWord (text.takeWhile isWordChar)).map fun v => (v, text.dropWhile isWordChar)

/-- The elements of an array up to its closing bracket. -/
def elements : ℕ → List Char → Option (List Json × List Char)
  | 0, _ => none
  | fuel + 1, text => do
    let (v, rest) ← value fuel text
    match skipSpace rest with
    | ']' :: rest => return ([v], rest)
    | ',' :: rest => do
      let (vs, rest) ← elements fuel (skipSpace rest)
      return (v :: vs, rest)
    | _ => none

/-- The members of an object up to its closing brace. -/
def members : ℕ → List Char → Option (List (String × Json) × List Char)
  | 0, _ => none
  | fuel + 1, text => do
    let (k, rest) ← stringLiteral text
    match skipSpace rest with
    | ':' :: rest => do
      let (v, rest) ← value fuel (skipSpace rest)
      match skipSpace rest with
      | '}' :: rest => return ([(k, v)], rest)
      | ',' :: rest => do
        let (kvs, rest) ← members fuel (skipSpace rest)
        return ((k, v) :: kvs, rest)
      | _ => none
    | _ => none

end

/-- `json.loads`, or `none` where it raises. -/
def loads (s : String) : Option Json :=
  match value (2 * s.toList.length + 2) (skipSpace s.toList) with
  | some (v, rest) => if skipSpace rest = [] then some v else none
  | none => none

end Loads

section Strings

/-- A hexadecimal digit is read back. -/
theorem hexValue_hexDigit : ∀ n < 16, hexValue (hexDigit n) = some n := by
  decide

/-- A Unicode escape is read back. -/
theorem unicodeValue_unicodeEscape {n : ℕ} (hn : n < 65536) (rest : List Char) :
    unicodeValue (unicodeEscape n ++ rest) = some (n, rest) := by
  have ha := hexValue_hexDigit (n / 4096) (by omega)
  have hb := hexValue_hexDigit (n / 256 % 16) (by omega)
  have hc := hexValue_hexDigit (n / 16 % 16) (by omega)
  have hd := hexValue_hexDigit (n % 16) (by omega)
  have hvalue : ((n / 4096 * 16 + n / 256 % 16) * 16 + n / 16 % 16) * 16 + n % 16 = n := by omega
  simp [unicodeEscape, unicodeValue, ha, hb, hc, hd, hvalue]

/-- A character is the one of its number. -/
theorem scalar_toNat (c : Char) : scalar c.toNat = some c := by
  have hvalid : c.toNat.isValidChar := c.valid
  rw [scalar, dif_pos hvalid]
  rfl

/-- The code point of a character beyond the surrogates. -/
theorem toNat_lt_or_lt (c : Char) : c.toNat < 55296 ∨ 57343 < c.toNat ∧ c.toNat < 1114112 :=
  c.valid

/-- A character of the basic plane is read back from its escape. -/
theorem unicodeChar_of_lt {c : Char} (hc : c.toNat < 65536) (rest : List Char) :
    unicodeChar (unicodeEscape c.toNat ++ rest) = some (c, rest) := by
  have hno : ¬ (55296 ≤ c.toNat ∧ c.toNat < 56320) := by
    have hrange := toNat_lt_or_lt c
    omega
  simp [unicodeChar, unicodeValue_unicodeEscape hc, hno, scalar_toNat]

/-- A surrogate pair is the character of its code point. -/
theorem unicodeChar_pair {n m : ℕ} {c : Char} (hn : 55296 ≤ n ∧ n < 56320)
    (hm : 56320 ≤ m ∧ m < 57344)
    (hc : 65536 + (n - 55296) * 1024 + (m - 56320) = c.toNat) (rest : List Char) :
    unicodeChar (unicodeEscape n ++ '\\' :: (unicodeEscape m ++ rest)) = some (c, rest) := by
  have hfirst := unicodeValue_unicodeEscape (show n < 65536 by omega)
    ('\\' :: (unicodeEscape m ++ rest))
  have hsecond := unicodeValue_unicodeEscape (show m < 65536 by omega) rest
  simp only [unicodeChar, hfirst, hsecond, if_pos hn, if_pos hm, hc, scalar_toNat,
    Option.map_some]

/-- A character beyond the basic plane is read back from its surrogate pair. -/
theorem unicodeChar_of_le {c : Char} (hc : 65536 ≤ c.toNat) (rest : List Char) :
    unicodeChar (unicodeEscape (55296 + (c.toNat - 65536) / 1024) ++
      '\\' :: (unicodeEscape (56320 + (c.toNat - 65536) % 1024) ++ rest)) = some (c, rest) := by
  have hrange := toNat_lt_or_lt c
  refine unicodeChar_pair ?_ ?_ ?_ rest
  · omega
  · omega
  · omega

/-- An escape that starts with `u` is a Unicode escape. -/
theorem unescape_unicodeEscape (n : ℕ) (rest : List Char) :
    unescape (unicodeEscape n ++ rest) = unicodeChar (unicodeEscape n ++ rest) := rfl

/-- A character behind a backslash is the one of its escape. -/
theorem stringBody_backslash {text rest : List Char} {c : Char}
    (h : unescape text = some (c, rest)) (fuel : ℕ) :
    stringBody (fuel + 1) ('\\' :: text) =
      (stringBody fuel rest).map fun p => (c :: p.1, p.2) := by
  rw [stringBody, if_neg (by decide), if_pos rfl, h]
  rfl

/-- A character is read back from a string literal. -/
theorem stringBody_escape (fuel : ℕ) (c : Char) (rest : List Char) :
    stringBody (fuel + 1) (escape c ++ rest) =
      (stringBody fuel rest).map fun p => (c :: p.1, p.2) := by
  have hofNat : ∀ n, c.toNat = n → c = Char.ofNat n := by
    rintro n rfl
    exact (Char.ofNat_toNat c).symm
  unfold escape
  split_ifs with hquote hbackslash hn hr ht hf hb hprintable hplane
  · exact stringBody_backslash (by rw [hquote]; rfl) fuel
  · exact stringBody_backslash (by rw [hbackslash]; rfl) fuel
  · exact stringBody_backslash (by rw [hn]; rfl) fuel
  · exact stringBody_backslash (by rw [hr]; rfl) fuel
  · exact stringBody_backslash (by rw [ht]; rfl) fuel
  · exact stringBody_backslash (by rw [hofNat 12 hf]; rfl) fuel
  · exact stringBody_backslash (by rw [hofNat 8 hb]; rfl) fuel
  · rw [List.singleton_append, stringBody, if_neg hquote, if_neg hbackslash,
      if_neg (by omega)]
  · rw [List.cons_append]
    exact stringBody_backslash
      (by rw [unescape_unicodeEscape, unicodeChar_of_lt hplane]) fuel
  · rw [List.append_assoc, List.cons_append, List.cons_append]
    exact stringBody_backslash
      (by rw [unescape_unicodeEscape, unicodeChar_of_le (by omega)]) fuel

/-- A character takes up room in a string literal. -/
theorem length_escape_pos (c : Char) : 0 < (escape c).length := by
  unfold escape
  split_ifs <;> simp

/-- The inside of a string literal is read back. -/
theorem stringBody_flatMap {cs : List Char} {fuel : ℕ} (hfuel : cs.length < fuel)
    (rest : List Char) :
    stringBody fuel (cs.flatMap escape ++ '"' :: rest) = some (cs, rest) := by
  induction cs generalizing fuel with
  | nil =>
      obtain ⟨fuel, rfl⟩ := Nat.exists_eq_succ_of_ne_zero (show fuel ≠ 0 by omega)
      simp [stringBody]
  | cons c cs ih =>
      obtain ⟨fuel, rfl⟩ := Nat.exists_eq_succ_of_ne_zero (show fuel ≠ 0 by omega)
      rw [List.flatMap_cons, List.append_assoc, stringBody_escape,
        ih (by simpa using hfuel)]
      rfl

/-- A string literal is read back. -/
theorem stringLiteral_quote (s : String) (rest : List Char) :
    stringLiteral (quote s ++ rest) = some (s, rest) := by
  have hlength : ∀ cs : List Char, cs.length ≤ (cs.flatMap escape).length := by
    intro cs
    induction cs with
    | nil => simp
    | cons c cs ih =>
        have hpos := length_escape_pos c
        simp only [List.flatMap_cons, List.length_append, List.length_cons]
        omega
  have hfuel : s.toList.length < (s.toList.flatMap escape ++ '"' :: rest).length := by
    have hle := hlength s.toList
    simp only [List.length_append, List.length_cons]
    omega
  rw [quote, List.cons_append, List.append_assoc, List.singleton_append, stringLiteral,
    stringBody_flatMap hfuel]
  simp

end Strings

section Words

/-- The text does not go on with a character of a literal. -/
def EndsWord (rest : List Char) : Prop :=
  ∀ c ∈ rest.head?, isWordChar c = false

/-- A literal is what stands before a text that does not go on with it. -/
theorem takeWhile_word {word rest : List Char} (hword : word.all isWordChar = true)
    (hrest : EndsWord rest) :
    (word ++ rest).takeWhile isWordChar = word ∧ (word ++ rest).dropWhile isWordChar = rest := by
  have hall : ∀ c ∈ word, isWordChar c = true := List.all_eq_true.mp hword
  have hnone : rest.takeWhile isWordChar = [] ∧ rest.dropWhile isWordChar = rest := by
    cases rest with
    | nil => exact ⟨rfl, rfl⟩
    | cons c rest =>
        have hc : isWordChar c = false := hrest c rfl
        simp [hc]
  rw [List.takeWhile_append_of_pos hall, List.dropWhile_append_of_pos hall, hnone.1, hnone.2,
    List.append_nil]
  exact ⟨rfl, rfl⟩

/-- A text that starts with a character of a literal starts with a literal. -/
theorem value_word {c : Char} {text : List Char} (hc : isWordChar c = true) (fuel : ℕ) :
    value (fuel + 1) (c :: text) =
      (ofWord ((c :: text).takeWhile isWordChar)).map fun v =>
        (v, (c :: text).dropWhile isWordChar) := by
  rw [value]
  all_goals
    intro tail htext
    rw [(List.cons.inj htext).1] at hc
    exact absurd hc (by decide)

/-- A number is the value of its literal. -/
theorem ofWord_literal (n : Number) : ofWord n.literal = some (.num n) := by
  have hne : ∀ word, isNumber word = false → n.literal ≠ word := by
    rintro word hword rfl
    simp [n.isNumber] at hword
  rw [ofWord, if_neg (hne _ (by decide)), if_neg (hne _ (by decide)), if_neg (hne _ (by decide)),
    dif_pos ⟨n.isWord, n.isNumber⟩]

end Words

section Writers

/-- How the parts of a text are written that differ between writers: the values without parts and
the string literals. -/
structure Writer where
  null : List Char
  bool : Bool → List Char
  num : Number → List Char
  literal : String → List Char

namespace Writer

variable (w : Writer)

mutual

/-- The text of a value, with the brackets and separators of `json.dumps`. -/
def text : Json → List Char
  | .null => w.null
  | .bool b => w.bool b
  | .num n => w.num n
  | .str s => w.literal s
  | .arr [] => ['[', ']']
  | .arr (v :: vs) => '[' :: (text v ++ textElements vs)
  | .obj [] => ['{', '}']
  | .obj ((k, v) :: kvs) => '{' :: (w.literal k ++ ':' :: ' ' :: (text v ++ textMembers kvs))

/-- The text of an array after its first element. -/
def textElements : List Json → List Char
  | [] => [']']
  | v :: vs => ',' :: ' ' :: (text v ++ textElements vs)

/-- The text of an object after its first member. -/
def textMembers : List (String × Json) → List Char
  | [] => ['}']
  | (k, v) :: kvs => ',' :: ' ' :: (w.literal k ++ ':' :: ' ' :: (text v ++ textMembers kvs))

end

/-- A text that stands without quotes. -/
def IsWord (text : List Char) : Prop :=
  text ≠ [] ∧ text.all isWordChar = true

/-- The values without parts are words, and string literals start with a quote. -/
structure Lawful : Prop where
  null : IsWord w.null
  bool : ∀ b, IsWord (w.bool b)
  num : ∀ n, IsWord (w.num n)
  literal : ∀ s, ∃ rest, w.literal s = '"' :: rest

/-- A string literal is read back. -/
def ReadsLiteral (s : String) : Prop :=
  ∀ rest, stringLiteral (w.literal s ++ rest) = some (s, rest)

mutual

/-- The parts of a value are read back. -/
def Reads : Json → Prop
  | .null => ofWord w.null = some .null
  | .bool b => ofWord (w.bool b) = some (.bool b)
  | .num n => ofWord (w.num n) = some (.num n)
  | .str s => w.ReadsLiteral s
  | .arr vs => ReadsElements vs
  | .obj kvs => ReadsMembers kvs

/-- The parts of a list of values are read back. -/
def ReadsElements : List Json → Prop
  | [] => True
  | v :: vs => Reads v ∧ ReadsElements vs

/-- The parts of a list of members are read back. -/
def ReadsMembers : List (String × Json) → Prop
  | [] => True
  | (k, v) :: kvs => w.ReadsLiteral k ∧ Reads v ∧ ReadsMembers kvs

end

/-- What follows an element does not go on with a literal. -/
theorem endsWord_textElements (vs : List Json) (rest : List Char) :
    EndsWord (w.textElements vs ++ rest) := by
  cases vs <;> rintro c ⟨⟩ <;> decide

/-- What follows a member does not go on with a literal. -/
theorem endsWord_textMembers (kvs : List (String × Json)) (rest : List Char) :
    EndsWord (w.textMembers kvs ++ rest) := by
  rcases kvs with _ | ⟨⟨k, v⟩, kvs⟩ <;> rintro c ⟨⟩ <;> decide

end Writer

/-- The characters that the text of a value may start with. -/
def startsValue (c : Char) : Bool :=
  isWordChar c || c = '"' || c = '[' || c = '{'

namespace Writer

variable {w : Writer}

/-- A word starts with a character of a literal. -/
theorem IsWord.exists_eq_cons {text : List Char} (h : IsWord text) :
    ∃ c rest, text = c :: rest ∧ startsValue c = true := by
  obtain ⟨c, rest, rfl⟩ := List.exists_cons_of_ne_nil h.1
  have hc : isWordChar c = true := List.all_eq_true.mp h.2 c List.mem_cons_self
  exact ⟨c, rest, rfl, by simp [startsValue, hc]⟩

/-- The text of a value starts with one of these characters. -/
theorem Lawful.exists_text_eq_cons (hw : w.Lawful) (v : Json) :
    ∃ c rest, w.text v = c :: rest ∧ startsValue c = true := by
  match v with
  | .null => exact hw.null.exists_eq_cons
  | .bool b => exact (hw.bool b).exists_eq_cons
  | .num n => exact (hw.num n).exists_eq_cons
  | .str s =>
      obtain ⟨rest, hrest⟩ := hw.literal s
      exact ⟨'"', rest, hrest, by decide⟩
  | .arr [] => exact ⟨'[', _, rfl, by decide⟩
  | .arr (v :: vs) => exact ⟨'[', _, rfl, by decide⟩
  | .obj [] => exact ⟨'{', _, rfl, by decide⟩
  | .obj ((k, v) :: kvs) => exact ⟨'{', _, rfl, by decide⟩

/-- A character that starts a value is no white space. -/
theorem isSpace_of_startsValue {c : Char} (hc : startsValue c = true) :
    (c = ' ' || c = '\t' || c = '\n' || c = '\r') = false := by
  by_contra hspace
  simp only [Bool.not_eq_false, Bool.or_eq_true, decide_eq_true_eq] at hspace
  rcases hspace with ((rfl | rfl) | rfl) | rfl <;> exact absurd hc (by decide)

/-- A value is not preceded by white space. -/
theorem Lawful.skipSpace_text (hw : w.Lawful) (v : Json) (rest : List Char) :
    skipSpace (w.text v ++ rest) = w.text v ++ rest := by
  obtain ⟨c, text, htext, hc⟩ := hw.exists_text_eq_cons v
  rw [htext, List.cons_append, skipSpace,
    List.dropWhile_cons_of_neg (by simp [isSpace_of_startsValue hc])]

/-- A string literal is not preceded by white space. -/
theorem Lawful.skipSpace_literal (hw : w.Lawful) (s : String) (rest : List Char) :
    skipSpace (w.literal s ++ rest) = w.literal s ++ rest :=
  hw.skipSpace_text (.str s) rest

end Writer

mutual

/-- The fuel that reading the text of a value takes. -/
def cost : Json → ℕ
  | .arr (v :: vs) => 2 + cost v + costElements vs
  | .obj ((_, v) :: kvs) => 2 + cost v + costMembers kvs
  | _ => 1

/-- The fuel that reading the later elements of an array takes. -/
def costElements : List Json → ℕ
  | [] => 0
  | v :: vs => 1 + cost v + costElements vs

/-- The fuel that reading the later members of an object takes. -/
def costMembers : List (String × Json) → ℕ
  | [] => 0
  | (_, v) :: kvs => 1 + cost v + costMembers kvs

end

/-- The fuel covers at least one step. -/
theorem cost_pos (v : Json) : 0 < cost v := by
  match v with
  | .null => simp [cost]
  | .bool _ => simp [cost]
  | .num _ => simp [cost]
  | .str _ => simp [cost]
  | .arr [] => simp [cost]
  | .arr (v :: vs) => rw [cost]; omega
  | .obj [] => simp [cost]
  | .obj ((k, v) :: kvs) => rw [cost]; omega

/-- White space is skipped up to a character that is none. -/
theorem skipSpace_cons {c : Char} {text : List Char}
    (hc : (c = ' ' || c = '\t' || c = '\n' || c = '\r') = false) :
    skipSpace (c :: text) = c :: text := by
  rw [skipSpace, List.dropWhile_cons_of_neg (by simp [hc])]

/-- A blank is skipped. -/
theorem skipSpace_blank (text : List Char) : skipSpace (' ' :: text) = skipSpace text := rfl

/-- An array that does not end at once has elements. -/
theorem value_bracket {fuel : ℕ} {text : List Char} (h : ∀ rest, skipSpace text ≠ ']' :: rest) :
    value (fuel + 1) ('[' :: text) =
      (elements fuel (skipSpace text)).map fun p => (.arr p.1, p.2) := by
  rw [value]
  split
  · exact absurd ‹_› (h _)
  · rfl

/-- An object that does not end at once has members. -/
theorem value_brace {fuel : ℕ} {text : List Char} (h : ∀ rest, skipSpace text ≠ '}' :: rest) :
    value (fuel + 1) ('{' :: text) =
      (members fuel (skipSpace text)).map fun p => (.obj p.1, p.2) := by
  rw [value]
  split
  · exact absurd ‹_› (h _)
  · rfl

namespace Writer

variable {w : Writer} {fuel : ℕ}

/-- A word stands for what it is read as. -/
theorem IsWord.value {word rest : List Char} (h : IsWord word) (hrest : EndsWord rest) :
    value (fuel + 1) (word ++ rest) = (ofWord word).map fun v => (v, rest) := by
  obtain ⟨htake, hdrop⟩ := takeWhile_word h.2 hrest
  obtain ⟨c, tail, rfl⟩ := List.exists_cons_of_ne_nil h.1
  have hc : isWordChar c = true := List.all_eq_true.mp h.2 c List.mem_cons_self
  rw [List.cons_append, value_word hc, ← List.cons_append, htake, hdrop]

/-- A text that starts with a quote is read as a string literal. -/
theorem value_quoted (text : List Char) :
    value (fuel + 1) ('"' :: text) =
      (stringLiteral ('"' :: text)).map fun p => (.str p.1, p.2) := by
  rw [Json.value]

/-- A string is what its literal is read as. -/
theorem Lawful.value_literal (hw : w.Lawful) (s : String) (rest : List Char) :
    value (fuel + 1) (w.literal s ++ rest) =
      (stringLiteral (w.literal s ++ rest)).map fun p => (.str p.1, p.2) := by
  obtain ⟨text, htext⟩ := hw.literal s
  rw [htext, List.cons_append, value_quoted]

/-- An array with elements is read as its elements. -/
theorem Lawful.value_arr (hw : w.Lawful) (v : Json) (vs : List Json) (rest : List Char) :
    value (fuel + 1) (w.text (.arr (v :: vs)) ++ rest) =
      (elements fuel (w.text v ++ (w.textElements vs ++ rest))).map fun p => (.arr p.1, p.2) := by
  rw [text, List.cons_append, List.append_assoc, value_bracket, hw.skipSpace_text]
  intro rest' heq
  obtain ⟨c, text, htext, hc⟩ := hw.exists_text_eq_cons v
  rw [hw.skipSpace_text, htext, List.cons_append] at heq
  rw [(List.cons.inj heq).1] at hc
  exact absurd hc (by decide)

/-- An object with members is read as its members. -/
theorem Lawful.value_obj (hw : w.Lawful) (k : String) (v : Json) (kvs : List (String × Json))
    (rest : List Char) :
    value (fuel + 1) (w.text (.obj ((k, v) :: kvs)) ++ rest) =
      (members fuel (w.literal k ++ ':' :: ' ' :: (w.text v ++ (w.textMembers kvs ++ rest)))).map
        fun p => (.obj p.1, p.2) := by
  rw [text, List.cons_append, List.append_assoc, List.cons_append, List.cons_append,
    List.append_assoc, value_brace, hw.skipSpace_literal]
  intro rest' heq
  obtain ⟨text, htext⟩ := hw.literal k
  rw [hw.skipSpace_literal, htext] at heq
  exact absurd (List.cons.inj heq).1 (by decide)

/-! ### What is written is read back -/

/-- With the fuel, values are read back. -/
def ValuesBack (w : Writer) (fuel : ℕ) : Prop :=
  ∀ v rest, w.Reads v → cost v ≤ fuel → EndsWord rest →
    value fuel (w.text v ++ rest) = some (v, rest)

/-- With the fuel, the elements of arrays are read back. -/
def ElementsBack (w : Writer) (fuel : ℕ) : Prop :=
  ∀ v vs rest, w.Reads v → w.ReadsElements vs → 1 + cost v + costElements vs ≤ fuel →
    elements fuel (w.text v ++ (w.textElements vs ++ rest)) = some (v :: vs, rest)

/-- With the fuel, the members of objects are read back. -/
def MembersBack (w : Writer) (fuel : ℕ) : Prop :=
  ∀ k v kvs rest, w.ReadsLiteral k → w.Reads v → w.ReadsMembers kvs →
    1 + cost v + costMembers kvs ≤ fuel →
    members fuel (w.literal k ++ ':' :: ' ' :: (w.text v ++ (w.textMembers kvs ++ rest))) =
      some ((k, v) :: kvs, rest)

/-- Values are read back if elements and members are. -/
theorem ElementsBack.value (hw : w.Lawful) (helements : ElementsBack w fuel)
    (hmembers : MembersBack w fuel) : ValuesBack w (fuel + 1) := by
  intro v rest hreads hfuel hrest
  match v, hreads, hfuel with
  | .null, hreads, _ =>
      rw [Reads] at hreads
      rw [text, hw.null.value hrest, hreads]
      rfl
  | .bool b, hreads, _ =>
      rw [Reads] at hreads
      rw [text, (hw.bool b).value hrest, hreads]
      rfl
  | .num n, hreads, _ =>
      rw [Reads] at hreads
      rw [text, (hw.num n).value hrest, hreads]
      rfl
  | .str s, hreads, _ =>
      rw [Reads] at hreads
      rw [text, hw.value_literal, hreads]
      rfl
  | .arr [], _, _ => rfl
  | .arr (v :: vs), hreads, hfuel =>
      rw [cost] at hfuel
      rw [Reads, ReadsElements] at hreads
      rw [hw.value_arr, helements v vs rest hreads.1 hreads.2 (by omega)]
      rfl
  | .obj [], _, _ => rfl
  | .obj ((k, v) :: kvs), hreads, hfuel =>
      rw [cost] at hfuel
      rw [Reads, ReadsMembers] at hreads
      rw [hw.value_obj, hmembers k v kvs rest hreads.1 hreads.2.1 hreads.2.2 (by omega)]
      rfl

/-- The elements of arrays are read back if values and the later elements are. -/
theorem ElementsBack.succ (hw : w.Lawful) (hvalues : ValuesBack w fuel)
    (helements : ElementsBack w fuel) : ElementsBack w (fuel + 1) := by
  intro v vs rest hv hvs hfuel
  have hvalue := hvalues v (w.textElements vs ++ rest) hv (by omega)
    (endsWord_textElements w vs rest)
  cases vs with
  | nil =>
      rw [elements, hvalue]
      rfl
  | cons u us =>
      rw [costElements] at hfuel
      rw [ReadsElements] at hvs
      have hread := helements u us rest hvs.1 hvs.2 (by omega)
      rw [elements, hvalue]
      simp only [textElements, List.cons_append, List.append_assoc, Option.bind_eq_bind,
        Option.bind_some, skipSpace_blank, hw.skipSpace_text, hread,
        skipSpace_cons (c := ',') (by decide)]
      rfl

/-- The members of objects are read back if values and the later members are. -/
theorem MembersBack.succ (hw : w.Lawful) (hvalues : ValuesBack w fuel)
    (hmembers : MembersBack w fuel) : MembersBack w (fuel + 1) := by
  intro k v kvs rest hk hv hkvs hfuel
  have hvalue := hvalues v (w.textMembers kvs ++ rest) hv (by omega)
    (endsWord_textMembers w kvs rest)
  rw [members, hk]
  simp only [Option.bind_eq_bind, Option.bind_some, skipSpace_cons (c := ':') (by decide),
    skipSpace_blank, hw.skipSpace_text, hvalue]
  rcases kvs with _ | ⟨⟨l, u⟩, us⟩
  · rfl
  · rw [costMembers] at hfuel
    rw [ReadsMembers] at hkvs
    have hread := hmembers l u us rest hkvs.1 hkvs.2.1 hkvs.2.2 (by omega)
    simp only [textMembers, List.cons_append, List.append_assoc, skipSpace_blank,
      hw.skipSpace_literal, hread, skipSpace_cons (c := ',') (by decide), Option.bind_some]
    rfl

/-- With enough fuel, everything is read back. -/
theorem Lawful.back (hw : w.Lawful) (fuel : ℕ) :
    ValuesBack w fuel ∧ ElementsBack w fuel ∧ MembersBack w fuel := by
  induction fuel with
  | zero =>
      refine ⟨fun v rest _ hfuel => ?_, fun v vs rest _ _ hfuel => ?_,
        fun k v kvs rest _ _ _ hfuel => ?_⟩
      · have hpos := cost_pos v
        omega
      · omega
      · omega
  | succ fuel ih =>
      obtain ⟨hvalues, helements, hmembers⟩ := ih
      exact ⟨helements.value hw hmembers, helements.succ hw hvalues, hmembers.succ hw hvalues⟩

mutual

/-- The text of a value is long enough to pay for reading it. -/
theorem Lawful.cost_le (hw : w.Lawful) : ∀ v : Json, cost v ≤ 2 * (w.text v).length
  | .null => by
      have hpos := List.length_pos_of_ne_nil hw.null.1
      simp only [cost, text]
      omega
  | .bool b => by
      have hpos := List.length_pos_of_ne_nil (hw.bool b).1
      simp only [cost, text]
      omega
  | .num n => by
      have hpos := List.length_pos_of_ne_nil (hw.num n).1
      simp only [cost, text]
      omega
  | .str s => by
      obtain ⟨rest, hrest⟩ := hw.literal s
      simp only [cost, text, hrest, List.length_cons]
      omega
  | .arr [] => by simp [cost, text]
  | .arr (v :: vs) => by
      have hv := hw.cost_le v
      have hvs := hw.costElements_le vs
      simp only [cost, text, List.length_cons, List.length_append]
      omega
  | .obj [] => by simp [cost, text]
  | .obj ((k, v) :: kvs) => by
      have hv := hw.cost_le v
      have hkvs := hw.costMembers_le kvs
      simp only [cost, text, List.length_cons, List.length_append]
      omega

/-- The text of the later elements is long enough to pay for reading them. -/
theorem Lawful.costElements_le (hw : w.Lawful) :
    ∀ vs : List Json, costElements vs ≤ 2 * (w.textElements vs).length
  | [] => by simp [costElements]
  | v :: vs => by
      have hv := hw.cost_le v
      have hvs := hw.costElements_le vs
      simp only [costElements, textElements, List.length_cons, List.length_append]
      omega

/-- The text of the later members is long enough to pay for reading them. -/
theorem Lawful.costMembers_le (hw : w.Lawful) :
    ∀ kvs : List (String × Json), costMembers kvs ≤ 2 * (w.textMembers kvs).length
  | [] => by simp [costMembers]
  | (k, v) :: kvs => by
      have hv := hw.cost_le v
      have hkvs := hw.costMembers_le kvs
      simp only [costMembers, textMembers, List.length_cons, List.length_append]
      omega

end

/-- A value whose parts are read back is read back from its text. -/
theorem Lawful.loads_text (hw : w.Lawful) {v : Json} (h : w.Reads v) :
    loads (String.ofList (w.text v)) = some v := by
  have hspace : skipSpace (w.text v) = w.text v := by
    simpa using hw.skipSpace_text v []
  have hread := (hw.back (2 * (w.text v).length + 2)).1 v [] h
    (by have := hw.cost_le v; omega) (by rintro c ⟨⟩)
  rw [List.append_nil] at hread
  rw [loads, String.toList_ofList, hspace, hread]
  rfl

end Writer

/-- The writer of `json.dumps`. -/
def dumpsWriter : Writer where
  null := "null".toList
  bool b := if b then "true".toList else "false".toList
  num n := n.literal
  literal := quote

mutual

/-- `json.dumps` writes with its writer. -/
theorem print_eq : ∀ v : Json, print v = dumpsWriter.text v
  | .null => rfl
  | .bool true => rfl
  | .bool false => rfl
  | .num n => rfl
  | .str s => rfl
  | .arr [] => rfl
  | .arr (v :: vs) => by rw [print, Writer.text, print_eq v, printElements_eq vs]
  | .obj [] => rfl
  | .obj ((k, v) :: kvs) => by
      rw [print, Writer.text, print_eq v, printMembers_eq kvs]
      rfl

/-- So are the later elements of an array. -/
theorem printElements_eq : ∀ vs : List Json, printElements vs = dumpsWriter.textElements vs
  | [] => rfl
  | v :: vs => by rw [printElements, Writer.textElements, print_eq v, printElements_eq vs]

/-- So are the later members of an object. -/
theorem printMembers_eq :
    ∀ kvs : List (String × Json), printMembers kvs = dumpsWriter.textMembers kvs
  | [] => rfl
  | (k, v) :: kvs => by
      rw [printMembers, Writer.textMembers, print_eq v, printMembers_eq kvs]
      rfl

end

/-- A number literal is a word. -/
theorem isWord_literal (n : Number) : Writer.IsWord n.literal := by
  refine ⟨fun hnil => ?_, n.isWord⟩
  have hnumber := n.isNumber
  rw [hnil] at hnumber
  exact absurd hnumber (by decide)

/-- The writer of `json.dumps` is lawful. -/
theorem lawful_dumpsWriter : dumpsWriter.Lawful where
  null := ⟨by decide, by decide⟩
  bool b := by cases b <;> exact ⟨by decide, by decide⟩
  num := isWord_literal
  literal _ := ⟨_, rfl⟩

mutual

/-- It writes everything so that it is read back. -/
theorem reads_dumpsWriter : ∀ v : Json, dumpsWriter.Reads v
  | .null => rfl
  | .bool true => rfl
  | .bool false => rfl
  | .num n => ofWord_literal n
  | .str s => stringLiteral_quote s
  | .arr vs => readsElements_dumpsWriter vs
  | .obj kvs => readsMembers_dumpsWriter kvs

/-- So it does with the elements of an array. -/
theorem readsElements_dumpsWriter : ∀ vs : List Json, dumpsWriter.ReadsElements vs
  | [] => trivial
  | v :: vs => ⟨reads_dumpsWriter v, readsElements_dumpsWriter vs⟩

/-- So it does with the members of an object. -/
theorem readsMembers_dumpsWriter : ∀ kvs : List (String × Json), dumpsWriter.ReadsMembers kvs
  | [] => trivial
  | (k, v) :: kvs =>
      ⟨stringLiteral_quote k, reads_dumpsWriter v, readsMembers_dumpsWriter kvs⟩

end

end Writers

/-- What is written is read back. -/
@[simp]
theorem loads_dumps (v : Json) : loads (dumps v) = some v := by
  rw [dumps, print_eq]
  exact lawful_dumpsWriter.loads_text (reads_dumpsWriter v)

/-- A text that starts with no value is rejected. -/
theorem loads_of_head {s : String} {c : Char} {text : List Char} (hs : s.toList = c :: text)
    (hspace : (c = ' ' || c = '\t' || c = '\n' || c = '\r') = false)
    (hc : startsValue c = false) : loads s = none := by
  have hword : isWordChar c = false := by
    cases hword : isWordChar c with
    | true => simp [startsValue, hword] at hc
    | false => rfl
  have hnone : value (2 * (c :: text).length + 2) (c :: text) = none := by
    rw [value]
    · rw [List.takeWhile_cons_of_neg (by simp [hword])]
      rfl
    all_goals
      intro tail htext
      rw [(List.cons.inj htext).1] at hc
      exact absurd hc (by decide)
  rw [loads, hs, skipSpace_cons hspace, hnone]

/-- Values are compared by their texts. -/
instance : DecidableEq Json := fun v w =>
  decidable_of_iff (dumps v = dumps w)
    ⟨fun h => Option.some.inj ((loads_dumps v).symm.trans (h ▸ loads_dumps w)), congrArg dumps⟩

/-- The number a list of decimal digits stands for. -/
def decimal (digits : List Char) : ℕ :=
  digits.foldl (fun n c => n * 10 + (c.toNat - 48)) 0

/-- The integer a literal without fraction and exponent stands for: the numbers that Python reads
as `int`. -/
def Number.int? (n : Number) : Option ℤ :=
  match n.literal with
  | '-' :: digits => if digits.all Char.isDigit then some (-(decimal digits)) else none
  | digits => if digits.all Char.isDigit then some (decimal digits) else none

end Json
