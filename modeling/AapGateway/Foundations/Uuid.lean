import AapGateway.Foundations.Json
import AapGateway.Foundations.Replace

/-!
# UUIDs

Python's `uuid.UUID`: a number of 128 bits, its canonical text with 32 hexadecimal digits in five
groups, and the constructor from a text. The constructor is liberal: it drops the prefixes `urn:`
and `uuid:`, braces and hyphens, and reads what is left with `int(text, 16)`, which allows white
space, a sign, a prefix `0x`, single underscores and decimal digits of other scripts.

## Main definitions

* `Uuid`: the values;
* `Uuid.str` and `Uuid.parse`: the canonical text, and the constructor;
* `Uuid.ofInt`: `UUID(int=n)`.

## Main results

* `Uuid.parse_str`: the canonical text is read back.
-/

/-- A UUID: a number below `2 ^ 128`. -/
structure Uuid where
  int : ℕ
  isLt : int < 2 ^ 128
  deriving DecidableEq

namespace Uuid

/-- The last `k` hexadecimal digits of a number. -/
def hexDigits : ℕ → ℕ → List Char
  | 0, _ => []
  | k + 1, n => hexDigits k (n / 16) ++ [Json.hexDigit (n % 16)]

/-- Put hyphens between the five groups of digits. -/
def group (digits : List Char) : List Char :=
  digits.take 8 ++ '-' :: ((digits.drop 8).take 4 ++ '-' :: ((digits.drop 12).take 4 ++
    '-' :: ((digits.drop 16).take 4 ++ '-' :: digits.drop 20)))

/-- `str(u)`. -/
def str (u : Uuid) : String :=
  String.ofList (group (hexDigits 32 u.int))

/-- Digits with single underscores between them. `afterDigit` says that the last character was a
digit. -/
def digitsValue : ℕ → Bool → List Char → Option ℕ
  | n, afterDigit, [] => if afterDigit then some n else none
  | n, afterDigit, c :: cs =>
    if c = '_' then if afterDigit then digitsValue n false cs else none
    else (Json.hexValue c).bind fun d => digitsValue (n * 16 + d) true cs

/-- What follows a prefix `0x`, with the underscore that may stand behind it. -/
def dropHexPrefix : List Char → List Char
  | '0' :: x :: '_' :: cs => if x = 'x' ∨ x = 'X' then cs else '0' :: x :: '_' :: cs
  | '0' :: x :: cs => if x = 'x' ∨ x = 'X' then cs else '0' :: x :: cs
  | cs => cs

/-- What follows a plus sign. -/
def dropSign : List Char → List Char
  | '+' :: cs => cs
  | cs => cs

/-- `int(text, 16)` for a text without a minus sign. -/
def intBase16 (text : List Char) : Option ℕ :=
  digitsValue 0 false (dropHexPrefix (dropSign (Text.intChars text)))

/-- The characters of a text that `UUID` reads as a number. -/
def significant (text : List Char) : List Char :=
  let text := Text.replaceFrom "urn:".toList [] 0 text
  let text := Text.replaceFrom "uuid:".toList [] 0 text
  let text := (text.dropWhile fun c => c = '\x7b' || c = '\x7d').rdropWhile
    fun c => c = '\x7b' || c = '\x7d'
  Text.replaceFrom ['-'] [] 0 text

/-- `UUID(int=n)`, or `none` where it raises. -/
def ofInt (n : ℤ) : Option Uuid :=
  if h : 0 ≤ n ∧ n.toNat < 2 ^ 128 then some ⟨n.toNat, h.2⟩ else none

/-- `UUID(s)`, or `none` where it raises `ValueError`. -/
def parse (s : String) : Option Uuid :=
  let digits := significant s.toList
  if digits.length ≠ 32 then none else (intBase16 digits).bind fun n => ofInt n

/-! ## The canonical text is read back -/

/-- A hexadecimal digit has its value, and is no other character that is looked for. -/
theorem hexDigit_facts : ∀ n < 16, Json.hexValue (Json.hexDigit n) = some n ∧
    Json.hexDigit n ∉ ['u', '\x7b', '\x7d', '-', '+', '_', 'x', 'X'] ∧
    Text.isSpace (Json.hexDigit n) = false ∧
    Text.asciiDigit (Json.hexDigit n) = Json.hexDigit n := by
  decide

/-- The characters of a canonical text. -/
def IsHex (c : Char) : Prop :=
  ∃ n < 16, c = Json.hexDigit n

/-- A hexadecimal digit is none of the characters that are looked for. -/
theorem IsHex.ne {c : Char} (h : IsHex c) {b : Char}
    (hb : b ∈ ['u', '\x7b', '\x7d', '-', '+', '_', 'x', 'X']) : c ≠ b := by
  obtain ⟨n, hn, rfl⟩ := h
  rintro rfl
  exact (hexDigit_facts n hn).2.1 hb

/-- There are as many digits as asked for. -/
theorem length_hexDigits (k n : ℕ) : (hexDigits k n).length = k := by
  induction k generalizing n with
  | zero => rfl
  | succ k ih => simp [hexDigits, ih]

/-- The digits are hexadecimal digits. -/
theorem isHex_of_mem_hexDigits {k n : ℕ} {c : Char} (h : c ∈ hexDigits k n) : IsHex c := by
  induction k generalizing n with
  | zero => exact absurd h List.not_mem_nil
  | succ k ih =>
      rcases List.mem_append.mp h with h | h
      · exact ih h
      · exact ⟨n % 16, Nat.mod_lt n (by decide), List.mem_singleton.mp h⟩

/-- Reading more digits behind those that were read. -/
theorem digitsValue_append {cs : List Char} (hcs : ∀ c ∈ cs, IsHex c) (n : ℕ) (b : Bool)
    (rest : List Char) (hne : cs ≠ []) :
    ∃ m, digitsValue n b (cs ++ rest) = digitsValue m true rest ∧
      digitsValue n b cs = some m := by
  induction cs generalizing n b with
  | nil => exact absurd rfl hne
  | cons c cs ih =>
      have hc := hcs c List.mem_cons_self
      have hplain : c ≠ '_' := hc.ne (by decide)
      obtain ⟨d, hd, rfl⟩ := hc
      have hstep : ∀ cs', digitsValue n b (Json.hexDigit d :: cs') =
          digitsValue (n * 16 + d) true cs' := by
        intro cs'
        rw [digitsValue, if_neg hplain, (hexDigit_facts d hd).1]
        rfl
      rw [List.cons_append, hstep, hstep]
      cases cs with
      | nil => exact ⟨n * 16 + d, rfl, rfl⟩
      | cons c' cs' =>
          exact ih (fun c hc => hcs c (List.mem_cons_of_mem _ hc)) _ _ (List.cons_ne_nil _ _)

/-- The digits of a number are read back. -/
theorem digitsValue_hexDigits (k n : ℕ) :
    digitsValue 0 false (hexDigits (k + 1) n) = some (n % 16 ^ (k + 1)) := by
  induction k generalizing n with
  | zero =>
      have hlast := (hexDigit_facts (n % 16) (Nat.mod_lt n (by decide)))
      have hplain : Json.hexDigit (n % 16) ≠ '_' :=
        IsHex.ne ⟨n % 16, Nat.mod_lt n (by decide), rfl⟩ (by decide)
      simp [hexDigits, digitsValue, hplain, hlast.1]
  | succ k ih =>
      have hne : hexDigits (k + 1) (n / 16) ≠ [] := by
        rw [← List.length_pos_iff, length_hexDigits]
        exact Nat.succ_pos k
      obtain ⟨m, happend, hm⟩ := digitsValue_append
        (fun c hc => isHex_of_mem_hexDigits hc) 0 false [Json.hexDigit (n % 16)] hne
      rw [ih, Option.some.injEq] at hm
      have hlast := (hexDigit_facts (n % 16) (Nat.mod_lt n (by decide)))
      have hplain : Json.hexDigit (n % 16) ≠ '_' :=
        IsHex.ne ⟨n % 16, Nat.mod_lt n (by decide), rfl⟩ (by decide)
      have hvalue : n / 16 % 16 ^ (k + 1) * 16 + n % 16 = n % 16 ^ (k + 1 + 1) := by
        rw [pow_succ 16 (k + 1), Nat.mul_comm (16 ^ (k + 1)) 16, Nat.mod_mul]
        omega
      rw [hexDigits, happend, digitsValue, if_neg hplain, hlast.1, ← hm]
      show digitsValue _ true [] = _
      rw [digitsValue, if_pos rfl, hvalue]

/-- Where every character is kept, nothing is dropped at the front. -/
theorem dropWhile_eq_self {p : Char → Bool} {cs : List Char} (h : ∀ c ∈ cs, p c = false) :
    cs.dropWhile p = cs := by
  rw [List.dropWhile_eq_self_iff]
  intro hlength hfirst
  rw [h _ (List.getElem_mem hlength)] at hfirst
  cases hfirst

/-- Where every character is kept, nothing is dropped at the end. -/
theorem rdropWhile_eq_self {p : Char → Bool} {cs : List Char} (h : ∀ c ∈ cs, p c = false) :
    cs.rdropWhile p = cs := by
  rw [List.rdropWhile_eq_self_iff]
  intro hne hlast
  rw [h _ (List.getLast_mem hne)] at hlast
  cases hlast

/-- A hexadecimal digit is not white space. -/
theorem IsHex.isSpace_eq_false {c : Char} (h : IsHex c) : Text.isSpace c = false := by
  obtain ⟨n, hn, rfl⟩ := h
  exact (hexDigit_facts n hn).2.2.1

/-- A hexadecimal digit is read as it stands. -/
theorem IsHex.intPlain {c : Char} (h : IsHex c) : Text.IntPlain c := by
  have hspace := h.isSpace_eq_false
  obtain ⟨n, hn, rfl⟩ := h
  exact ⟨by rw [Text.intSpace, hspace, Bool.false_and], (hexDigit_facts n hn).2.2.2⟩

/-- A text of hexadecimal digits has no white space, sign or prefix to drop. -/
theorem intBase16_of_isHex {cs : List Char} (hcs : ∀ c ∈ cs, IsHex c) :
    intBase16 cs = digitsValue 0 false cs := by
  unfold intBase16
  rw [Text.intChars_of_intPlain fun c hc => (hcs c hc).intPlain]
  congr 1
  match cs, hcs with
  | [], _ => rfl
  | [c], hcs =>
      have hc := hcs c (by simp)
      have hplus : c ≠ '+' := hc.ne (by decide)
      simp [dropSign, dropHexPrefix, hplus]
  | c :: x :: cs, hcs =>
      have hc := hcs c (by simp)
      have hx := hcs x (by simp)
      have hplus : c ≠ '+' := hc.ne (by decide)
      have hlower : x ≠ 'x' := hx.ne (by decide)
      have hupper : x ≠ 'X' := hx.ne (by decide)
      have hsign : dropSign (c :: x :: cs) = c :: x :: cs := by
        simp [dropSign, hplus]
      rw [hsign]
      unfold dropHexPrefix
      split <;> simp_all

/-- The characters of grouped digits are the digits and hyphens. -/
theorem isHex_or_hyphen_of_mem_group {digits : List Char} (h : ∀ c ∈ digits, IsHex c) {c : Char}
    (hc : c ∈ group digits) : IsHex c ∨ c = '-' := by
  unfold group at hc
  simp only [List.mem_append, List.mem_cons] at hc
  rcases hc with hc | hc | hc | hc | hc | hc | hc | hc | hc
  all_goals first
    | exact Or.inr hc
    | exact Or.inl (h c (List.mem_of_mem_take hc))
    | exact Or.inl (h c (List.mem_of_mem_drop (List.mem_of_mem_take hc)))
    | exact Or.inl (h c (List.mem_of_mem_drop hc))

/-- A canonical text has no white space around it. -/
theorem strip_str (u : Uuid) : Text.strip u.str = u.str := by
  have hspace : ∀ c ∈ group (hexDigits 32 u.int), Text.isSpace c = false := by
    intro c hc
    rcases isHex_or_hyphen_of_mem_group (fun c hc => isHex_of_mem_hexDigits hc) hc with hhex | rfl
    · exact hhex.isSpace_eq_false
    · decide
  rw [Text.strip, str, String.toList_ofList, dropWhile_eq_self hspace, rdropWhile_eq_self hspace]

/-- The hyphens of a canonical text are all that is dropped. -/
theorem significant_group {digits : List Char} (h : ∀ c ∈ digits, IsHex c) :
    significant (group digits) = digits := by
  have habsent : ∀ b ∈ ['u', '\x7b', '\x7d'], b ∉ group digits := by
    intro b hb hin
    rcases isHex_or_hyphen_of_mem_group h hin with hhex | rfl
    · exact hhex.ne (b := b) (by simp at hb ⊢; tauto) rfl
    · simp at hb
  have hu : 'u' ∉ group digits := habsent 'u' (by simp)
  have hbrace : ∀ c ∈ group digits, (decide (c = '\x7b') || decide (c = '\x7d')) = false := by
    intro c hc
    have hopen : c ≠ '\x7b' := fun heq => habsent '\x7b' (by simp) (heq ▸ hc)
    have hclose : c ≠ '\x7d' := fun heq => habsent '\x7d' (by simp) (heq ▸ hc)
    simp [hopen, hclose]
  have hkept : ∀ cs : List Char, (∀ c ∈ cs, IsHex c) →
      (cs.flatMap fun c => if c = '-' then [] else [c]) = cs := by
    intro cs hcs
    induction cs with
    | nil => rfl
    | cons c cs ih =>
        have hc : c ≠ '-' := (hcs c List.mem_cons_self).ne (by decide)
        rw [List.flatMap_cons, if_neg hc, ih fun c hc => hcs c (List.mem_cons_of_mem _ hc)]
        rfl
  unfold significant
  dsimp only
  rw [show "urn:".toList = 'u' :: "rn:".toList from rfl,
    show "uuid:".toList = 'u' :: "uid:".toList from rfl, Text.replaceFrom_eq_self hu,
    Text.replaceFrom_eq_self hu, dropWhile_eq_self hbrace, rdropWhile_eq_self hbrace,
    Text.replaceFrom_singleton]
  unfold group
  simp only [List.flatMap_append, List.flatMap_cons, if_true, List.nil_append]
  rw [hkept _ fun c hc => h c (List.mem_of_mem_take hc),
    hkept _ fun c hc => h c (List.mem_of_mem_drop (List.mem_of_mem_take hc)),
    hkept _ fun c hc => h c (List.mem_of_mem_drop (List.mem_of_mem_take hc)),
    hkept _ fun c hc => h c (List.mem_of_mem_drop (List.mem_of_mem_take hc)),
    hkept _ fun c hc => h c (List.mem_of_mem_drop hc)]
  -- The five groups are the digits again.
  have hjoin : ∀ i j : ℕ, (digits.drop i).take j ++ digits.drop (i + j) = digits.drop i := by
    intro i j
    rw [← List.drop_drop, List.take_append_drop]
  rw [hjoin 16 4, hjoin 12 4, hjoin 8 4, List.take_append_drop]

/-- The canonical text of a UUID is read back. -/
theorem parse_str (u : Uuid) : parse u.str = some u := by
  have hdigits : ∀ c ∈ hexDigits 32 u.int, IsHex c := fun c hc => isHex_of_mem_hexDigits hc
  have hsmall : u.int % 16 ^ 32 = u.int := by
    refine Nat.mod_eq_of_lt ?_
    calc u.int < 2 ^ 128 := u.isLt
      _ = 16 ^ 32 := by norm_num
  unfold parse str
  rw [String.toList_ofList, significant_group hdigits]
  dsimp only
  rw [length_hexDigits, if_neg (not_not.mpr rfl), intBase16_of_isHex hdigits,
    digitsValue_hexDigits, hsmall, Option.bind_some]
  unfold ofInt
  rw [dif_pos ⟨Int.natCast_nonneg _, u.isLt⟩]
  rfl

/-- A UUID is determined by its canonical text. -/
theorem str_injective : Function.Injective str := fun u v h => by
  have hparse := congrArg parse h
  rw [parse_str, parse_str] at hparse
  exact Option.some.inj hparse

end Uuid
