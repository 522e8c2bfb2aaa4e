import Mathlib

/-!
# Text operations

The string operations of the modelled language that the development reads or writes text with:
splitting at a separator, joining, trimming white space and prefix tests. Each is given on
`String` through its list of characters, so that Mathlib's lemmas on `List.splitOn` and
`List.intercalate` apply.

## Main results

* `join_injective`: joining is injective on non-empty lists of separator-free pieces;
* `natRepr_append_cons_inj` and `intRepr_append_cons_inj`: a decimal numeral followed by `-`
  can be read back from the front of a text;
* `pyInt_key`: the text of a number that fits 64 bits is read as the number.
-/

namespace Text

/-- The characters `str.strip` removes: the Unicode white space of `str.isspace`. -/
def isSpace (c : Char) : Bool :=
  let n := c.toNat
  (9 ≤ n && n ≤ 13) || (28 ≤ n && n ≤ 32) || n = 0x85 || n = 0xa0 || n = 0x1680 ||
    (0x2000 ≤ n && n ≤ 0x200a) || n = 0x2028 || n = 0x2029 || n = 0x202f || n = 0x205f ||
    n = 0x3000

/-- `s.strip()`. -/
def strip (s : String) : String :=
  String.ofList ((s.toList.dropWhile isSpace).rdropWhile isSpace)

/-- The decimal digits of Unicode that are zero. Each is followed by the other nine. -/
def zeroDigits : List ℕ :=
  [0x30, 0x660, 0x6f0, 0x7c0, 0x966, 0x9e6, 0xa66, 0xae6, 0xb66, 0xbe6, 0xc66, 0xce6, 0xd66, 0xde6,
    0xe50, 0xed0, 0xf20, 0x1040, 0x1090, 0x17e0, 0x1810, 0x1946, 0x19d0, 0x1a80, 0x1a90, 0x1b50,
    0x1bb0, 0x1c40, 0x1c50, 0xa620, 0xa8d0, 0xa900, 0xa9d0, 0xa9f0, 0xaa50, 0xabf0, 0xff10, 0x104a0,
    0x10d30, 0x11066, 0x110f0, 0x11136, 0x111d0, 0x112f0, 0x11450, 0x114d0, 0x11650, 0x116c0,
    0x11730, 0x118e0, 0x11950, 0x11c50, 0x11d50, 0x11da0, 0x16a60, 0x16ac0, 0x16b50, 0x1d7ce,
    0x1d7d8, 0x1d7e2, 0x1d7ec, 0x1d7f6, 0x1e140, 0x1e2f0, 0x1e950, 0x1fbf0]

/-- A decimal digit as the digit of ASCII, and any other character as it is. -/
def asciiDigit (c : Char) : Char :=
  match zeroDigits.find? fun first => first ≤ c.toNat && c.toNat < first + 10 with
  | some first => Char.ofNat ('0'.toNat + (c.toNat - first))
  | none => c

/-- The white space that `int` passes over around a number. The separators U+001C to U+001F, which
`str.strip` removes, are not part of it. -/
def intSpace (c : Char) : Bool :=
  isSpace c && !(28 ≤ c.toNat && c.toNat ≤ 31)

/-- What `int` reads of a text: without the white space around it, and with digits of ASCII. -/
def intChars (cs : List Char) : List Char :=
  ((cs.dropWhile intSpace).rdropWhile intSpace).map asciiDigit

/-- The most decimal digits that a text has which is read as a number. -/
def maxStrDigits : ℕ := 4300

/-- `s.rstrip(c)` for a single character. -/
def rstrip (c : Char) (s : String) : String :=
  String.ofList (s.toList.rdropWhile (· = c))

/-- `s.split(sep)` for a single character: never the empty list. -/
def split (sep : Char) (s : String) : List String :=
  (s.toList.splitOn sep).map String.ofList

/-- `sep.join(pieces)` for a single character. -/
def join (sep : Char) (pieces : List String) : String :=
  String.ofList ([sep].intercalate (pieces.map String.toList))

/-- `s.startswith(pre)`. -/
def startsWith (s pre : String) : Bool :=
  pre.toList.isPrefixOf s.toList

/-- `s.endswith(suf)`. -/
def endsWith (s suf : String) : Bool :=
  suf.toList.isSuffixOf s.toList

/-- Whether `s` contains `sub` as a contiguous substring: `sub in s`. -/
def contains (s sub : String) : Bool :=
  s.toList.tails.any fun t => sub.toList.isPrefixOf t

/-- `str(x)` of an optional text, as an f-string renders it: a missing value reads `None`. -/
def ofOption : Option String → String
  | some s => s
  | none => "None"

/-- Splitting yields at least one piece. -/
theorem split_ne_nil (sep : Char) (s : String) : split sep s ≠ [] := by
  simp [split, List.splitOn_ne_nil]

/-- Stripping introduces no character. -/
theorem mem_of_mem_strip {s : String} {c : Char} (h : c ∈ (strip s).toList) : c ∈ s.toList := by
  rw [strip, String.toList_ofList] at h
  exact (List.dropWhile_suffix _).subset ((List.rdropWhile_prefix _ _).subset h)

/-- Two texts that agree up to the first occurrence of a mark agree on both sides of it. -/
theorem append_cons_inj_of_notMem {α : Type} {a : α} {x x' y y' : List α} (hx : a ∉ x)
    (hx' : a ∉ x') (h : x ++ a :: y = x' ++ a :: y') : x = x' ∧ y = y' := by
  induction x generalizing x' with
  | nil =>
      cases x' with
      | nil => exact ⟨rfl, (List.cons.inj h).2⟩
      | cons b bs =>
          have hab : a = b := (List.cons.inj h).1
          exact absurd (by simp [hab]) hx'
  | cons b bs ih =>
      cases x' with
      | nil =>
          have hba : b = a := (List.cons.inj h).1
          exact absurd (by simp [hba]) hx
      | cons c cs =>
          obtain ⟨hbc, hrest⟩ := List.cons.inj h
          obtain ⟨hbs, hy⟩ := ih (fun hb => hx (List.mem_cons_of_mem _ hb))
            (fun hc => hx' (List.mem_cons_of_mem _ hc)) hrest
          exact ⟨by rw [hbc, hbs], hy⟩

/-- A list split at a separator has pieces without it. -/
theorem sep_notMem_of_mem_splitOn {α : Type} [DecidableEq α] {sep : α} {xs piece : List α}
    (h : piece ∈ xs.splitOn sep) : sep ∉ piece := by
  induction xs generalizing piece with
  | nil => simp_all
  | cons x xs ih =>
      rw [List.splitOn_cons_eq_if_modifyHead] at h
      split at h
      · rcases List.mem_cons.mp h with rfl | hmem
        · exact List.not_mem_nil
        · exact ih hmem
      · rename_i hne
        cases hsplit : xs.splitOn sep with
        | nil => exact absurd hsplit (List.splitOn_ne_nil _ _)
        | cons p ps =>
            rw [hsplit, List.modifyHead_cons] at h
            rcases List.mem_cons.mp h with rfl | hmem
            · have hp : sep ∉ p := ih (by simp [hsplit])
              simp only [List.mem_cons, not_or]
              exact ⟨fun hsep => hne (by simp [hsep]), hp⟩
            · exact ih (by simp [hsplit, hmem])

/-- A text is determined by its characters. -/
theorem toList_injective : Function.Injective String.toList :=
  fun _ _ h => String.toList_inj.mp h

/-- No piece of a split contains the separator. -/
theorem not_mem_of_mem_split {sep : Char} {s piece : String} (h : piece ∈ split sep s) :
    sep ∉ piece.toList := by
  obtain ⟨cs, hcs, rfl⟩ := List.mem_map.mp h
  rw [String.toList_ofList]
  exact sep_notMem_of_mem_splitOn hcs

/-- Joining is injective on non-empty lists of pieces that do not contain the separator. -/
theorem join_injective {sep : Char} {l l' : List String}
    (hl : ∀ p ∈ l, sep ∉ p.toList) (hl' : ∀ p ∈ l', sep ∉ p.toList)
    (hne : l ≠ []) (hne' : l' ≠ []) (h : join sep l = join sep l') : l = l' := by
  have hsplit : ∀ {m : List String}, (∀ p ∈ m, sep ∉ p.toList) → m ≠ [] →
      ([sep].intercalate (m.map String.toList)).splitOn sep = m.map String.toList := by
    intro m hm hmne
    refine List.splitOn_intercalate sep ?_ (by simpa using hmne)
    intro cs hcs
    obtain ⟨p, hp, rfl⟩ := List.mem_map.mp hcs
    exact hm p hp
  have hchars := congrArg String.toList h
  rw [join, join, String.toList_ofList, String.toList_ofList] at hchars
  have hmap : l.map String.toList = l'.map String.toList := by
    rw [← hsplit hl hne, ← hsplit hl' hne', hchars]
  exact List.map_injective_iff.mpr toList_injective hmap

/-- Joining one piece gives the piece. -/
@[simp]
theorem join_singleton (sep : Char) (s : String) : join sep [s] = s := by
  simp [join]

/-- `-` is not a decimal digit, so it does not occur in a numeral. -/
private theorem dash_notMem_natRepr (n : ℕ) : '-' ∉ n.repr.toList := by
  intro h
  rw [Nat.toList_repr] at h
  exact absurd (Nat.isDigit_of_mem_toDigits (by decide) (by decide) h) (by decide)

/-- A natural numeral followed by `-` is determined by the text it starts. -/
theorem natRepr_append_cons_inj {m n : ℕ} {xs ys : List Char}
    (h : m.repr.toList ++ '-' :: xs = n.repr.toList ++ '-' :: ys) : m = n ∧ xs = ys := by
  obtain ⟨hrepr, hrest⟩ := append_cons_inj_of_notMem (dash_notMem_natRepr m)
    (dash_notMem_natRepr n) h
  exact ⟨Nat.repr_injective (toList_injective hrepr), hrest⟩

/-- An integer numeral followed by `-` is determined by the text it starts, whatever the
sign. -/
theorem intRepr_append_cons_inj {m n : ℤ} {xs ys : List Char}
    (h : m.repr.toList ++ '-' :: xs = n.repr.toList ++ '-' :: ys) : m = n ∧ xs = ys := by
  have hsign : ∀ (a : ℕ) (b : ℤ) (us vs : List Char),
      a.repr.toList ++ '-' :: us ≠ '-' :: (b.toNat.repr.toList ++ '-' :: vs) := by
    intro a b us vs hab
    cases hrepr : a.repr.toList with
    | nil => exact Nat.repr_ne_empty (String.toList_eq_nil_iff.mp hrepr)
    | cons c cs =>
        rw [hrepr, List.cons_append] at hab
        have hc : c = '-' := (List.cons.inj hab).1
        exact dash_notMem_natRepr a (by simp [hrepr, hc])
  rw [Int.repr_eq_if, Int.repr_eq_if] at h
  by_cases hm : 0 ≤ m <;> by_cases hn : 0 ≤ n <;>
    simp only [hm, hn, if_true, if_false, String.toList_append,
      String.reduceToList, List.cons_append, List.nil_append] at h
  · obtain ⟨hmn, hrest⟩ := natRepr_append_cons_inj h
    exact ⟨by omega, hrest⟩
  · exact absurd h (hsign _ _ _ _)
  · exact absurd h.symm (hsign _ _ _ _)
  · obtain ⟨hmn, hrest⟩ := natRepr_append_cons_inj (List.cons.inj h).2
    exact ⟨by omega, hrest⟩

/-! ## Reading a number -/

/-- The characters that `int` takes as they are. -/
def IntPlain (c : Char) : Prop :=
  intSpace c = false ∧ asciiDigit c = c

/-- A decimal digit of ASCII is taken as it is. -/
theorem intPlain_of_isDigit {c : Char} (h : c.isDigit = true) : IntPlain c := by
  obtain ⟨hlow, hhigh⟩ : 48 ≤ c.toNat ∧ c.toNat ≤ 57 := by
    simpa [Char.isDigit, UInt32.le_iff_toNat_le] using h
  constructor
  · simp [intSpace, isSpace]
    omega
  · have hfind : zeroDigits.find? (fun first => first ≤ c.toNat && c.toNat < first + 10) =
        some 0x30 := by
      rw [zeroDigits, List.find?_cons_of_pos]
      simp
      omega
    rw [asciiDigit, hfind]
    show Char.ofNat (48 + (c.toNat - 48)) = c
    rw [show 48 + (c.toNat - 48) = c.toNat by omega, Char.ofNat_toNat]

/-- A text of characters that are taken as they are is read as it stands. -/
theorem intChars_of_intPlain {cs : List Char} (h : ∀ c ∈ cs, IntPlain c) : intChars cs = cs := by
  have hfront : cs.dropWhile intSpace = cs := by
    rw [List.dropWhile_eq_self_iff]
    intro hlength
    simp [(h _ (List.getElem_mem hlength)).1]
  have hback : cs.rdropWhile intSpace = cs := by
    rw [List.rdropWhile_eq_self_iff]
    intro hne
    simp [(h _ (List.getLast_mem hne)).1]
  rw [intChars, hfront, hback]
  exact (List.map_congr_left fun c hc => (h c hc).2).trans (List.map_id _)

end Text

/-- `int(text)`. -/
def pyInt (text : String) : Option ℤ :=
  let chars := Text.intChars text.toList
  -- `sys.get_int_max_str_digits()`: a longer text raises before it is converted
  if Text.maxStrDigits < chars.countP Char.isDigit then none
  else
    match chars with
    | '+' :: digits => ((String.ofList digits).toNat?).map Int.ofNat
    | _ => (String.ofList chars).toInt?

/-- A text of digits, up to the limit of their number, reads as the number they write. -/
theorem pyInt_of_isNat {text : String} (h : text.isNat = true)
    (hlength : text.length ≤ Text.maxStrDigits) :
    pyInt text = some ((Nat.ofDigitChars 10 (text.toList.filter (· != '_')) 0 : ℕ) : ℤ) := by
  have hread : text.toInt? = some _ :=
    String.toInt?_eq_some_of_toNat?_eq_some (String.toNat?_eq_some_ofDigitChars h)
  have hdigit : ∀ c ∈ text.toList, c.isDigit = true ∨ c = '_' := (String.isNat_iff.mp h).2.1
  have hchars : Text.intChars text.toList = text.toList := by
    refine Text.intChars_of_intPlain fun c hc => ?_
    rcases hdigit c hc with hc | rfl
    · exact Text.intPlain_of_isDigit hc
    · exact ⟨by decide, by decide⟩
  have hcount : ¬Text.maxStrDigits < text.toList.countP Char.isDigit := by
    have hle := List.countP_le_length (p := Char.isDigit) (l := text.toList)
    rw [String.length_toList] at hle
    omega
  unfold pyInt
  rw [hchars]
  dsimp only
  rw [if_neg hcount]
  split
  · rename_i digits hplus
    -- a sign is no digit
    exact absurd (hdigit '+' (hplus ▸ List.mem_cons_self)) (by decide)
  · rw [String.ofList_toList, hread]

/-- A text with another character than digits, underscores and signs is not read as a number. -/
theorem pyInt_eq_none {text : String} {c : Char} (hc : c ∈ Text.intChars text.toList)
    (h : c.isDigit = false ∧ c ∉ ['_', '-', '+']) : pyInt text = none := by
  have hno : ∀ {s : String}, c ∈ s.toList → s.isNat = false := by
    intro s hs
    rw [← Bool.not_eq_true, String.isNat_iff]
    rintro ⟨-, hdigit, -⟩
    rcases hdigit c hs with hc | rfl
    · rw [h.1] at hc
      cases hc
    · exact h.2 (by decide)
  unfold pyInt
  dsimp only
  split
  · rfl
  split
  · rename_i digits hplus
    rw [hplus] at hc
    rcases List.mem_cons.mp hc with rfl | hc
    · exact absurd (by decide) h.2
    · rw [String.toNat?_eq_none (hno (by rwa [String.toList_ofList]))]
      rfl
  · apply String.toInt?_eq_none
    rw [← Bool.not_eq_true, String.isInt_iff]
    rintro (hnat | ⟨t, ht, hnat⟩)
    · rw [hno (by rwa [String.toList_ofList])] at hnat
      cases hnat
    · have hchars := congrArg String.toList ht
      rw [String.toList_ofList, String.toList_append] at hchars
      rw [hchars] at hc
      rcases List.mem_append.mp hc with hc | hc
      · rw [List.mem_singleton.mp hc] at h
        exact h.2 (by decide)
      · rw [hno hc] at hnat
        cases hnat

/-- The text of a number is of digits. -/
theorem isNat_natRepr (n : ℕ) : (toString n).isNat = true :=
  String.isNat_of_toNat?_eq_some (Nat.toNat?_repr n)

/-- The text of a number that fits a column of 64 bits reads as the number. -/
theorem pyInt_key {n : ℕ} (h : n < 2 ^ 63) : pyInt (toString n) = some (n : ℤ) := by
  have hlength : (toString n).length ≤ Text.maxStrDigits := by
    have hshort : (toString n).length ≤ 19 := by
      refine (Nat.length_repr_le_iff (by decide)).mpr (h.trans ?_)
      norm_num
    exact hshort.trans (by decide)
  rw [pyInt_of_isNat (isNat_natRepr n) hlength]
  have hread := String.toNat?_eq_some_ofDigitChars (isNat_natRepr n)
  rw [show (toString n).toNat? = some n from Nat.toNat?_repr n, Option.some.injEq] at hread
  rw [← hread]

/-! ## Texts of a database -/

/-- A text that a column of the database can hold: one without the null character. -/
structure DbText where
  text : String
  noNull : '\x00' ∉ text.toList
  deriving DecidableEq

namespace DbText

/-- A text that is written out. -/
def lit (text : String) (noNull : '\x00' ∉ text.toList := by decide) : DbText :=
  ⟨text, noNull⟩

/-- The empty text. -/
def empty : DbText := lit ""

/-- A text as a parameter of a query, or `none` where the driver raises. -/
def ofString? (s : String) : Option DbText :=
  if h : '\x00' ∉ s.toList then some ⟨s, h⟩ else none

/-- Texts with the same characters are the same. -/
@[ext]
theorem ext {s t : DbText} (h : s.text = t.text) : s = t := by
  cases s
  cases t
  congr

/-- Which parameter a text is. -/
theorem ofString?_eq_some {s : String} {t : DbText} : ofString? s = some t ↔ s = t.text := by
  unfold ofString?
  constructor
  · intro h
    split_ifs at h
    rw [← Option.some.inj h]
  · rintro rfl
    rw [dif_pos t.noNull]

/-- A text of the database is its own parameter. -/
@[simp]
theorem ofString?_text (t : DbText) : ofString? t.text = some t :=
  ofString?_eq_some.mpr rfl

/-- The driver raises at a null character. -/
theorem ofString?_eq_none {s : String} : ofString? s = none ↔ '\x00' ∈ s.toList := by
  unfold ofString?
  by_cases h : '\x00' ∈ s.toList
  · rw [dif_neg (not_not.mpr h)]
    exact iff_of_true rfl h
  · rw [dif_pos h]
    exact iff_of_false (Option.some_ne_none _) h

end DbText
