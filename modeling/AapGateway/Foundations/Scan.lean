import Mathlib

/-!
# Scanning a text

A matcher reads a value off the front of a text and leaves the rest, as a regular expression does
that needs no backtracking. Scanning goes through a text from left to right, takes each match that
it meets and goes on after it, as `re.finditer` and `re.findall` do.

## Main definitions

* `Matcher.oneOrMore` and `Matcher.literal`: a maximal run of a class, and a fixed text;
* `Matcher.scan`: the matches of a text;
* `Matcher.StopsAt`: the matcher does not read past a boundary;
* `Matcher.Yields`: a property of the values that the matcher reads.

## Main results

* `StopsAt.bind` and `StopsAt.orElse`: matchers that stop at a boundary compose;
* `scan_append`: the matches of a text that has a boundary in it are those of its two parts.
-/

/-- A matcher reads a value off the front of a text, and leaves the rest. -/
abbrev Matcher (α β : Type) := StateT (List α) Option β

namespace Matcher

variable {α β γ : Type}

/-- A maximal run of characters of a class, which is not empty: `[…]+`. -/
def oneOrMore (p : α → Bool) : Matcher α (List α) := fun text =>
  if (text.takeWhile p).isEmpty then none else some (text.takeWhile p, text.dropWhile p)

/-- A fixed text. -/
def literal [BEq α] (lit : List α) : Matcher α Unit := fun text =>
  (lit.isPrefixOf? text).map fun rest => ((), rest)

/-- The matches of a text from left to right, once `k` more of its characters have been passed. -/
def scan (m : Matcher α β) : ℕ → List α → List β
  | _, [] => []
  | k + 1, _ :: text => scan m k text
  | 0, a :: text =>
    match m.run (a :: text) with
    | some (b, rest) => b :: scan m (text.length - rest.length) text
    | none => scan m 0 text

/-- `re.findall`. -/
def findall (m : Matcher α β) (text : List α) : List β :=
  scan m 0 text

/-- The second matcher reads the text if the first one does not. -/
theorem run_orElse (m m' : Matcher α β) (text : List α) :
    (m <|> m').run text = (m.run text <|> m'.run text) := rfl

/-! ### Reading a run and a fixed text -/

/-- A run ends at a character that is not of the class. -/
theorem run_oneOrMore {p : α → Bool} {run rest : List α} (hne : run ≠ []) (hrun : ∀ a ∈ run, p a)
    (hrest : ∀ a ∈ rest.head?, p a = false) :
    (oneOrMore p).run (run ++ rest) = some (run, rest) := by
  have htake : rest.takeWhile p = [] := by
    cases rest with
    | nil => rfl
    | cons a rest => simp [hrest a rfl]
  have hdrop : rest.dropWhile p = rest := by
    cases rest with
    | nil => rfl
    | cons a rest => simp [hrest a rfl]
  have htakeAll : (run ++ rest).takeWhile p = run := by
    rw [List.takeWhile_append_of_pos hrun, htake, List.append_nil]
  have hdropAll : (run ++ rest).dropWhile p = rest := by
    rw [List.dropWhile_append_of_pos hrun, hdrop]
  simp [StateT.run, oneOrMore, htakeAll, hdropAll, hne]

section Literal

variable [BEq α] [LawfulBEq α]

/-- A text that starts with the fixed text is read up to its end. -/
theorem run_literal (lit rest : List α) : (literal lit).run (lit ++ rest) = some ((), rest) := by
  have hread : lit.isPrefixOf? (lit ++ rest) = some rest :=
    List.isPrefixOf?_eq_some_iff_append_eq.mpr rfl
  simp [StateT.run, literal, hread]

/-- A text that does not start with the fixed text is not read. -/
theorem run_literal_eq_none {lit text : List α} (h : ¬lit <+: text) :
    (literal lit).run text = none := by
  have hnone : lit.isPrefixOf? text = none := by
    rw [Option.eq_none_iff_forall_not_mem]
    intro rest hrest
    exact h ⟨rest, List.isPrefixOf?_eq_some_iff_append_eq.mp hrest⟩
  simp [StateT.run, literal, hnone]

end Literal

/-! ### Boundaries -/

/-- Where a text ends with `d`, the matcher reads as if nothing came after it, and it does not read
the `d` itself. -/
structure StopsAt (m : Matcher α β) (d : α) (more : List α) : Prop where
  run_append : ∀ {text}, [d] <:+ text →
    m.run (text ++ more) = (m.run text).map fun p => (p.1, p.2 ++ more)
  suffix : ∀ {text b rest}, [d] <:+ text → m.run text = some (b, rest) → [d] <:+ rest

section StopsAt

variable {m : Matcher α β} {f : β → Matcher α γ} {d : α} {more : List α}

/-- What is left of a text after a run still ends with a character that is not of the class. -/
theorem suffix_dropWhile {p : α → Bool} (hd : p d = false) {text : List α} (h : [d] <:+ text) :
    [d] <:+ text.dropWhile p := by
  obtain ⟨before, rfl⟩ := h
  rw [List.dropWhile_append]
  split
  · simp [hd]
  · exact List.suffix_append _ _

/-- A run ends before a character that is not of the class. -/
theorem dropWhile_append {p : α → Bool} (hd : p d = false) {text : List α} (h : [d] <:+ text) :
    (text ++ more).dropWhile p = text.dropWhile p ++ more := by
  have hne : text.dropWhile p ≠ [] := (suffix_dropWhile hd h).ne_nil (by simp)
  rw [List.dropWhile_append, if_neg (by simpa using hne)]

/-- A run ends before a character that is not of the class. -/
theorem takeWhile_append {p : α → Bool} (hd : p d = false) {text : List α} (h : [d] <:+ text) :
    (text ++ more).takeWhile p = text.takeWhile p := by
  -- both runs are what is left of the text once the rest is cut off
  have hwhole := List.takeWhile_append_dropWhile (p := p) (l := text ++ more)
  have hpart := List.takeWhile_append_dropWhile (p := p) (l := text)
  rw [dropWhile_append hd h, ← List.append_assoc] at hwhole
  have hcut := List.append_cancel_right hwhole
  exact List.append_cancel_right (hcut.trans hpart.symm)

/-- A run stops at a character that is not of the class. -/
theorem stopsAt_oneOrMore {p : α → Bool} (hd : p d = false) : StopsAt (oneOrMore p) d more where
  run_append {text} h := by
    simp only [StateT.run, oneOrMore, takeWhile_append hd h, dropWhile_append hd h]
    split <;> rfl
  suffix {text b rest} h hrun := by
    simp only [StateT.run, oneOrMore] at hrun
    split at hrun
    · cases hrun
    · obtain ⟨-, rfl⟩ := Prod.ext_iff.mp (Option.some.inj hrun)
      exact suffix_dropWhile hd h

/-- A fixed text stops at a character that it does not end with, unless it goes on with what comes
after it. -/
theorem stopsAt_literal [BEq α] [LawfulBEq α] {lit : List α} (hlast : ¬[d] <:+ lit)
    (hmore : ∀ a ∈ more.head?, ¬[d, a] <:+: lit) : StopsAt (literal lit) d more where
  run_append {text} h := by
    by_cases hlit : lit <+: text
    · obtain ⟨rest, rfl⟩ := hlit
      rw [List.append_assoc, run_literal, run_literal]
      rfl
    · have hnot : ¬lit <+: text ++ more := by
        intro hlong
        rcases List.prefix_or_prefix_of_prefix hlong (List.prefix_append _ _) with hle | hge
        · exact hlit hle
        · -- the fixed text starts with the whole text and its boundary
          obtain ⟨w, rfl⟩ := hge
          obtain ⟨before, rfl⟩ := h
          have hw : w <+: more := (List.prefix_append_right_inj _).mp hlong
          cases w with
          | nil => exact hlit (by simp)
          | cons a w =>
            obtain ⟨rest, rfl⟩ := hw
            exact hmore a rfl ⟨before, w, by simp⟩
      rw [run_literal_eq_none hnot, run_literal_eq_none hlit]
      rfl
  suffix {text b rest} h hrun := by
    by_cases hlit : lit <+: text
    · obtain ⟨rest', rfl⟩ := hlit
      rw [run_literal] at hrun
      obtain ⟨-, rfl⟩ := Prod.ext_iff.mp (Option.some.inj hrun)
      rcases List.eq_nil_or_concat rest' with rfl | ⟨before, a, rfl⟩
      · exact absurd (by simpa using h) hlast
      · rw [List.concat_eq_append, ← List.append_assoc,
          List.singleton_suffix_append_singleton_iff] at h
        exact ⟨before, by rw [h, List.concat_eq_append]⟩
    · rw [run_literal_eq_none hlit] at hrun
      cases hrun

theorem stopsAt_pure (b : β) : StopsAt (pure b : Matcher α β) d more where
  run_append _ := rfl
  suffix h hrun := by
    obtain ⟨-, rfl⟩ := Prod.ext_iff.mp (Option.some.inj hrun)
    exact h

/-- One matcher after another. -/
theorem StopsAt.bind (hm : StopsAt m d more) (hf : ∀ b, StopsAt (f b) d more) :
    StopsAt (m >>= f) d more where
  run_append {text} h := by
    rw [StateT.run_bind, StateT.run_bind, hm.run_append h]
    cases hrun : m.run text with
    | none => rfl
    | some p => exact (hf p.1).run_append (hm.suffix h hrun)
  suffix {text c rest} h hrun := by
    rw [StateT.run_bind] at hrun
    obtain ⟨p, hp, hrest⟩ := Option.bind_eq_some_iff.mp hrun
    exact (hf p.1).suffix (hm.suffix h hp) hrest

/-- The first of two matchers that reads the text. -/
theorem StopsAt.orElse {m' : Matcher α β} (hm : StopsAt m d more) (hm' : StopsAt m' d more) :
    StopsAt (m <|> m') d more where
  run_append {text} h := by
    rw [run_orElse, run_orElse, hm.run_append h, hm'.run_append h]
    cases m.run text <;> rfl
  suffix {text b rest} h hrun := by
    rw [run_orElse] at hrun
    cases hfirst : m.run text with
    | none =>
      rw [hfirst] at hrun
      exact hm'.suffix h hrun
    | some p =>
      rw [hfirst] at hrun
      exact hm.suffix h (hfirst.trans hrun)

end StopsAt

/-! ### What a matcher can read -/

/-- Every value that the matcher reads has the property. -/
structure Yields (m : Matcher α β) (P : β → Prop) : Prop where
  of_run : ∀ {text b rest}, m.run text = some (b, rest) → P b

section Yields

variable {m : Matcher α β} {f : β → Matcher α γ} {P : β → Prop} {Q : γ → Prop}

theorem yields_true : Yields m fun _ => True where
  of_run _ := trivial

theorem yields_pure {b : β} (h : P b) : Yields (pure b : Matcher α β) P where
  of_run hrun := by
    obtain ⟨rfl, -⟩ := Prod.ext_iff.mp (Option.some.inj hrun)
    exact h

theorem yields_failure : Yields (failure : Matcher α β) P where
  of_run hrun := by cases hrun

/-- The value of two matchers in a row is that of the second. -/
theorem Yields.bind (hm : Yields m P) (hf : ∀ b, P b → Yields (f b) Q) : Yields (m >>= f) Q where
  of_run {text c rest} hrun := by
    rw [StateT.run_bind] at hrun
    obtain ⟨p, hp, hrest⟩ := Option.bind_eq_some_iff.mp hrun
    exact (hf p.1 (hm.of_run hp)).of_run hrest

theorem Yields.orElse {m' : Matcher α β} (hm : Yields m P) (hm' : Yields m' P) :
    Yields (m <|> m') P where
  of_run {text b rest} hrun := by
    rw [run_orElse] at hrun
    cases hfirst : m.run text with
    | none =>
      rw [hfirst] at hrun
      exact hm'.of_run hrun
    | some p =>
      rw [hfirst] at hrun
      exact hm.of_run (hfirst.trans hrun)

end Yields

/-! ### Scanning -/

section Scan

variable {m : Matcher α β}

/-- Passing characters leaves the matches of what comes after them. -/
theorem scan_eq_findall_drop (k : ℕ) (text : List α) :
    scan m k text = findall m (text.drop k) := by
  induction text generalizing k with
  | nil => simp [findall, scan]
  | cons a text ih =>
    cases k with
    | zero => rfl
    | succ k => exact ih k

/-- Where there is no match, scanning goes on with the next character. -/
theorem findall_cons_of_run_eq_none {a : α} {text : List α} (h : m.run (a :: text) = none) :
    findall m (a :: text) = findall m text := by
  simp only [findall, scan, h]

/-- After a match, scanning goes on with what the match leaves. -/
theorem findall_of_run {b : β} {word rest : List α} (hne : word ≠ [])
    (h : m.run (word ++ rest) = some (b, rest)) :
    findall m (word ++ rest) = b :: findall m rest := by
  obtain ⟨a, word, rfl⟩ := List.exists_cons_of_ne_nil hne
  rw [List.cons_append] at h
  simp only [findall, List.cons_append, scan, h]
  rw [scan_eq_findall_drop, List.length_append, Nat.add_sub_cancel, List.drop_left]
  rfl

/-- The matches of a text with a boundary in it are those before the boundary and those after it. -/
theorem scan_append {d : α} {text more : List α} (hm : StopsAt m d more) {k : ℕ}
    (hk : k ≤ text.length) (htext : text = [] ∨ [d] <:+ text) :
    scan m k (text ++ more) = scan m k text ++ findall m more := by
  induction text generalizing k with
  | nil =>
    obtain rfl : k = 0 := by simpa using hk
    rfl
  | cons a text ih =>
    have hsuffix : [d] <:+ a :: text := htext.resolve_left (by simp)
    have hrest : text = [] ∨ [d] <:+ text := by
      rcases List.suffix_cons_iff.mp hsuffix with heq | hshort
      · exact .inl (List.cons.inj heq).2.symm
      · exact .inr hshort
    cases k with
    | succ k => exact ih (by simpa using hk) hrest
    | zero =>
      have hrun := hm.run_append hsuffix
      rw [List.cons_append] at hrun
      rw [List.cons_append, scan, scan, hrun]
      cases m.run (a :: text) with
      | none => exact ih (by omega) hrest
      | some p =>
        -- what the match leaves is longer by the part after the boundary, and so is the text
        have hpass : (text ++ more).length - (p.2 ++ more).length = text.length - p.2.length := by
          simp only [List.length_append]
          omega
        simp only [Option.map_some, hpass, List.cons_append]
        rw [ih (by omega) hrest]

theorem findall_append {d : α} {text more : List α} (hm : StopsAt m d more)
    (htext : text = [] ∨ [d] <:+ text) :
    findall m (text ++ more) = findall m text ++ findall m more :=
  scan_append hm (Nat.zero_le _) htext

end Scan

end Matcher
