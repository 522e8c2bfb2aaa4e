import AapGateway.Foundations.Text

/-!
# Replacing text

`s.replace(old, new)` for a text `old` that is not empty: its occurrences are replaced from left to
right, and an occurrence that was replaced is not looked at again.

## Main results

* `replaceFrom_append`: an occurrence at the front is replaced, and the rest is treated alike;
* `replaceFrom_eq_self`: a text without the first character of `old` stays as it is;
* `replaceFrom_singleton`: a single character is replaced wherever it stands.
-/

namespace Text

/-- Replace the occurrences of `old` after the next `skip` characters, which belong to the last
occurrence. -/
def replaceFrom (old new : List Char) : ℕ → List Char → List Char
  | _, [] => []
  | skip + 1, _ :: cs => replaceFrom old new skip cs
  | 0, c :: cs =>
    if old.isPrefixOf (c :: cs) then new ++ replaceFrom old new (old.length - 1) cs
    else c :: replaceFrom old new 0 cs

/-- `s.replace(old, new)`. -/
def replace (s old new : String) : String :=
  String.ofList (replaceFrom old.toList new.toList 0 s.toList)

section Rules

variable {old new cs : List Char} {a : Char}

/-- An occurrence at the front is found at its first character, and what follows it is left when the
rest of it is dropped. -/
theorem exists_cons_of_occurrence (hold : old ≠ []) (cs : List Char) :
    ∃ c rest, old ++ cs = c :: rest ∧ old.isPrefixOf (c :: rest) = true ∧
      rest.drop (old.length - 1) = cs := by
  obtain ⟨a, as, rfl⟩ := List.exists_cons_of_ne_nil hold
  refine ⟨a, as ++ cs, rfl, List.isPrefixOf_iff_prefix.mpr (List.prefix_append (a :: as) cs), ?_⟩
  exact List.drop_left ..

/-- Where a text does not begin, it is not found. -/
theorem isPrefixOf_eq_false (h : ¬old <+: cs) : old.isPrefixOf cs = false := by
  rw [Bool.eq_false_iff, ne_eq, List.isPrefixOf_iff_prefix]
  exact h

/-- Skipped characters are dropped. -/
theorem replaceFrom_eq_drop (skip : ℕ) (cs : List Char) :
    replaceFrom old new skip cs = replaceFrom old new 0 (cs.drop skip) := by
  induction skip generalizing cs with
  | zero => rfl
  | succ skip ih =>
      cases cs with
      | nil => rfl
      | cons c cs =>
          rw [replaceFrom, List.drop_succ_cons]
          exact ih cs

/-- An occurrence at the front is replaced, and the replacement goes on behind it. -/
theorem replaceFrom_append (hold : old ≠ []) (cs : List Char) :
    replaceFrom old new 0 (old ++ cs) = new ++ replaceFrom old new 0 cs := by
  obtain ⟨c, rest, heq, hfound, hdrop⟩ := exists_cons_of_occurrence hold cs
  rw [heq, replaceFrom, if_pos hfound, replaceFrom_eq_drop, hdrop]

/-- A character that starts no occurrence stays as it is. -/
theorem replaceFrom_cons {c : Char} (h : ¬old <+: c :: cs) :
    replaceFrom old new 0 (c :: cs) = c :: replaceFrom old new 0 cs := by
  rw [replaceFrom, isPrefixOf_eq_false h]
  rfl

/-- A text without the first character of `old` stays as it is. -/
theorem replaceFrom_eq_self {as : List Char} (h : a ∉ cs) :
    replaceFrom (a :: as) new 0 cs = cs := by
  induction cs with
  | nil => rfl
  | cons c cs ih =>
      rw [List.mem_cons, not_or] at h
      rw [replaceFrom_cons, ih h.2]
      exact fun hprefix => h.1 (List.cons_prefix_cons.mp hprefix).1

/-- A single character is replaced wherever it stands. -/
theorem replaceFrom_singleton (a : Char) (new cs : List Char) :
    replaceFrom [a] new 0 cs = cs.flatMap fun c => if c = a then new else [c] := by
  induction cs with
  | nil => rfl
  | cons c cs ih =>
      rw [List.flatMap_cons, ← ih]
      by_cases hc : c = a
      · rw [if_pos hc, hc]
        exact replaceFrom_append (List.cons_ne_nil a []) cs
      · rw [if_neg hc, replaceFrom_cons]
        · rfl
        · exact fun hprefix => hc (List.cons_prefix_cons.mp hprefix).1.symm

end Rules

end Text
