import AapGateway.Foundations.Replace

/-!
# Counted and simultaneous replacement

Replacing at most so many occurrences of a text, and replacing the occurrences of two texts at once.
A text is cut at the occurrences of both from left to right, and every piece is written anew.
Replacing the one text first and then so many occurrences of the other gives the same where the
occurrences stay apart: none begins inside another one, and the first replacement makes no
occurrence of the second text.

## Main definitions

* `replaceUpTo` and `countFrom`: `s.replace(old, new, limit)` and `s.count(old)`;
* `Piece`, `cut` and `write`: the pieces of a text, and what is written in their place;
* `SourcesApart` and `TargetsApart`: the occurrences stay apart.

## Main results

* `replaceUpTo_replaceFrom_iff`: the one after the other is both at once exactly when the limit is
  not exceeded;
* `sourcesApart_of_marked` and `targetsApart_of_marked`: texts that begin with a mark stay apart.
-/

namespace Text

/-- Replace the first `limit` occurrences of `old` after the next `skip` characters. -/
def replaceUpTo (old new : List Char) : ℕ → ℕ → List Char → List Char
  | _, _, [] => []
  | limit, skip + 1, _ :: cs => replaceUpTo old new limit skip cs
  | 0, 0, c :: cs => c :: cs
  | limit + 1, 0, c :: cs =>
    if old.isPrefixOf (c :: cs) then new ++ replaceUpTo old new limit (old.length - 1) cs
    else c :: replaceUpTo old new (limit + 1) 0 cs

/-- The number of occurrences of `old` after the next `skip` characters. -/
def countFrom (old : List Char) : ℕ → List Char → ℕ
  | _, [] => 0
  | skip + 1, _ :: cs => countFrom old skip cs
  | 0, c :: cs =>
    if old.isPrefixOf (c :: cs) then countFrom old (old.length - 1) cs + 1
    else countFrom old 0 cs

section Counted

variable {old new cs : List Char} {c : Char} {limit : ℕ}

/-- A text is read from left to right: an occurrence, or a character where there is none. -/
theorem occurrence_induction {motive : List Char → Prop} (hold : old ≠ []) (nil : motive [])
    (occurrence : ∀ cs, motive cs → motive (old ++ cs))
    (other : ∀ c cs, ¬old <+: c :: cs → motive cs → motive (c :: cs)) (cs : List Char) :
    motive cs := by
  induction hn : cs.length using Nat.strong_induction_on generalizing cs with
  | h n ih =>
      subst hn
      cases cs with
      | nil => exact nil
      | cons c cs =>
          by_cases hprefix : old <+: c :: cs
          · -- The occurrence is not empty, so that the rest is shorter.
            obtain ⟨rest, hrest⟩ := hprefix
            have hpos : 0 < old.length := List.length_pos_of_ne_nil hold
            have hlength := congrArg List.length hrest
            rw [List.length_append] at hlength
            rw [← hrest]
            exact occurrence rest (ih _ (by omega) rest rfl)
          · exact other c cs hprefix (ih _ (Nat.lt_succ_self _) cs rfl)

/-- Without replacements the text stays as it is. -/
@[simp]
theorem replaceUpTo_zero (cs : List Char) : replaceUpTo old new 0 0 cs = cs := by
  cases cs <;> rfl

theorem replaceUpTo_eq_drop (limit skip : ℕ) (cs : List Char) :
    replaceUpTo old new limit skip cs = replaceUpTo old new limit 0 (cs.drop skip) := by
  induction skip generalizing cs with
  | zero => rfl
  | succ skip ih =>
      cases cs with
      | nil => rfl
      | cons c cs =>
          rw [replaceUpTo, List.drop_succ_cons]
          exact ih cs

/-- An occurrence at the front is replaced while there are replacements left. -/
theorem replaceUpTo_append (hold : old ≠ []) (limit : ℕ) (cs : List Char) :
    replaceUpTo old new (limit + 1) 0 (old ++ cs) = new ++ replaceUpTo old new limit 0 cs := by
  obtain ⟨c, rest, heq, hfound, hdrop⟩ := exists_cons_of_occurrence hold cs
  rw [heq, replaceUpTo, if_pos hfound, replaceUpTo_eq_drop, hdrop]

/-- A character that starts no occurrence stays as it is. -/
theorem replaceUpTo_cons (h : ¬old <+: c :: cs) (limit : ℕ) :
    replaceUpTo old new limit 0 (c :: cs) = c :: replaceUpTo old new limit 0 cs := by
  cases limit with
  | zero => rw [replaceUpTo_zero, replaceUpTo_zero]
  | succ limit =>
      rw [replaceUpTo, isPrefixOf_eq_false h]
      rfl

theorem countFrom_eq_drop (skip : ℕ) (cs : List Char) :
    countFrom old skip cs = countFrom old 0 (cs.drop skip) := by
  induction skip generalizing cs with
  | zero => rfl
  | succ skip ih =>
      cases cs with
      | nil => rfl
      | cons c cs =>
          rw [countFrom, List.drop_succ_cons]
          exact ih cs

/-- An occurrence at the front counts. -/
theorem countFrom_append (hold : old ≠ []) (cs : List Char) :
    countFrom old 0 (old ++ cs) = countFrom old 0 cs + 1 := by
  obtain ⟨c, rest, heq, hfound, hdrop⟩ := exists_cons_of_occurrence hold cs
  rw [heq, countFrom, if_pos hfound, countFrom_eq_drop, hdrop]

/-- A character that starts no occurrence does not. -/
theorem countFrom_cons (h : ¬old <+: c :: cs) : countFrom old 0 (c :: cs) = countFrom old 0 cs := by
  rw [countFrom, isPrefixOf_eq_false h]
  rfl

/-- There are at most as many occurrences as characters. -/
theorem countFrom_le_length (hold : old ≠ []) (cs : List Char) :
    countFrom old 0 cs ≤ cs.length := by
  induction cs using occurrence_induction hold with
  | nil => exact le_rfl
  | occurrence cs ih =>
      have hpos : 0 < old.length := List.length_pos_of_ne_nil hold
      rw [countFrom_append hold, List.length_append]
      omega
  | other c cs h ih =>
      rw [countFrom_cons h, List.length_cons]
      omega

/-- A single character is counted wherever it stands. -/
theorem countFrom_singleton (a : Char) (cs : List Char) : countFrom [a] 0 cs = cs.count a := by
  induction cs with
  | nil => rfl
  | cons c cs ih =>
      rw [List.count_cons, ← ih]
      by_cases hc : c = a
      · rw [hc, beq_self_eq_true, if_pos rfl]
        exact countFrom_append (List.cons_ne_nil a []) cs
      · rw [countFrom_cons fun hprefix => hc (List.cons_prefix_cons.mp hprefix).1.symm,
          if_neg (by simpa using hc), Nat.add_zero]

/-- Where there are no more occurrences than may be replaced, all of them are. -/
theorem replaceUpTo_of_le (hold : old ≠ []) (h : countFrom old 0 cs ≤ limit) :
    replaceUpTo old new limit 0 cs = replaceFrom old new 0 cs := by
  induction cs using occurrence_induction hold generalizing limit with
  | nil => cases limit <;> rfl
  | occurrence cs ih =>
      rw [countFrom_append hold] at h
      obtain ⟨rest, rfl⟩ := Nat.exists_eq_add_of_le h
      rw [show countFrom old 0 cs + 1 + rest = countFrom old 0 cs + rest + 1 by omega,
        replaceUpTo_append hold, replaceFrom_append hold, ih (Nat.le_add_right _ _)]
  | other c cs hc ih =>
      rw [countFrom_cons hc] at h
      rw [replaceUpTo_cons hc, replaceFrom_cons hc, ih h]

/-- How long the text is then. -/
theorem exists_length_replaceUpTo (hold : old ≠ []) (limit : ℕ) (cs : List Char) :
    ∃ m, (replaceUpTo old new limit 0 cs).length + m * old.length = cs.length + m * new.length := by
  induction cs using occurrence_induction hold generalizing limit with
  | nil => exact ⟨0, by rw [show replaceUpTo old new limit 0 [] = [] by cases limit <;> rfl]; omega⟩
  | occurrence cs ih =>
      cases limit with
      | zero => exact ⟨0, by rw [replaceUpTo_zero]; omega⟩
      | succ limit =>
          obtain ⟨m, hm⟩ := ih limit
          refine ⟨m + 1, ?_⟩
          rw [replaceUpTo_append hold, List.length_append, List.length_append, Nat.succ_mul,
            Nat.succ_mul]
          omega
  | other c cs hc ih =>
      obtain ⟨m, hm⟩ := ih limit
      refine ⟨m, ?_⟩
      rw [replaceUpTo_cons hc, List.length_cons, List.length_cons]
      omega

/-- A text that stays as it is although something may be replaced in it has no occurrence. -/
theorem not_infix_of_replaceUpTo_eq_self (hold : old ≠ []) (hne : old ≠ new)
    (h : replaceUpTo old new (limit + 1) 0 cs = cs) : ¬old <:+: cs := by
  induction cs using occurrence_induction hold with
  | nil => rwa [List.infix_nil]
  | occurrence cs ih =>
      -- The replacement would be as long as what it replaces, and so the same.
      rw [replaceUpTo_append hold] at h
      obtain ⟨m, hm⟩ : ∃ m, (replaceUpTo old new limit 0 cs).length + m * old.length =
          cs.length + m * new.length := exists_length_replaceUpTo hold limit cs
      have hlength := congrArg List.length h
      rw [List.length_append, List.length_append] at hlength
      have hsame : (m + 1) * new.length = (m + 1) * old.length := by
        rw [Nat.succ_mul, Nat.succ_mul]
        omega
      have hequal := Nat.eq_of_mul_eq_mul_left (Nat.succ_pos m) hsame
      exact absurd (List.append_inj_left h hequal).symm hne
  | other c cs hc ih =>
      rw [replaceUpTo_cons hc] at h
      rw [List.infix_cons_iff, not_or]
      exact ⟨hc, ih (List.cons.inj h).2⟩

/-- Replacing a text by itself changes nothing. -/
theorem replaceUpTo_self (hold : old ≠ []) (limit : ℕ) (cs : List Char) :
    replaceUpTo old old limit 0 cs = cs := by
  induction cs using occurrence_induction hold generalizing limit with
  | nil => cases limit <;> rfl
  | occurrence cs ih =>
      cases limit with
      | zero => rw [replaceUpTo_zero]
      | succ limit => rw [replaceUpTo_append hold, ih limit]
  | other c cs hc ih => rw [replaceUpTo_cons hc, ih limit]

theorem replaceFrom_self (hold : old ≠ []) (cs : List Char) : replaceFrom old old 0 cs = cs := by
  rw [← replaceUpTo_of_le hold le_rfl, replaceUpTo_self hold]

/-- Where no occurrence begins, nothing is replaced. -/
theorem replaceUpTo_append_of_apart {text : List Char} (limit : ℕ)
    (h : ∀ v, v ≠ [] → v <:+ text → ¬old <+: v ++ cs) :
    replaceUpTo old new limit 0 (text ++ cs) = text ++ replaceUpTo old new limit 0 cs := by
  induction text with
  | nil => rfl
  | cons c text ih =>
      have hc : ¬old <+: c :: (text ++ cs) := h _ (List.cons_ne_nil c text) List.suffix_rfl
      rw [List.cons_append, replaceUpTo_cons hc,
        ih fun v hv hsuffix => h v hv (hsuffix.trans (List.suffix_cons c text))]
      rfl

/-- The same of all occurrences. -/
theorem replaceFrom_append_of_apart {text : List Char}
    (h : ∀ v, v ≠ [] → v <:+ text → ¬old <+: v ++ cs) :
    replaceFrom old new 0 (text ++ cs) = text ++ replaceFrom old new 0 cs := by
  induction text with
  | nil => rfl
  | cons c text ih =>
      have hc : ¬old <+: c :: (text ++ cs) := h _ (List.cons_ne_nil c text) List.suffix_rfl
      rw [List.cons_append, replaceFrom_cons hc,
        ih fun v hv hsuffix => h v hv (hsuffix.trans (List.suffix_cons c text))]
      rfl

end Counted

/-! ## Two texts at once -/

/-- A piece of a text that is cut at the occurrences of two texts. -/
inductive Piece where
  | first
  | second
  | other (c : Char)
  deriving DecidableEq, Repr

/-- Cut a text after the next `skip` characters. Where both texts begin, the first one counts. -/
def cut (a b : List Char) : ℕ → List Char → List Piece
  | _, [] => []
  | skip + 1, _ :: cs => cut a b skip cs
  | 0, c :: cs =>
    if a.isPrefixOf (c :: cs) then .first :: cut a b (a.length - 1) cs
    else if b.isPrefixOf (c :: cs) then .second :: cut a b (b.length - 1) cs
    else .other c :: cut a b 0 cs

/-- What is written for a piece. -/
def Piece.text (a b : List Char) : Piece → List Char
  | .first => a
  | .second => b
  | .other c => [c]

/-- Pieces, written with two texts. -/
def write (a b : List Char) (l : List Piece) : List Char :=
  l.flatMap (Piece.text a b)

/-- No occurrence of the first text begins inside a second piece. -/
def SourcesApart (a b : List Char) : List Piece → Prop
  | [] => True
  | .second :: l => (∀ v, v ≠ [] → v <:+ b → ¬a <+: v ++ write a b l) ∧ SourcesApart a b l
  | .first :: l | .other _ :: l => SourcesApart a b l

/-- When the first pieces are written with `r`, an occurrence of the second text begins at the
second pieces only. -/
def TargetsApart (r b : List Char) : List Piece → Prop
  | [] => True
  | .first :: l => (∀ v, v ≠ [] → v <:+ r → ¬b <+: v ++ write r b l) ∧ TargetsApart r b l
  | .second :: l => TargetsApart r b l
  | .other c :: l => ¬b <+: c :: write r b l ∧ TargetsApart r b l

section Pieces

variable {a b r b' cs : List Char} {l : List Piece} {c : Char} {limit : ℕ}

@[simp]
theorem write_nil : write a b [] = [] := rfl

@[simp]
theorem write_first : write a b (.first :: l) = a ++ write a b l := rfl

@[simp]
theorem write_second : write a b (.second :: l) = b ++ write a b l := rfl

@[simp]
theorem write_other : write a b (.other c :: l) = c :: write a b l := rfl

theorem cut_eq_drop (skip : ℕ) (cs : List Char) : cut a b skip cs = cut a b 0 (cs.drop skip) := by
  induction skip generalizing cs with
  | zero => rfl
  | succ skip ih =>
      cases cs with
      | nil => rfl
      | cons c cs =>
          rw [cut, List.drop_succ_cons]
          exact ih cs

/-- An occurrence of the first text at the front. -/
theorem cut_first (ha : a ≠ []) (cs : List Char) :
    cut a b 0 (a ++ cs) = .first :: cut a b 0 cs := by
  obtain ⟨c, rest, heq, hfound, hdrop⟩ := exists_cons_of_occurrence ha cs
  rw [heq, cut, if_pos hfound, cut_eq_drop, hdrop]

/-- An occurrence of the second one only. -/
theorem cut_second (hb : b ≠ []) (h : ¬a <+: b ++ cs) :
    cut a b 0 (b ++ cs) = .second :: cut a b 0 cs := by
  obtain ⟨c, rest, heq, hfound, hdrop⟩ := exists_cons_of_occurrence hb cs
  rw [heq] at h ⊢
  rw [cut, isPrefixOf_eq_false h, if_neg Bool.false_ne_true, if_pos hfound, cut_eq_drop, hdrop]

/-- A character that starts neither. -/
theorem cut_other (ha : ¬a <+: c :: cs) (hb : ¬b <+: c :: cs) :
    cut a b 0 (c :: cs) = .other c :: cut a b 0 cs := by
  rw [cut, isPrefixOf_eq_false ha, isPrefixOf_eq_false hb]
  rfl

/-- A text is read from left to right, piece by piece. -/
theorem cut_induction {motive : List Char → Prop} (ha : a ≠ []) (hb : b ≠ []) (nil : motive [])
    (first : ∀ cs, motive cs → motive (a ++ cs))
    (second : ∀ cs, ¬a <+: b ++ cs → motive cs → motive (b ++ cs))
    (other : ∀ c cs, ¬a <+: c :: cs → ¬b <+: c :: cs → motive cs → motive (c :: cs))
    (cs : List Char) : motive cs := by
  induction hn : cs.length using Nat.strong_induction_on generalizing cs with
  | h n ih =>
      subst hn
      -- Neither text is empty, so that the rest after one of them is shorter.
      have hshorter : ∀ {p rest : List Char}, p ≠ [] → p ++ rest = cs →
          rest.length < cs.length := by
        rintro p rest hp rfl
        have hpos := List.length_pos_of_ne_nil hp
        rw [List.length_append]
        omega
      by_cases hfirst : a <+: cs
      · obtain ⟨rest, hrest⟩ := hfirst
        have hmotive := ih _ (hshorter ha hrest) rest rfl
        rw [← hrest]
        exact first rest hmotive
      · by_cases hsecond : b <+: cs
        · obtain ⟨rest, hrest⟩ := hsecond
          have hmotive := ih _ (hshorter hb hrest) rest rfl
          rw [← hrest] at hfirst ⊢
          exact second rest hfirst hmotive
        · cases cs with
          | nil => exact nil
          | cons c cs => exact other c cs hfirst hsecond (ih _ (Nat.lt_succ_self _) cs rfl)

/-- The pieces are the whole text. -/
theorem write_cut (ha : a ≠ []) (hb : b ≠ []) (cs : List Char) : write a b (cut a b 0 cs) = cs := by
  induction cs using cut_induction ha hb with
  | nil => rfl
  | first cs ih => rw [cut_first ha, write_first, ih]
  | second cs h ih => rw [cut_second hb h, write_second, ih]
  | other c cs hfirst hsecond ih => rw [cut_other hfirst hsecond, write_other, ih]

/-- Replacing the first text leaves the second pieces. -/
theorem replaceFrom_eq_write (ha : a ≠ []) (hb : b ≠ [])
    (h : SourcesApart a b (cut a b 0 cs)) : replaceFrom a r 0 cs = write r b (cut a b 0 cs) := by
  induction cs using cut_induction ha hb with
  | nil => rfl
  | first cs ih =>
      rw [cut_first ha] at h ⊢
      rw [replaceFrom_append ha, write_first, ih h]
  | second cs hnot ih =>
      rw [cut_second hb hnot] at h ⊢
      obtain ⟨hinside, hrest⟩ := h
      rw [write_cut ha hb] at hinside
      -- The search for the first text walks through the piece without finding anything.
      rw [replaceFrom_append_of_apart hinside, write_second, ih hrest]
  | other c cs hfirst hsecond ih =>
      rw [cut_other hfirst hsecond] at h ⊢
      rw [replaceFrom_cons hfirst, write_other, ih h]

/-- What the length of a text owes to its second pieces. -/
theorem length_write (l : List Piece) : (write r b' l).length + l.count .second * b.length =
    (write r b l).length + l.count .second * b'.length := by
  induction l with
  | nil => simp
  | cons piece l ih =>
      cases piece with
      | first =>
          rw [List.count_cons_of_ne (by decide), write_first, write_first, List.length_append,
            List.length_append]
          omega
      | second =>
          rw [List.count_cons_self, write_second, write_second, List.length_append,
            List.length_append, Nat.succ_mul, Nat.succ_mul]
          omega
      | other c =>
          rw [List.count_cons_of_ne (by simp), write_other, write_other, List.length_cons,
            List.length_cons]
          omega

/-- With enough replacements the second pieces are all replaced. -/
theorem replaceUpTo_write (hb : b ≠ []) (h : TargetsApart r b l)
    (hlimit : l.count .second ≤ limit) : replaceUpTo b b' limit 0 (write r b l) = write r b' l := by
  induction l generalizing limit with
  | nil => cases limit <;> rfl
  | cons piece l ih =>
      cases piece with
      | first =>
          rw [List.count_cons_of_ne (by decide)] at hlimit
          rw [write_first, write_first, replaceUpTo_append_of_apart limit h.1, ih h.2 hlimit]
      | second =>
          rw [List.count_cons_self] at hlimit
          obtain ⟨rest, rfl⟩ := Nat.exists_eq_add_of_le hlimit
          rw [write_second, write_second,
            show l.count .second + 1 + rest = l.count .second + rest + 1 by omega,
            replaceUpTo_append hb, ih h (Nat.le_add_right _ _)]
      | other c =>
          rw [List.count_cons_of_ne (by simp)] at hlimit
          rw [write_other, write_other, replaceUpTo_cons h.1, ih h.2 hlimit]

/-- With fewer they are not. -/
theorem count_le_of_replaceUpTo_write (hb : b ≠ []) (hne : b ≠ b')
    (h : limit = 0 ∨ TargetsApart r b l)
    (heq : replaceUpTo b b' limit 0 (write r b l) = write r b' l) : l.count .second ≤ limit := by
  induction l generalizing limit with
  | nil => exact Nat.zero_le _
  | cons piece l ih =>
      cases piece with
      | first =>
          rw [List.count_cons_of_ne (by decide)]
          -- A first piece is passed over, so that the limit is the same for the rest.
          have htail : limit = 0 ∨ TargetsApart r b l := h.imp_right And.right
          refine ih htail ?_
          rw [write_first, write_first] at heq
          rcases h with rfl | ⟨hapart, -⟩
          · rw [replaceUpTo_zero] at heq ⊢
            exact List.append_cancel_left heq
          · rw [replaceUpTo_append_of_apart limit hapart] at heq
            exact List.append_cancel_left heq
      | second =>
          rw [write_second, write_second] at heq
          cases limit with
          | zero =>
              -- What is written for the piece would be as long as before, and so the same.
              rw [replaceUpTo_zero] at heq
              have hlength := congrArg List.length heq
              have hrest : (write r b' l).length + l.count .second * b.length =
                  (write r b l).length + l.count .second * b'.length := length_write l
              rw [List.length_append, List.length_append] at hlength
              have hsame : (l.count .second + 1) * b.length =
                  (l.count .second + 1) * b'.length := by
                rw [Nat.succ_mul, Nat.succ_mul]
                omega
              have hequal := Nat.eq_of_mul_eq_mul_left (Nat.succ_pos _) hsame
              exact absurd (List.append_inj_left heq hequal) hne
          | succ limit =>
              -- The piece is replaced and takes one replacement.
              rw [List.count_cons_self]
              rw [replaceUpTo_append hb] at heq
              have htail : TargetsApart r b l := h.resolve_left (Nat.succ_ne_zero _)
              exact Nat.succ_le_succ (ih (Or.inr htail) (List.append_cancel_left heq))
      | other c =>
          rw [List.count_cons_of_ne (by simp)]
          have htail : limit = 0 ∨ TargetsApart r b l := h.imp_right And.right
          refine ih htail ?_
          rw [write_other, write_other] at heq
          rcases h with rfl | ⟨hapart, -⟩
          · rw [replaceUpTo_zero] at heq ⊢
            exact (List.cons.inj heq).2
          · rw [replaceUpTo_cons hapart] at heq
            exact (List.cons.inj heq).2

/-- Without second pieces it does not matter what is written for them. -/
theorem write_of_count_eq_zero (h : l.count .second = 0) : write r b l = write r b' l := by
  refine List.flatMap_congr fun piece hpiece => ?_
  cases piece with
  | first => rfl
  | second => exact absurd hpiece (List.count_eq_zero.mp h)
  | other c => rfl

/-- Replacing one text and then so many occurrences of another is replacing both at once exactly
when there are no more occurrences than that. -/
theorem replaceUpTo_replaceFrom_iff (ha : a ≠ []) (hb : b ≠ []) (hne : b ≠ b')
    (hsources : SourcesApart a b (cut a b 0 cs))
    (htargets : limit = 0 ∨ TargetsApart r b (cut a b 0 cs)) :
    replaceUpTo b b' limit 0 (replaceFrom a r 0 cs) = write r b' (cut a b 0 cs) ↔
      (cut a b 0 cs).count .second ≤ limit := by
  rw [replaceFrom_eq_write ha hb hsources]
  refine ⟨count_le_of_replaceUpTo_write hb hne htargets, fun hlimit => ?_⟩
  rcases htargets with rfl | htargets
  · rw [replaceUpTo_zero]
    exact write_of_count_eq_zero (Nat.le_zero.mp hlimit)
  · exact replaceUpTo_write hb htargets hlimit

/-! ### Texts that stay apart -/

/-- Without second pieces nothing begins inside one. -/
theorem sourcesApart_of_count_eq_zero (h : l.count .second = 0) : SourcesApart a b l := by
  induction l with
  | nil => trivial
  | cons piece l ih =>
      cases piece with
      | first =>
          rw [List.count_cons_of_ne (by decide)] at h
          exact ih h
      | second => exact absurd List.mem_cons_self (List.count_eq_zero.mp h)
      | other c =>
          rw [List.count_cons_of_ne (by simp)] at h
          exact ih h

/-- Without second pieces the second text begins nowhere if it does not occur. -/
theorem targetsApart_of_not_infix (hcount : l.count .second = 0) (h : ¬b <:+: write r b l) :
    TargetsApart r b l := by
  induction l with
  | nil => trivial
  | cons piece l ih =>
      cases piece with
      | first =>
          rw [List.count_cons_of_ne (by decide)] at hcount
          rw [write_first] at h
          refine ⟨fun v _ hv hprefix => h ?_, ih hcount fun hinfix => h ?_⟩
          · obtain ⟨u, rfl⟩ := hv
            rw [List.append_assoc]
            exact hprefix.isInfix.trans (List.suffix_append u _).isInfix
          · exact hinfix.trans (List.suffix_append _ _).isInfix
      | second => exact absurd List.mem_cons_self (List.count_eq_zero.mp hcount)
      | other c =>
          rw [List.count_cons_of_ne (by simp)] at hcount
          rw [write_other, List.infix_cons_iff, not_or] at h
          exact ⟨h.1, ih hcount h.2⟩

/-- A text that is cut at one text only. -/
theorem count_second_cut_self (ha : a ≠ []) (cs : List Char) :
    (cut a a 0 cs).count .second = 0 := by
  induction cs using occurrence_induction ha with
  | nil => rfl
  | occurrence cs ih => rw [cut_first ha, List.count_cons_of_ne (by decide), ih]
  | other c cs hc ih => rw [cut_other hc hc, List.count_cons_of_ne (by simp), ih]

variable {x : Char} {a₀ b₀ r₀ : List Char}

/-- A text that begins with a mark does not begin where the mark is not. -/
theorem not_prefix_of_suffix_of_notMem {v text rest : List Char} (hx : x ∉ text) (hv : v ≠ [])
    (hsuffix : v <:+ text) : ¬x :: b₀ <+: v ++ rest := by
  obtain ⟨c, v, rfl⟩ := List.exists_cons_of_ne_nil hv
  rw [List.cons_append, List.cons_prefix_cons]
  rintro ⟨rfl, -⟩
  exact hx (hsuffix.subset List.mem_cons_self)

/-- In a text without the mark nothing is replaced. -/
theorem replaceUpTo_eq_self_of_notMem (hx : x ∉ cs) (limit : ℕ) :
    replaceUpTo (x :: b₀) b' limit 0 cs = cs := by
  have hapart : replaceUpTo (x :: b₀) b' limit 0 (cs ++ []) =
      cs ++ replaceUpTo (x :: b₀) b' limit 0 [] :=
    replaceUpTo_append_of_apart limit fun v hv hsuffix =>
      not_prefix_of_suffix_of_notMem hx hv hsuffix
  rw [List.append_nil] at hapart
  rw [hapart, show replaceUpTo (x :: b₀) b' limit 0 [] = [] by cases limit <;> rfl, List.append_nil]

/-- Texts with one mark each, in front: no occurrence begins inside another one. -/
theorem sourcesApart_of_marked (hb : x ∉ b₀) (cs : List Char) :
    SourcesApart (x :: a₀) (x :: b₀) (cut (x :: a₀) (x :: b₀) 0 cs) := by
  have hne : ∀ text : List Char, x :: text ≠ [] := List.cons_ne_nil x
  induction cs using cut_induction (hne a₀) (hne b₀) with
  | nil => trivial
  | first cs ih =>
      rw [cut_first (hne a₀)]
      exact ih
  | second cs hnot ih =>
      rw [cut_second (hne b₀) hnot]
      refine ⟨fun v hv hsuffix => ?_, ih⟩
      -- The piece itself is no occurrence of the first text, and the mark is nowhere else in it.
      rcases List.suffix_cons_iff.mp hsuffix with rfl | hsuffix
      · rwa [write_cut (hne a₀) (hne b₀)]
      · exact not_prefix_of_suffix_of_notMem hb hv hsuffix
  | other c cs hfirst hsecond ih =>
      rw [cut_other hfirst hsecond]
      exact ih

/-- A text without the mark begins a text exactly when it begins what is written for its pieces. -/
theorem prefix_write_of_notMem {text : List Char} (htext : x ∉ text)
    (h : text <+: write (x :: r₀) (x :: b₀) l) : text <+: write (x :: a₀) (x :: b₀) l := by
  induction l generalizing text with
  | nil => exact h
  | cons piece l ih =>
      cases text with
      | nil => exact List.nil_prefix
      | cons c text =>
          have hmarked : ∀ rest : List Char, ¬c :: text <+: x :: rest := by
            intro rest hprefix
            exact htext ((List.cons_prefix_cons.mp hprefix).1 ▸ List.mem_cons_self)
          -- A piece that is written with the mark would put it into the text.
          cases piece with
          | first => exact absurd h (hmarked _)
          | second => exact absurd h (hmarked _)
          | other d =>
              obtain ⟨rfl, hrest⟩ := List.cons_prefix_cons.mp h
              exact List.cons_prefix_cons.mpr
                ⟨rfl, ih (fun hx => htext (List.mem_cons_of_mem c hx)) hrest⟩

/-- If the second text does not begin where the first one was replaced either, it begins at the
second pieces only. -/
theorem targetsApart_of_marked (hb : x ∉ b₀) (hr : x ∉ r₀) (hapart : ∀ rest, ¬b₀ <+: r₀ ++ rest)
    (cs : List Char) : TargetsApart (x :: r₀) (x :: b₀) (cut (x :: a₀) (x :: b₀) 0 cs) := by
  have hne : ∀ text : List Char, x :: text ≠ [] := List.cons_ne_nil x
  induction cs using cut_induction (hne a₀) (hne b₀) with
  | nil => trivial
  | first cs ih =>
      rw [cut_first (hne a₀)]
      refine ⟨fun v hv hsuffix => ?_, ih⟩
      rcases List.suffix_cons_iff.mp hsuffix with rfl | hsuffix
      · intro hprefix
        exact hapart _ (List.cons_prefix_cons.mp hprefix).2
      · exact not_prefix_of_suffix_of_notMem hr hv hsuffix
  | second cs hnot ih =>
      rw [cut_second (hne b₀) hnot]
      exact ih
  | other c cs hfirst hsecond ih =>
      rw [cut_other hfirst hsecond]
      refine ⟨fun hprefix => hsecond ?_, ih⟩
      -- What begins after the replacement began before it: it reaches no other mark.
      obtain ⟨rfl, hrest⟩ := List.cons_prefix_cons.mp hprefix
      have hwhole : b₀ <+: write (x :: a₀) (x :: b₀) (cut (x :: a₀) (x :: b₀) 0 cs) :=
        prefix_write_of_notMem hb hrest
      rw [write_cut (hne a₀) (hne b₀)] at hwhole
      exact List.cons_prefix_cons.mpr ⟨rfl, hwhole⟩

end Pieces

end Text
