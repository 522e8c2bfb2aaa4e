import Mathlib
import AapGateway.Foundations.Text

/-!
# Separated lists

A text that is read as a list of pieces between separators. The pieces are trimmed, and empty ones
do not count. Writing the distinct pieces one after the other gives a text with the same pieces.

## Main results

* `pieces_normalize`: the pieces of a normalised text are the first occurrences of the pieces;
* `normalize_normalize`: a normalised text is normal;
* `pairwise_idxOf_eraseDups`: what is left of a list without its repetitions is in the order of the
  first occurrences.
-/

namespace Separated

/-- The trimmed pieces that are not empty. -/
def pieces (sep : Char) (s : String) : List String :=
  ((Text.split sep s).map Text.strip).filter (· ≠ "")

/-- The distinct pieces, joined again. -/
def normalize (sep : Char) (s : String) : String :=
  Text.join sep (pieces sep s).eraseDups

section Lists

variable {α : Type} [DecidableEq α]

/-- Taking elements out keeps the order of the others. -/
theorem idxOf_lt_of_filter {p : α → Bool} {x y : α} (hx : p x = true) (hy : p y = true)
    {l : List α} (h : (l.filter p).idxOf x < (l.filter p).idxOf y) : l.idxOf x < l.idxOf y := by
  induction l with
  | nil => exact absurd h (lt_irrefl _)
  | cons a l ih =>
      by_cases hp : p a = true
      · rw [List.filter_cons_of_pos hp] at h
        by_cases hax : a = x
        · subst hax
          by_cases hay : a = y
          · subst hay
            exact absurd h (lt_irrefl _)
          · rw [List.idxOf_cons_self, List.idxOf_cons_ne _ hay]
            exact Nat.succ_pos _
        · by_cases hay : a = y
          · subst hay
            rw [List.idxOf_cons_self] at h
            exact absurd h (Nat.not_lt_zero _)
          · rw [List.idxOf_cons_ne _ hax, List.idxOf_cons_ne _ hay] at h ⊢
            exact Nat.succ_lt_succ (ih (Nat.lt_of_succ_lt_succ h))
      · have hax : a ≠ x := fun heq => hp (heq ▸ hx)
        have hay : a ≠ y := fun heq => hp (heq ▸ hy)
        rw [List.filter_cons_of_neg hp] at h
        rw [List.idxOf_cons_ne _ hax, List.idxOf_cons_ne _ hay]
        exact Nat.succ_lt_succ (ih h)

/-- What is left without repetitions is in the order of the first occurrences. -/
theorem pairwise_idxOf_eraseDups (l : List α) :
    l.eraseDups.Pairwise fun x y => l.idxOf x < l.idxOf y := by
  induction hn : l.length using Nat.strong_induction_on generalizing l with
  | h n ih =>
      cases l with
      | nil => exact List.Pairwise.nil
      | cons a l =>
          have hrest : ∀ {y}, y ∈ (l.filter fun b => !b == a).eraseDups → y ≠ a := by
            intro y hy
            simpa using (List.mem_filter.mp (List.mem_eraseDups.mp hy)).2
          rw [List.eraseDups_cons]
          refine List.pairwise_cons.mpr ⟨?_, ?_⟩
          · intro y hy
            rw [List.idxOf_cons_self, List.idxOf_cons_ne _ (hrest hy).symm]
            exact Nat.succ_pos _
          · have hlength : (l.filter fun b => !b == a).length < n := by
              rw [← hn, List.length_cons]
              exact Nat.lt_succ_of_le (List.length_filter_le _ _)
            refine (ih _ hlength _ rfl).imp_of_mem fun {x y} hx hy hlt => ?_
            rw [List.idxOf_cons_ne _ (hrest hx).symm, List.idxOf_cons_ne _ (hrest hy).symm]
            refine Nat.succ_lt_succ (idxOf_lt_of_filter ?_ ?_ hlt)
            · simpa using hrest hx
            · simpa using hrest hy

/-- What is left without repetitions has none. -/
theorem nodup_eraseDups (l : List α) : l.eraseDups.Nodup := by
  refine (pairwise_idxOf_eraseDups l).imp fun {x y} hlt heq => ?_
  rw [heq] at hlt
  exact lt_irrefl _ hlt

/-- A list without repetitions stays as it is. -/
theorem eraseDups_of_nodup {l : List α} (h : l.Nodup) : l.eraseDups = l := by
  induction l with
  | nil => rfl
  | cons a l ih =>
      obtain ⟨ha, hl⟩ := List.nodup_cons.mp h
      have hself : (l.filter fun b => !b == a) = l := by
        refine List.filter_eq_self.mpr fun b hb => ?_
        have hne : b ≠ a := fun heq => ha (heq ▸ hb)
        simpa using hne
      rw [List.eraseDups_cons, hself, ih hl]

end Lists

section Texts

variable {sep : Char} {s : String}

/-- A trimmed text is trimmed. -/
theorem strip_strip (s : String) : Text.strip (Text.strip s) = Text.strip s := by
  unfold Text.strip
  rw [String.toList_ofList]
  congr 1
  -- Trimming at the end leaves the beginning trimmed.
  have hhead : ((s.toList.dropWhile Text.isSpace).rdropWhile Text.isSpace).dropWhile Text.isSpace =
      (s.toList.dropWhile Text.isSpace).rdropWhile Text.isSpace := by
    generalize hl : s.toList.dropWhile Text.isSpace = l
    have hfirst : l.dropWhile Text.isSpace = l := by rw [← hl, List.dropWhile_idempotent]
    cases l with
    | nil => rfl
    | cons c l =>
        have hc : Text.isSpace c = false := by
          by_contra hspace
          rw [List.dropWhile_cons_of_pos (by simpa using hspace)] at hfirst
          have hlength := (List.dropWhile_suffix (l := l) Text.isSpace).length_le
          rw [hfirst, List.length_cons] at hlength
          omega
        have hne : (c :: l).rdropWhile Text.isSpace ≠ [] := by
          rw [Ne, List.rdropWhile_eq_nil_iff]
          intro hall
          rw [hall c List.mem_cons_self] at hc
          cases hc
        obtain ⟨d, rest, hrest⟩ := List.exists_cons_of_ne_nil hne
        have hpre := List.rdropWhile_prefix Text.isSpace (l := c :: l)
        rw [hrest] at hpre ⊢
        obtain rfl : d = c := (List.cons_prefix_cons.mp hpre).1
        exact List.dropWhile_cons_of_neg (by simp [hc])
  rw [hhead, List.rdropWhile_idempotent]

/-- Separator-free pieces are read back. -/
theorem split_join {l : List String} (hl : ∀ p ∈ l, sep ∉ p.toList) (hne : l ≠ []) :
    Text.split sep (Text.join sep l) = l := by
  unfold Text.split Text.join
  rw [String.toList_ofList, List.splitOn_intercalate sep ?_ (by simpa using hne), List.map_map]
  · simp [Function.comp_def]
  · intro cs hcs
    obtain ⟨p, hp, rfl⟩ := List.mem_map.mp hcs
    exact hl p hp

/-- A piece is not empty, has no separator and is trimmed. -/
theorem of_mem_pieces {p : String} (h : p ∈ pieces sep s) :
    p ≠ "" ∧ sep ∉ p.toList ∧ Text.strip p = p := by
  obtain ⟨hp, hne⟩ := List.mem_filter.mp h
  obtain ⟨piece, hpiece, rfl⟩ := List.mem_map.mp hp
  refine ⟨of_decide_eq_true hne, fun hsep => ?_, strip_strip piece⟩
  exact Text.not_mem_of_mem_split hpiece (Text.mem_of_mem_strip hsep)

/-- Normal pieces are the pieces of their join. -/
theorem pieces_join {l : List String} (hl : ∀ p ∈ l, p ≠ "" ∧ sep ∉ p.toList ∧ Text.strip p = p) :
    pieces sep (Text.join sep l) = l := by
  cases l with
  | nil => simp [pieces, Text.join, Text.split, Text.strip]
  | cons p l =>
      unfold pieces
      rw [split_join (fun q hq => (hl q hq).2.1) (List.cons_ne_nil p l)]
      have htrimmed : (p :: l).map Text.strip = p :: l := by
        conv_rhs => rw [← List.map_id (p :: l)]
        exact List.map_congr_left fun q hq => (hl q hq).2.2
      rw [htrimmed, List.filter_eq_self]
      exact fun q hq => decide_eq_true (hl q hq).1

/-- The pieces of a normalised text are the first occurrences of the pieces. -/
theorem pieces_normalize (sep : Char) (s : String) :
    pieces sep (normalize sep s) = (pieces sep s).eraseDups :=
  pieces_join fun _ hp => of_mem_pieces (List.mem_eraseDups.mp hp)

/-- A normalised text is normal. -/
theorem normalize_normalize (sep : Char) (s : String) :
    normalize sep (normalize sep s) = normalize sep s := by
  unfold normalize
  rw [show pieces sep (Text.join sep (pieces sep s).eraseDups) = (pieces sep s).eraseDups from
    pieces_normalize sep s, eraseDups_of_nodup (nodup_eraseDups _)]

/-- A normalised text is empty exactly when there are no pieces. -/
theorem normalize_eq_empty_iff : normalize sep s = "" ↔ pieces sep s = [] := by
  constructor
  · intro hempty
    have hpieces := pieces_normalize sep s
    rw [hempty, show pieces sep "" = [] by simp [pieces, Text.split, Text.strip]] at hpieces
    rw [List.eq_nil_iff_forall_not_mem]
    intro p hp
    have hmem := List.mem_eraseDups.mpr hp
    rw [← hpieces] at hmem
    cases hmem
  · intro hnil
    rw [normalize, hnil]
    rfl

end Texts

end Separated
