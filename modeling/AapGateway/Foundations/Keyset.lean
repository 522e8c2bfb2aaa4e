import Mathlib
import AapGateway.Foundations.Paging

/-!
# Keyset pagination

A table is read page by page in the order of a key. Each request asks for the rows whose key is
greater than the last key of the page before, and the reading ends with the first empty page.

Nothing here depends on what a row is: `key` maps the rows into a linear order, and a table is a
list of rows with distinct keys, in any order.

## Main definitions

* `fetch`: one page;
* `pages`: the pages of a whole reading;
* `fetchNext`: one page and the cursor of the next one, for a loop that works on the pages.

## Main results

* `mem_fetch_of_le_last`: a page has no gaps;
* `mem_flatten_pages`: a reading visits the rows past its start, and no others;
* `flatten_pages`: it visits each of them once, in the order of their keys;
* `runReading_fetchNext`: it comes to its end.
-/

namespace Keyset

variable {α κ : Type} [LinearOrder κ] (key : α → κ) (size : ℕ)

/-- The key lies past the cursor. Without a cursor every key does. -/
def past : Option κ → κ → Bool
  | none, _ => true
  | some c, k => c < k

/-- A page: the first rows past the cursor, in the order of their keys. -/
def fetch (rows : List α) (after : Option κ) : List α :=
  ((rows.filter fun a => past after (key a)).insertionSort fun a b => key a ≤ key b).take size

/-- The pages read from a cursor on, at most `fuel` of them. -/
def pages (rows : List α) : ℕ → Option κ → List (List α)
  | 0, _ => []
  | fuel + 1, after =>
    match (fetch key size rows after).getLast? with
    | none => []
    | some last => fetch key size rows after :: pages rows fuel (some (key last))

/-- A page, and the cursor of the next one unless the page is empty. -/
def fetchNext (rows : List α) (after : Option κ) : List α × Option (Option κ) :=
  (fetch key size rows after, (fetch key size rows after).getLast?.map fun last => some (key last))

section Fetch

variable {key size} {rows : List α} {after : Option κ} {a last : α}

/-- The keys past a later cursor are past an earlier one. -/
theorem past_trans {c k : κ} (hc : past after c = true) (hk : c < k) : past after k = true := by
  cases after with
  | none => rfl
  | some b =>
      have hbc : b < c := by simpa [past] using hc
      simpa [past] using hbc.trans hk

/-- The rows past the cursor in the order of their keys. -/
theorem pairwise_fetch :
    (fetch key size rows after).Pairwise fun a b => key a ≤ key b := by
  have htotal : Std.Total fun a b : α => key a ≤ key b := ⟨fun a b => le_total (key a) (key b)⟩
  have htrans : IsTrans α fun a b => key a ≤ key b := ⟨fun _ _ _ => le_trans⟩
  exact (List.pairwise_insertionSort _ _).sublist (List.take_sublist _ _)

/-- A page consists of rows of the table past the cursor. -/
theorem mem_of_mem_fetch (h : a ∈ fetch key size rows after) :
    a ∈ rows ∧ past after (key a) = true := by
  have hsorted := List.mem_of_mem_take h
  rw [List.mem_insertionSort] at hsorted
  simpa using hsorted

/-- The last row of a page has its greatest key. -/
theorem key_le_last (hlast : (fetch key size rows after).getLast? = some last)
    (ha : a ∈ fetch key size rows after) : key a ≤ key last := by
  obtain ⟨front, hpage⟩ := List.getLast?_eq_some_iff.mp hlast
  have hsorted : (front ++ [last]).Pairwise fun a b => key a ≤ key b := hpage ▸ pairwise_fetch
  rw [hpage, List.mem_append, List.mem_singleton] at ha
  rcases ha with ha | rfl
  · exact (List.pairwise_append.mp hsorted).2.2 a ha last (List.mem_singleton_self last)
  · exact le_rfl

/-- The last row of a page is past the cursor. -/
theorem past_last (hlast : (fetch key size rows after).getLast? = some last) :
    past after (key last) = true :=
  (mem_of_mem_fetch (List.mem_of_getLast? hlast)).2

/-- With distinct keys the rows of a page are in strict order. -/
theorem pairwise_lt_fetch (hnodup : (rows.map key).Nodup) :
    (fetch key size rows after).Pairwise fun a b => key a < key b := by
  have hpage : ((fetch key size rows after).map key).Nodup := by
    have hfilter : ((rows.filter fun a => past after (key a)).map key).Nodup :=
      hnodup.sublist (List.filter_sublist.map key)
    have hsorted := ((List.perm_insertionSort (fun a b => key a ≤ key b) _).map key).nodup_iff.mpr
      hfilter
    exact hsorted.sublist ((List.take_sublist _ _).map key)
  have hne : (fetch key size rows after).Pairwise fun a b => key a ≠ key b :=
    List.pairwise_map.mp hpage
  exact (pairwise_fetch.and hne).imp fun h => lt_of_le_of_ne h.1 h.2

/-- The rows past the last row of a page are the rows past the cursor that come later. -/
theorem past_iff (hlast : (fetch key size rows after).getLast? = some last) (a : α) :
    past (some (key last)) (key a) = true ↔ past after (key a) = true ∧ ¬ key a ≤ key last := by
  rw [past, decide_eq_true_eq, not_le]
  exact ⟨fun h => ⟨past_trans (past_last hlast) h, h⟩, fun h => h.2⟩

/-- A page has no gaps: a row past the cursor with a key up to the last one is on it. -/
theorem mem_fetch_of_le_last (hnodup : (rows.map key).Nodup)
    (hlast : (fetch key size rows after).getLast? = some last) (ha : a ∈ rows)
    (hpast : past after (key a) = true) (hle : key a ≤ key last) :
    a ∈ fetch key size rows after := by
  have hlastmem : last ∈ fetch key size rows after := List.mem_of_getLast? hlast
  set sorted := (rows.filter fun a => past after (key a)).insertionSort fun a b => key a ≤ key b
    with hsorted
  have hmem : a ∈ sorted.take size ++ sorted.drop size := by
    rw [List.take_append_drop, hsorted, List.mem_insertionSort]
    simpa using ⟨ha, hpast⟩
  rcases List.mem_append.mp hmem with hpage | hrest
  · exact hpage
  · -- The row would come after the page, so its key would be the last one again.
    have htotal : Std.Total fun a b : α => key a ≤ key b := ⟨fun a b => le_total (key a) (key b)⟩
    have htrans : IsTrans α fun a b => key a ≤ key b := ⟨fun _ _ _ => le_trans⟩
    have hpair : (sorted.take size ++ sorted.drop size).Pairwise fun a b => key a ≤ key b := by
      rw [List.take_append_drop]
      exact List.pairwise_insertionSort _ _
    have hge : key last ≤ key a := (List.pairwise_append.mp hpair).2.2 last hlastmem a hrest
    have heq : a = last :=
      List.inj_on_of_nodup_map hnodup ha (mem_of_mem_fetch hlastmem).1 (le_antisymm hle hge)
    exact heq ▸ hlastmem

/-- A page is empty only when there is nothing past the cursor. -/
theorem not_past_of_fetch_eq_nil (hsize : 0 < size)
    (hnil : (fetch key size rows after).getLast? = none) (ha : a ∈ rows) :
    ¬ past after (key a) = true := by
  intro hpast
  rw [List.getLast?_eq_none_iff, fetch, List.take_eq_nil_iff] at hnil
  rcases hnil with hzero | hempty
  · omega
  · have hmem : a ∈ (rows.filter fun a => past after (key a)).insertionSort
        fun a b => key a ≤ key b := by
      rw [List.mem_insertionSort]
      simpa using ⟨ha, hpast⟩
    rw [hempty] at hmem
    exact List.not_mem_nil hmem

/-- The rows past the last row of a page, as the later ones among the rows past the cursor. -/
theorem filter_past_last (hlast : (fetch key size rows after).getLast? = some last) :
    (rows.filter fun a => past (some (key last)) (key a)) =
      (rows.filter fun a => past after (key a)).filter fun a => ¬ key a ≤ key last := by
  rw [List.filter_filter]
  refine List.filter_congr fun a _ => ?_
  rw [Bool.eq_iff_iff, past_iff hlast a]
  simp [and_comm]

/-- Fewer rows lie past the last row of a page than past the cursor. -/
theorem length_past_last_lt (hlast : (fetch key size rows after).getLast? = some last) :
    (rows.filter fun a => past (some (key last)) (key a)).length <
      (rows.filter fun a => past after (key a)).length := by
  rw [filter_past_last hlast, List.length_filter_lt_length_iff_exists]
  refine ⟨last, ?_, by simp⟩
  simpa using mem_of_mem_fetch (List.mem_of_getLast? hlast)

end Fetch

section Pages

variable {key size} {rows : List α} {after : Option κ} {a : α} {fuel : ℕ}

/-- A reading visits rows of the table past its start only. -/
theorem mem_of_mem_pages {page : List α} (hpage : page ∈ pages key size rows fuel after)
    (ha : a ∈ page) : a ∈ rows ∧ past after (key a) = true := by
  induction fuel generalizing after with
  | zero => simp [pages] at hpage
  | succ fuel ih =>
      cases hlast : (fetch key size rows after).getLast? with
      | none => simp [pages, hlast] at hpage
      | some last =>
          rw [pages, hlast, List.mem_cons] at hpage
          rcases hpage with rfl | hpage
          · exact mem_of_mem_fetch ha
          · obtain ⟨hrows, hpast⟩ := ih hpage
            exact ⟨hrows, ((past_iff hlast a).mp hpast).1⟩

/-- A reading visits the rows past its start, and no others. -/
theorem mem_flatten_pages (hsize : 0 < size) (hnodup : (rows.map key).Nodup)
    (hfuel : (rows.filter fun a => past after (key a)).length ≤ fuel) :
    a ∈ (pages key size rows fuel after).flatten ↔ a ∈ rows ∧ past after (key a) = true := by
  constructor
  · intro h
    obtain ⟨page, hpage, ha⟩ := List.mem_flatten.mp h
    exact mem_of_mem_pages hpage ha
  · rintro ⟨ha, hpast⟩
    induction fuel generalizing after with
    | zero =>
        have hmem : a ∈ rows.filter fun a => past after (key a) := by simpa using ⟨ha, hpast⟩
        have hpos := List.length_pos_of_mem hmem
        omega
    | succ fuel ih =>
        cases hlast : (fetch key size rows after).getLast? with
        | none => exact absurd hpast (not_past_of_fetch_eq_nil hsize hlast ha)
        | some last =>
            rw [pages, hlast, List.flatten_cons, List.mem_append]
            by_cases hle : key a ≤ key last
            · exact Or.inl (mem_fetch_of_le_last hnodup hlast ha hpast hle)
            · refine Or.inr (ih ?_ ((past_iff hlast a).mpr ⟨hpast, hle⟩))
              have hlt := length_past_last_lt hlast
              omega

/-- A reading visits its rows in the order of their keys, and no key twice. -/
theorem pairwise_flatten_pages (hnodup : (rows.map key).Nodup) :
    (pages key size rows fuel after).flatten.Pairwise fun a b => key a < key b := by
  induction fuel generalizing after with
  | zero => exact List.Pairwise.nil
  | succ fuel ih =>
      cases hlast : (fetch key size rows after).getLast? with
      | none => simp [pages, hlast]
      | some last =>
          simp only [pages, hlast, List.flatten_cons]
          refine List.pairwise_append.mpr ⟨pairwise_lt_fetch hnodup, ih, fun a ha b hb => ?_⟩
          -- The first page ends with its greatest key, and the others are past it.
          obtain ⟨page, hpage, hb⟩ := List.mem_flatten.mp hb
          have hpast : past (some (key last)) (key b) = true := (mem_of_mem_pages hpage hb).2
          exact (key_le_last hlast ha).trans_lt (by simpa [past] using hpast)

/-- A reading visits each of the rows past its start once. -/
theorem perm_flatten_pages (hsize : 0 < size) (hnodup : (rows.map key).Nodup)
    (hfuel : (rows.filter fun a => past after (key a)).length ≤ fuel) :
    (pages key size rows fuel after).flatten.Perm
      (rows.filter fun a => past after (key a)) := by
  apply (List.perm_ext_iff_of_nodup _ _).mpr
  · intro a
    simp [mem_flatten_pages hsize hnodup hfuel]
  · exact (pairwise_flatten_pages hnodup).imp fun hlt heq => hlt.ne (congrArg key heq)
  · exact (List.Nodup.of_map key hnodup).filter _

/-- A reading visits the rows past its start in the order of their keys. -/
theorem flatten_pages (hsize : 0 < size) (hnodup : (rows.map key).Nodup)
    (hfuel : (rows.filter fun a => past after (key a)).length ≤ fuel) :
    (pages key size rows fuel after).flatten =
      (rows.filter fun a => past after (key a)).insertionSort fun a b => key a ≤ key b := by
  have htotal : Std.Total fun a b : α => key a ≤ key b := ⟨fun a b => le_total (key a) (key b)⟩
  have htrans : IsTrans α fun a b => key a ≤ key b := ⟨fun _ _ _ => le_trans⟩
  have hperm := perm_flatten_pages hsize hnodup hfuel
  refine (hperm.trans (List.perm_insertionSort _ _).symm).eq_of_pairwise ?_
    ((pairwise_flatten_pages hnodup).imp le_of_lt) (List.pairwise_insertionSort _ _)
  -- Rows with the same key are the same row.
  intro a b ha hb hle hge
  have hrow := (List.mem_filter.mp (hperm.mem_iff.mp ha)).1
  rw [List.mem_insertionSort] at hb
  exact List.inj_on_of_nodup_map hnodup hrow (List.mem_filter.mp hb).1 (le_antisymm hle hge)

/-- A reading comes to its end with one page more than there are rows past its start. -/
theorem runReading_fetchNext
    (hfuel : (rows.filter fun a => past after (key a)).length < fuel) :
    Paging.runReading (fetchNext key size rows) fuel after =
      some (pages key size rows fuel after).flatten := by
  induction fuel generalizing after with
  | zero => omega
  | succ fuel ih =>
      cases hlast : (fetch key size rows after).getLast? with
      | none =>
          have hnil : fetch key size rows after = [] := List.getLast?_eq_none_iff.mp hlast
          simp [Paging.runReading, fetchNext, pages, hnil]
      | some last =>
          have hlt := length_past_last_lt hlast
          have hfewer : (rows.filter fun a => past (some (key last)) (key a)).length < fuel := by
            omega
          simp only [Paging.runReading, fetchNext, pages, hlast, Option.map_some,
            List.flatten_cons]
          rw [ih hfewer, Option.map_some]

/-- What a loop reads are the pages one after the other. -/
theorem reading_fetchNext (fuel : ℕ) (after : Option κ) :
    Paging.reading (fetchNext key size rows) fuel after =
      (pages key size rows fuel after).flatten := by
  induction fuel generalizing after with
  | zero => rfl
  | succ fuel ih =>
      cases hlast : (fetch key size rows after).getLast? with
      | none =>
          have hnil : fetch key size rows after = [] := List.getLast?_eq_none_iff.mp hlast
          simp [Paging.reading, fetchNext, pages, hnil]
      | some last =>
          simp only [Paging.reading, fetchNext, pages, hlast, Option.map_some, List.flatten_cons]
          rw [← ih]

/-- Tables with the same rows past the cursor have the same pages from there on. -/
theorem fetchNext_congr {rows' : List α}
    (h : (rows'.filter fun a => past after (key a)) = rows.filter fun a => past after (key a)) :
    fetchNext key size rows' after = fetchNext key size rows after := by
  simp only [fetchNext, fetch, h]

/-- The keys of a page come up to the cursor of the next one. -/
theorem exists_of_fetchNext {page : List α} {next : Option κ}
    (h : fetchNext key size rows after = (page, some next)) :
    ∃ c, next = some c ∧ past after c = true ∧ ∀ a ∈ page, key a ≤ c := by
  simp only [fetchNext, Prod.mk.injEq, Option.map_eq_some_iff] at h
  obtain ⟨rfl, last, hlast, rfl⟩ := h
  exact ⟨key last, rfl, past_last hlast, fun a ha => key_le_last hlast ha⟩

end Pages

end Keyset
