import Mathlib

/-!
# Paged loops

A loop that reads a collection page by page and works on each page before it asks for the next
one. The work may change the state that the later pages are read from. As long as it leaves alone
what is still to be read, the loop does the same as one pass over what the collection held at the
start.

## Main definitions

* `loop`: the loop on a state;
* `reading`: what the loop would read from a state that does not change;
* `run` and `runReading`: the same with the rows that were read, and `none` while the loop has not
  come to its end;
* `numbered`: pages by their number.

## Main results

* `loop_eq_foldl`: the loop is one pass over the reading;
* `run_eq_map`: so is the loop that comes to its end;
* `reading_numbered`: the reading of numbered pages is the whole collection.
-/

namespace Paging

variable {σ κ α : Type}

/-- Read a page and the position of the next one, work on the page, and go on from there. -/
def loop (fetch : σ → κ → List α × Option κ) (work : σ → α → σ) : ℕ → κ → σ → σ
  | 0, _, s => s
  | fuel + 1, c, s =>
    match fetch s c with
    | (page, none) => page.foldl work s
    | (page, some c') => loop fetch work fuel c' (page.foldl work s)

/-- Everything that is read from a position on. -/
def reading (fetch : κ → List α × Option κ) : ℕ → κ → List α
  | 0, _ => []
  | fuel + 1, c =>
    match fetch c with
    | (page, none) => page
    | (page, some c') => page ++ reading fetch fuel c'

/-- The loop is one pass over the reading, if the work on a page leaves the state in agreement
with the one at the start from the next position on. -/
theorem loop_eq_foldl (fetch : σ → κ → List α × Option κ) (work : σ → α → σ) (s₀ : σ)
    (Agree : κ → σ → Prop) (hfetch : ∀ c s, Agree c s → fetch s c = fetch s₀ c)
    (hwork : ∀ c s page c', Agree c s → fetch s₀ c = (page, some c') →
      Agree c' (page.foldl work s))
    (fuel : ℕ) (c : κ) (s : σ) (h : Agree c s) :
    loop fetch work fuel c s = (reading (fetch s₀) fuel c).foldl work s := by
  induction fuel generalizing c s with
  | zero => rfl
  | succ fuel ih =>
      rw [loop, reading, hfetch c s h]
      rcases hpage : fetch s₀ c with ⟨page, _ | c'⟩
      · rfl
      · rw [List.foldl_append]
        exact ih c' _ (hwork c s page c' h hpage)

section Run

/-- The loop with everything that it read. It is `none` when the pages did not end in time. -/
def run (fetch : σ → κ → List α × Option κ) (work : σ → α → σ) : ℕ → κ → σ → Option (List α × σ)
  | 0, _, _ => none
  | fuel + 1, c, s =>
    match fetch s c with
    | (page, none) => some (page, page.foldl work s)
    | (page, some c') =>
      (run fetch work fuel c' (page.foldl work s)).map fun (items, s') => (page ++ items, s')

/-- Everything that is read from a position on, or `none` when the pages did not end in time. -/
def runReading (fetch : κ → List α × Option κ) : ℕ → κ → Option (List α)
  | 0, _ => none
  | fuel + 1, c =>
    match fetch c with
    | (page, none) => some page
    | (page, some c') => (runReading fetch fuel c').map fun items => page ++ items

/-- The loop comes to its end when the reading does, and is one pass over it. -/
theorem run_eq_map (fetch : σ → κ → List α × Option κ) (work : σ → α → σ) (s₀ : σ)
    (Agree : κ → σ → Prop) (hfetch : ∀ c s, Agree c s → fetch s c = fetch s₀ c)
    (hwork : ∀ c s page c', Agree c s → fetch s₀ c = (page, some c') →
      Agree c' (page.foldl work s))
    (fuel : ℕ) (c : κ) (s : σ) (h : Agree c s) :
    run fetch work fuel c s =
      (runReading (fetch s₀) fuel c).map fun items => (items, items.foldl work s) := by
  induction fuel generalizing c s with
  | zero => rfl
  | succ fuel ih =>
      rw [run, runReading, hfetch c s h]
      rcases hpage : fetch s₀ c with ⟨page, _ | c'⟩
      · rfl
      · have hrest := ih c' _ (hwork c s page c' h hpage)
        simp only [hrest, Option.map_map]
        congr 1
        funext items
        simp [List.foldl_append]

end Run

section Numbered

/-- The page with the number, counted from zero, and the number of the next page. -/
def numbered (size : ℕ) (rows : List α) (n : ℕ) : List α × Option ℕ :=
  ((rows.drop (n * size)).take size, if (n + 1) * size < rows.length then some (n + 1) else none)

/-- The numbered pages together are the whole collection. -/
theorem reading_numbered {size : ℕ} {rows : List α} (fuel n : ℕ)
    (hfuel : rows.length ≤ (n + fuel) * size) :
    reading (numbered size rows) fuel n = rows.drop (n * size) := by
  induction fuel generalizing n with
  | zero =>
      rw [reading, List.drop_eq_nil_of_le (by simpa using hfuel)]
  | succ fuel ih =>
      rw [reading, numbered]
      split_ifs with hnext
      · have hrest := ih (n + 1) (by rwa [show n + 1 + fuel = n + (fuel + 1) by omega])
        simp only [hrest]
        rw [show (n + 1) * size = n * size + size by ring, ← List.drop_drop,
          List.take_append_drop]
      · have hlength : (rows.drop (n * size)).length ≤ size := by
          rw [List.length_drop]
          have heq : (n + 1) * size = n * size + size := by ring
          omega
        exact List.take_of_length_le hlength

/-- As many pages as there are rows are enough. -/
theorem reading_numbered_zero {size : ℕ} (hsize : 0 < size) (rows : List α) {fuel : ℕ}
    (hfuel : rows.length ≤ fuel) : reading (numbered size rows) fuel 0 = rows := by
  have hle : rows.length ≤ (0 + fuel) * size := by
    calc rows.length ≤ fuel := hfuel
      _ = (0 + fuel) * 1 := by ring
      _ ≤ (0 + fuel) * size := Nat.mul_le_mul_left _ hsize
  simpa using reading_numbered fuel 0 hle

/-- A page that is not the last one comes before the position of the next one. -/
theorem numbered_eq_some {size : ℕ} {rows page : List α} {n n' : ℕ}
    (h : numbered size rows n = (page, some n')) :
    n' = n + 1 ∧ ∀ a ∈ page, a ∈ rows.take (n' * size) := by
  simp only [numbered, Prod.mk.injEq, Option.ite_none_right_eq_some, Option.some.injEq] at h
  obtain ⟨rfl, -, rfl⟩ := h
  refine ⟨rfl, fun a ha => ?_⟩
  rw [List.take_drop, show n * size + size = (n + 1) * size by ring] at ha
  exact List.mem_of_mem_drop ha

/-- A collection that agrees from a page on has the same pages from there on. -/
theorem numbered_congr {size : ℕ} {rows rows' : List α} {n : ℕ}
    (hlength : rows'.length = rows.length)
    (hdrop : rows'.drop (n * size) = rows.drop (n * size)) :
    numbered size rows' n = numbered size rows n := by
  rw [numbered, numbered, hlength, hdrop]

end Numbered

end Paging
