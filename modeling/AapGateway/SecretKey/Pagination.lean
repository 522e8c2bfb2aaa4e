import Mathlib
import AapGateway.SecretKey.Columns

/-!
# The pages of a rotation

`_paginated_reencrypt` alternates between reading a page and writing its rows, and it ends with
the first page that is empty. Here the loop keeps the rows that it has passed to the re-encryption
step, and it has no result while it has not come to its end.

## Main definitions

* `Command.paginatedRun`: the loop with the rows that it has passed on.

## Main results

* `paginatedRun_exactly_once`: the loop ends, and it has passed on every row of the column once.
-/

namespace AapGateway.SecretKey

variable {κ : Type} [LinearOrder κ]

/-- `_paginated_reencrypt` with the rows that it passes to `_reencrypt_rows`. It is `none` when
the loop has not ended after this many pages. -/
def Command.paginatedRun (cmd : Command κ) (col : Column) (fuel : ℕ) (s : State κ) :
    Option (List (κ × Cell) × State κ) :=
  Paging.run (fun s after => Keyset.fetchNext Prod.fst cmd.batchSize (s.db.rows col) after)
    (cmd.reencryptRow col) fuel none s

section Specs

variable {cmd : Command κ}

/-- With one page more than there are rows the loop comes to its end. -/
theorem paginatedRun_eq_some (s : State κ) (col : Column) {fuel : ℕ}
    (hfuel : (s.db.rows col).length < fuel) :
    cmd.paginatedRun col fuel s =
      some (s.db.sortedRows col, cmd.paginatedReencrypt s col) := by
  have hall : ((s.db.rows col).filter fun row => Keyset.past none row.1) = s.db.rows col :=
    List.filter_eq_self.mpr fun _ _ => rfl
  -- The writes of a page lie before the rows that are still to be read.
  have hrun := Paging.run_eq_map _ (cmd.reencryptRow col) s
    (fun after s' => s.db.AgreesPast col after s'.db)
    (fun after s' h => h.fetchNext_eq cmd.batchSize)
    (fun after s' page next h hpage => h.foldl_page hpage) fuel none s ⟨rfl, fun _ _ => rfl⟩
  rw [Keyset.runReading_fetchNext (by rwa [hall]),
    flatten_pages_rows s.db hfuel.le, Option.map_some,
    ← paginatedReencrypt_eq_foldl] at hrun
  exact hrun

/-- The loop ends, and it has passed every row of the column to the re-encryption step once. -/
theorem paginatedRun_exactly_once (cmd : Command κ) (col : Column) (s : State κ) :
    ∃ enough, ∀ fuel, enough ≤ fuel → ∃ passed,
      cmd.paginatedRun col fuel s = some (passed, passed.foldl (cmd.reencryptRow col) s) ∧
      passed.Perm (s.db.rows col) ∧ (passed.map Prod.fst).Nodup ∧
      passed.foldl (cmd.reencryptRow col) s = cmd.paginatedReencrypt s col := by
  refine ⟨(s.db.rows col).length + 1, fun fuel hfuel => ⟨s.db.sortedRows col, ?_, ?_, ?_, ?_⟩⟩
  · rw [← paginatedReencrypt_eq_foldl]
    apply paginatedRun_eq_some
    omega
  · exact List.perm_insertionSort _ _
  · have hperm := (List.perm_insertionSort (fun row row' => row.1 ≤ row'.1) (s.db.rows col)).map
      Prod.fst
    exact hperm.nodup_iff.mpr (nodup_rows s.db col)
  · exact (paginatedReencrypt_eq_foldl s col).symm

end Specs

end AapGateway.SecretKey
