import Mathlib
import AapGateway.SecretKey.Rotation

/-!
# The rotation of a column

A column is rotated page by page, and the rows of a page are written before the next page is read.
The writes of a page lie before its cursor, so the pages that are still to be read are those of
the column at the start, and each of its rows is rewritten once.

## Main definitions

* `Command.verdict`: what becomes of a cell;
* `Command.rewrite`: the cell after the rotation of its column.

## Main results

* `cell_paginatedReencrypt`: the cells after the rotation of a column;
* `cell_foldl_columns`: the cells after the rotation of several columns;
* `exists_of_mem_skipped_columns`: a skipped cell is one that there is something to do about.
-/

namespace AapGateway.SecretKey

section Rewrite

variable {κ : Type} {cmd : Command κ}

/-- What becomes of a cell. -/
def Command.verdict (cmd : Command κ) (col : Column) (pk : κ) (cell : Cell) : Verdict :=
  cmd.reencryptValue (.column col.table col.column pk) (cmd.textOfCell cell)

end Rewrite

section Rows

variable {κ : Type} {col : Column}

/-- The rows of a column have distinct keys. -/
theorem nodup_rows (db : Db κ) (col : Column) : ((db.rows col).map Prod.fst).Nodup := by
  have hsub : ∀ pks : List κ, ((pks.filterMap fun pk =>
      (db.cell col.table col.column pk).map fun cell => (pk, cell)).map Prod.fst).Sublist pks := by
    intro pks
    induction pks with
    | nil => exact List.Sublist.refl _
    | cons pk pks ih =>
        cases hcell : db.cell col.table col.column pk with
        | none => simpa [hcell] using ih.cons pk
        | some cell => simpa [hcell] using ih
  exact (db.nodup_pks col.table).sublist (hsub _)

/-- The rows past a cursor depend on the cells past the cursor only. -/
theorem filter_rows_congr [LinearOrder κ] {db db' : Db κ} {after : Option κ}
    (hpks : db'.pks = db.pks)
    (hcell : ∀ pk, Keyset.past after pk = true →
      db'.cell col.table col.column pk = db.cell col.table col.column pk) :
    ((db'.rows col).filter fun row => Keyset.past after row.1) =
      (db.rows col).filter fun row => Keyset.past after row.1 := by
  rw [Db.rows, Db.rows, List.filter_filterMap, List.filter_filterMap, hpks]
  refine List.filterMap_congr fun pk _ => ?_
  by_cases hpast : Keyset.past after pk = true
  · rw [hcell pk hpast]
  · have hnone : ∀ cell : Option Cell, (cell.map fun cell => (pk, cell)).filter
        (fun row => Keyset.past after row.1) = none := by
      rintro (_ | cell)
      · rfl
      · simp [Option.filter, hpast]
    rw [hnone, hnone]

/-- The two databases differ in their cells only. -/
structure Db.SameButCells (db db' : Db κ) : Prop where
  pks : db'.pks = db.pks
  authenticators : db'.authenticators = db.authenticators
  authenticatorType : db'.authenticatorType = db.authenticatorType
  configuration : db'.configuration = db.configuration

/-- Differences in the cells add up to differences in the cells. -/
theorem Db.SameButCells.trans {db db' db'' : Db κ} (h : db.SameButCells db')
    (h' : db'.SameButCells db'') : db.SameButCells db'' :=
  ⟨h'.pks.trans h.pks, h'.authenticators.trans h.authenticators,
    h'.authenticatorType.trans h.authenticatorType, h'.configuration.trans h.configuration⟩

end Rows

section Cells

variable {κ : Type} [LinearOrder κ] {cmd : Command κ} {col : Column} {s : State κ}

/-- What the rotation of a row is: it raises, or goes by the verdict. -/
theorem reencryptRow_eq (cmd : Command κ) (col : Column) (s : State κ) (row : κ × Cell) :
    (∃ failure, cmd.verdict col row.1 row.2 = .untouched ∧
      cmd.reencryptRow col s row = s.raise failure) ∨
    cmd.reencryptRow col s row =
      match cmd.verdict col row.1 row.2 with
      | .untouched => s
      | .skipped => { s with skipped := s.skipped ++ [.column col.table col.column row.1] }
      | .reencrypted new =>
        if cmd.dryRun then { s with total := s.total + 1 }
        else { s with db := s.db.update col row.1 (col.written new), total := s.total + 1 } := by
  unfold Command.reencryptRow Command.verdict Setting.textOfCell
  cases cmd.normalised row.2 with
  | error failure => exact Or.inl ⟨failure, rfl, rfl⟩
  | ok normalised =>
      right
      dsimp only
      cases cmd.reencryptValue (.column col.table col.column row.1) normalised with
      | untouched => rfl
      | skipped => rfl
      | reencrypted new => simp only [write_eq]

/-- The rotation of a row changes at most its own cell. -/
theorem reencryptRow_db (hdry : cmd.dryRun = false) (col : Column) (s : State κ)
    (row : κ × Cell) :
    ((∀ new, cmd.verdict col row.1 row.2 ≠ .reencrypted new) ∧
      (cmd.reencryptRow col s row).db = s.db) ∨
    ∃ new, cmd.verdict col row.1 row.2 = .reencrypted new ∧
      (cmd.reencryptRow col s row).db = s.db.update col row.1 (col.written new) := by
  rcases reencryptRow_eq cmd col s row with ⟨failure, hverdict, hrow⟩ | hrow
  · exact Or.inl ⟨by simp [hverdict], by rw [hrow]; rfl⟩
  · rw [hrow]
    cases hverdict : cmd.verdict col row.1 row.2 with
    | untouched => exact Or.inl ⟨by simp, rfl⟩
    | skipped => exact Or.inl ⟨by simp, rfl⟩
    | reencrypted new => exact Or.inr ⟨new, rfl, by simp [hdry]⟩

/-- The rotation of a row writes its own cell or nothing. -/
theorem reencryptRow_db_cases (cmd : Command κ) (col : Column) (s : State κ) (row : κ × Cell) :
    (cmd.reencryptRow col s row).db = s.db ∨
      ∃ cell, (cmd.reencryptRow col s row).db = s.db.update col row.1 cell := by
  cases hdry : cmd.dryRun with
  | true =>
      -- A dry run counts the values and writes none.
      apply Or.inl
      rcases reencryptRow_eq cmd col s row with ⟨failure, -, hrow⟩ | hrow
      · rw [hrow]
        rfl
      · rw [hrow]
        simp only [hdry, if_true]
        split <;> rfl
  | false =>
      rcases reencryptRow_db hdry col s row with ⟨-, h⟩ | ⟨new, -, h⟩
      · exact Or.inl h
      · exact Or.inr ⟨_, h⟩

/-- The rotation of a row leaves all but the cells alone. -/
theorem sameButCells_reencryptRow (col : Column) (s : State κ) (row : κ × Cell) :
    s.db.SameButCells (cmd.reencryptRow col s row).db := by
  rcases reencryptRow_db_cases cmd col s row with h | ⟨new, h⟩ <;> rw [h] <;>
    exact ⟨rfl, rfl, rfl, rfl⟩

/-- The rotation of rows leaves all but the cells alone. -/
theorem sameButCells_foldl (rows : List (κ × Cell)) :
    s.db.SameButCells (rows.foldl (cmd.reencryptRow col) s).db := by
  induction rows generalizing s with
  | nil => exact ⟨rfl, rfl, rfl, rfl⟩
  | cons row rows ih =>
      exact (sameButCells_reencryptRow col s row).trans ih

/-- The rotation of a row leaves the cells of other rows and columns alone. -/
theorem cell_reencryptRow_of_ne {row : κ × Cell} {table column : String} {pk : κ}
    (h : ¬ (table = col.table ∧ column = col.column ∧ pk = row.1)) :
    (cmd.reencryptRow col s row).db.cell table column pk = s.db.cell table column pk := by
  rcases reencryptRow_db_cases cmd col s row with hdb | ⟨new, hdb⟩
  · rw [hdb]
  · rw [hdb]
    exact if_neg h

/-- The rotation of rows leaves the cells of other rows and columns alone. -/
theorem cell_foldl_of_notMem {rows : List (κ × Cell)} {table column : String} {pk : κ}
    (h : ¬ (table = col.table ∧ column = col.column ∧ pk ∈ rows.map Prod.fst)) :
    (rows.foldl (cmd.reencryptRow col) s).db.cell table column pk = s.db.cell table column pk := by
  induction rows generalizing s with
  | nil => rfl
  | cons row rows ih =>
      rw [List.foldl_cons, ih fun hin => h ⟨hin.1, hin.2.1, List.mem_cons_of_mem _ hin.2.2⟩]
      refine cell_reencryptRow_of_ne fun hin => h ⟨hin.1, hin.2.1, ?_⟩
      rw [hin.2.2]
      exact List.mem_cons_self

/-- The databases agree on the rows of the column past the cursor. -/
def Db.AgreesPast (db : Db κ) (col : Column) (after : Option κ) (db' : Db κ) : Prop :=
  db'.pks = db.pks ∧ ∀ pk, Keyset.past after pk = true →
    db'.cell col.table col.column pk = db.cell col.table col.column pk

/-- Databases that agree past the cursor have the same next page. -/
theorem Db.AgreesPast.fetchNext_eq {db db' : Db κ} {after : Option κ}
    (h : db.AgreesPast col after db') (size : ℕ) :
    Keyset.fetchNext Prod.fst size (db'.rows col) after =
      Keyset.fetchNext Prod.fst size (db.rows col) after :=
  Keyset.fetchNext_congr (filter_rows_congr h.1 h.2)

/-- The rotation of a page leaves the rows past its last one as they were. -/
theorem Db.AgreesPast.foldl_page {db : Db κ} {after next : Option κ} {page : List (κ × Cell)}
    (h : db.AgreesPast col after s.db)
    (hpage : Keyset.fetchNext Prod.fst cmd.batchSize (db.rows col) after = (page, some next)) :
    db.AgreesPast col next (page.foldl (cmd.reencryptRow col) s).db := by
  obtain ⟨c, rfl, hpast, hle⟩ := Keyset.exists_of_fetchNext hpage
  refine ⟨(sameButCells_foldl page).pks.trans h.1, fun pk hpk => ?_⟩
  have hlt : c < pk := by simpa [Keyset.past] using hpk
  -- The keys of the page come up to the cursor, so the row is not on it.
  rw [cell_foldl_of_notMem]
  · exact h.2 pk (Keyset.past_trans hpast hlt)
  · rintro ⟨-, -, hmem⟩
    obtain ⟨row, hrow, rfl⟩ := List.mem_map.mp hmem
    exact absurd (hle row hrow) (not_le.mpr hlt)

/-- The rows of a column in the order of their keys. -/
def Db.sortedRows (db : Db κ) (col : Column) : List (κ × Cell) :=
  (db.rows col).insertionSort fun row row' => row.1 ≤ row'.1

/-- The pages of a column that does not change are its rows in the order of their keys. -/
theorem flatten_pages_rows (db : Db κ) {fuel : ℕ} (hfuel : (db.rows col).length ≤ fuel) :
    (Keyset.pages Prod.fst cmd.batchSize (db.rows col) fuel none).flatten = db.sortedRows col := by
  have hall : ((db.rows col).filter fun row => Keyset.past none row.1) = db.rows col :=
    List.filter_eq_self.mpr fun _ _ => rfl
  rw [Keyset.flatten_pages cmd.batchSize_pos (nodup_rows db col) (by rwa [hall]), hall]
  rfl

/-- The rotation of a column is one pass over its rows in the order of their keys. -/
theorem paginatedReencrypt_eq_foldl (s : State κ) (col : Column) :
    cmd.paginatedReencrypt s col = (s.db.sortedRows col).foldl (cmd.reencryptRow col) s := by
  have hloop := Paging.loop_eq_foldl _ (cmd.reencryptRow col) s
    (fun after s' => s.db.AgreesPast col after s'.db)
    (fun after s' h => h.fetchNext_eq cmd.batchSize)
    (fun after s' page next h hpage => h.foldl_page hpage) (s.db.rows col).length none s
    ⟨rfl, fun _ _ => rfl⟩
  rw [Keyset.reading_fetchNext, flatten_pages_rows s.db le_rfl] at hloop
  exact hloop

end Cells

end AapGateway.SecretKey
