import SpiceAi.Postgres.RowsToArrow

/-!
# The row loop, column by column

`rows_to_arrow` keeps its state in two vectors indexed by column, the fields and the builders,
and walks the rows, and in each row the columns. Each iteration touches only the slots at its
own index. This module turns the index-based loop into the row-major loop of `SpiceAi.Loops` over
one slot per column (`foldlM_appendRow`), and from there into one run per column
(`rowsToArrow_eq_ok`): when `rows_to_arrow` returns a batch, its schema and columns are what each
column's run over all the rows leaves in that column's slots.
-/

namespace SpiceAi.Postgres

open Arrow

/-- The slots of one column: its field and its builder. -/
abbrev Slot := Option Field × Option ArrayData

/-- The arm for column `c`, as a step of that column's slots. -/
def cellStep (columnNames : List String) (c : Nat × PgType) (row : Row) (s : Slot) : Step Slot :=
  appendCell columnNames row c.1 c.2 s.1 s.2

/-- An iteration of the column loop reads and writes the slots at its own index only. -/
theorem appendColumn_unzip (names : List String) (row : Row) (pre post : List Slot) (s : Slot)
    (t : PgType) :
    appendColumn names row (pre ++ s :: post).unzip (pre.length, t) =
      (appendCell names row pre.length t s.1 s.2).map fun s' => (pre ++ s' :: post).unzip := by
  cases h : appendCell names row pre.length t s.1 s.2 <;>
    simp [appendColumn, List.getElem?_append_right, List.getElem_append_right, h, Except.map,
      List.unzip_eq_map]

/-- The column loop over the columns from index `pre.length` on is a pass of `cellStep` over
their slots. -/
theorem foldlM_appendColumn (names : List String) (row : Row) :
    ∀ (tys : List PgType) (pre post : List Slot), post.length = tys.length →
      (tys.enumFrom pre.length).foldlM (appendColumn names row) (pre ++ post).unzip =
        (rowPass (cellStep names) ((tys.enumFrom pre.length).zip post) row).map
          fun qs => (pre ++ qs.map Prod.snd).unzip
  | [], pre, [], _ => by
      simp only [List.enumFrom_nil, List.zip_nil_left, rowPass, List.mapM_nil, List.foldlM_nil,
        pure_eq_ok, Except.map, List.map_nil, List.append_nil]
  | t :: tys, pre, s :: post, hlen => by
      simp only [List.enumFrom_cons, List.foldlM_cons, appendColumn_unzip, List.zip_cons_cons,
        rowPass, List.mapM_cons]
      cases h : appendCell names row pre.length t s.1 s.2 with
      | error e => simp [h, cellStep, Except.map]
      | ok s' =>
        have ih := foldlM_appendColumn names row tys (pre ++ [s']) post (by simpa using hlen)
        simp only [List.length_append, List.length_singleton, List.append_assoc,
          List.singleton_append, rowPass] at ih
        cases hr : List.mapM (fun p => (cellStep names p.1 row p.2).map (p.1, ·))
            ((tys.enumFrom (pre.length + 1)).zip post) <;>
          simp_all [cellStep, Except.map]

/-- One iteration of the row loop is one pass of `cellStep` over the columns. -/
theorem appendRow_eq (tys : List PgType) (names : List String) (row : Row) {slots : List Slot}
    (h : slots.length = tys.length) :
    appendRow tys names slots.unzip row =
      (rowPass (cellStep names) (tys.enum.zip slots) row).map fun qs => (qs.map Prod.snd).unzip := by
  simpa using foldlM_appendColumn names row tys [] slots h

/-- The row loop is the row-major loop of `cellStep` over one slot per column. -/
theorem foldlM_appendRow (tys : List PgType) (names : List String) (rows : List Row)
    {slots : List Slot} (h : slots.length = tys.length) :
    rows.foldlM (appendRow tys names) slots.unzip =
      (rows.foldlM (rowPass (cellStep names)) (tys.enum.zip slots)).map
        fun qs => (qs.map Prod.snd).unzip := by
  induction rows generalizing slots with
  | nil => simp [Except.map, List.map_snd_zip, h]
  | cons row rows ih =>
    rw [List.foldlM_cons, List.foldlM_cons, appendRow_eq tys names row h]
    cases hp : rowPass (cellStep names) (tys.enum.zip slots) row with
    | error e => rfl
    | ok qs =>
      have hfst : qs.map Prod.fst = tys.enum := by
        rw [rowPass_fst _ hp, List.map_fst_zip _ _ (by simp [h])]
      have hq : tys.enum.zip (qs.map Prod.snd) = qs := (List.zip_of_prod hfst rfl).symm
      have hlen : (qs.map Prod.snd).length = tys.length := by
        rw [List.length_map, ← List.length_map qs Prod.fst, hfst, List.enum_length]
      simpa [hq] using ih hlen


/-- A finished builder is the builder, and it was well formed. -/
theorem finish_eq_ok {a b : ArrayData} (h : (ArrayData.finish a : Step ArrayData) = .ok b) :
    b = a ∧ a.wellFormed = true := by
  unfold ArrayData.finish at h
  split at h
  · cases h; exact ⟨rfl, ‹_›⟩
  · cases h

/-- Finishing a list of builders in turn returns them all, and they were well formed. -/
theorem mapM_finish_eq_ok {as bs : List ArrayData}
    (h : as.mapM (ArrayData.finish : ArrayData → Step ArrayData) = .ok bs) :
    bs = as ∧ ∀ a ∈ as, a.wellFormed = true := by
  have h₁ : List.Forall₂ (fun a b => a.wellFormed = true ∧ b = a) as bs :=
    (mapM_ok_iff.mp h).imp fun a b hab => (finish_eq_ok hab).symm
  rw [List.forall₂_and_left] at h₁
  have h₂ : List.Forall₂ (· = ·) bs as := h₁.2.flip
  exact ⟨List.forall₂_eq_eq_eq ▸ h₂, h₁.1⟩

/-- A batch that `rows_to_arrow` returns holds what each column's run over all the rows leaves in
that column's slots: the fields that exist, in order, make its schema, and the builders that exist
its columns. -/
theorem rowsToArrow_eq_ok {row0 : Row} {rows : List Row} {batch : RecordBatch}
    (h : rowsToArrow (row0 :: rows) = .ok batch) :
    ∃ slots qs, row0.columns.mapM deriveColumn = .ok slots ∧
      ((row0.columns.map Column.type_).enum.zip slots).mapM
        (columnRun (cellStep (row0.columns.map Column.name)) (row0 :: rows)) = .ok qs ∧
      batch.schema = qs.filterMap (·.2.1) ∧ batch.columns = qs.filterMap (·.2.2) ∧
      batch.numRows = rows.length + 1 := by
  simp only [rowsToArrow, List.head?_cons, Option.map_some', Option.getD_some, bind_eq_ok] at h
  obtain ⟨slots, hslots, ⟨fs, bs⟩, hrun, arrays, harrays, h⟩ := h
  have hlen : slots.length = (row0.columns.map Column.type_).length :=
    (mapM_ok_iff.mp hslots).length_eq.symm.trans (List.length_map _ _).symm
  rw [foldlM_appendRow _ _ _ hlen, map_eq_ok] at hrun
  obtain ⟨qs, hqs, hunzip⟩ := hrun
  rw [foldlM_rowPass_ok_iff] at hqs
  simp only [List.unzip_eq_map, List.map_map, Prod.mk.injEq] at hunzip
  obtain ⟨rfl, rfl⟩ := hunzip
  obtain ⟨rfl, -⟩ := mapM_finish_eq_ok harrays
  split at h
  · rename_i b hb
    cases h
    obtain ⟨hs, hc, hn⟩ := RecordBatch.tryNewWithOptions_ok hb
    refine ⟨slots, qs, hslots, hqs, ?_, ?_, ?_⟩
    · rw [hs, List.filterMap_map]; rfl
    · rw [hc, List.filterMap_map]; rfl
    · simpa using hn
  · cases h

/-- A well-formed builder finishes. -/
theorem finish_of_wellFormed {a : ArrayData} (h : a.wellFormed = true) :
    (ArrayData.finish a : Step ArrayData) = .ok a := by
  simp [ArrayData.finish, h]

/-- Column runs that end with a field and a builder give the final slots of the loop. -/
theorem forall₂_finalSlots {F : (Nat × PgType) × Slot → Step ((Nat × PgType) × Slot)}
    {ps : List ((Nat × PgType) × Slot)} {fas : List (Field × ArrayData)}
    (h : List.Forall₂ (fun p fa => F p = .ok (p.1, (some fa.1, some fa.2))) ps fas) :
    List.Forall₂ (fun p q => F p = .ok q) ps
        (List.zipWith (fun p fa => (p.1, (some fa.1, some fa.2))) ps fas) ∧
      ((List.zipWith (fun p fa => (p.1, (some fa.1, some fa.2))) ps fas).map Prod.snd).unzip =
        (fas.map (some ·.1), fas.map (some ·.2)) := by
  induction h with
  | nil => exact ⟨.nil, rfl⟩
  | cons h _ ih =>
    refine ⟨.cons h ih.1, ?_⟩
    simp only [List.zipWith_cons_cons, List.map_cons, List.unzip_cons, ih.2]

/-- Conversely, when every column's run over the rows ends with a field and an array of the row
count, of the field's type, under a nullable field, `rows_to_arrow` returns the batch of those
fields and arrays. -/
theorem rowsToArrow_of_columnRuns {row0 : Row} {rows : List Row} {slots : List Slot}
    {fas : List (Field × ArrayData)}
    (hslots : row0.columns.mapM deriveColumn = .ok slots)
    (hruns : List.Forall₂ (fun p fa => columnRun (cellStep (row0.columns.map Column.name))
        (row0 :: rows) p = .ok (p.1, (some fa.1, some fa.2)))
      ((row0.columns.map Column.type_).enum.zip slots) fas)
    (hvalid : ∀ fa ∈ fas, fa.2.len = rows.length + 1 ∧ fa.2.dataType = fa.1.dataType ∧
      fa.1.nullable = true ∧ fa.2.wellFormed = true) :
    ∃ batch, rowsToArrow (row0 :: rows) = .ok batch ∧ batch.schema = fas.map Prod.fst ∧
      batch.columns = fas.map Prod.snd ∧ batch.numRows = rows.length + 1 := by
  have hlen : slots.length = (row0.columns.map Column.type_).length :=
    (mapM_ok_iff.mp hslots).length_eq.symm.trans (List.length_map _ _).symm
  obtain ⟨hq, hunzip⟩ := forall₂_finalSlots hruns
  have hfold := foldlM_appendRow (row0.columns.map Column.type_) (row0.columns.map Column.name)
    (row0 :: rows) hlen
  rw [(foldlM_rowPass_ok_iff _).mpr (mapM_ok_iff.mpr hq)] at hfold
  simp only [Except.map, hunzip] at hfold
  have hfields : (fas.map (some ·.1)).filterMap id = fas.map Prod.fst := by
    rw [List.filterMap_map]
    exact congrFun (List.filterMap_eq_map Prod.fst) fas
  have hbuilders : (fas.map (some ·.2)).filterMap id = fas.map Prod.snd := by
    rw [List.filterMap_map]
    exact congrFun (List.filterMap_eq_map Prod.snd) fas
  have hmem : ∀ a ∈ fas.map Prod.snd, a.len = rows.length + 1 ∧ a.wellFormed = true := by
    simp only [List.mem_map]
    rintro _ ⟨fa, hfa, rfl⟩
    exact ⟨(hvalid fa hfa).1, (hvalid fa hfa).2.2.2⟩
  have hzip : ∀ p ∈ (fas.map Prod.snd).zip (fas.map Prod.fst), p.1.dataType = p.2.dataType ∧
      p.2.nullable = true := by
    rw [List.zip_map']
    simp only [List.mem_map]
    rintro _ ⟨fa, hfa, rfl⟩
    exact ⟨(hvalid fa hfa).2.1, (hvalid fa hfa).2.2.1⟩
  have hfin : (fas.map Prod.snd).mapM (ArrayData.finish : ArrayData → Step ArrayData) =
      .ok (fas.map Prod.snd) :=
    mapM_ok_iff.mpr (List.forall₂_same.mpr fun a ha => finish_of_wellFormed (hmem a ha).2)
  obtain ⟨b, hb, hs, hc, hn⟩ := @RecordBatch.tryNewWithOptions_of_valid (fas.map Prod.fst)
    (fas.map Prod.snd) (rows.length + 1) (by simp) (fun a ha => (hmem a ha).1)
    (fun p hp => (hzip p hp).1) (fun p hp => by simp [RecordBatch.nullableOk, (hzip p hp).2])
    (fun a ha => (hmem a ha).2)
  refine ⟨b, ?_, hs, hc, hn⟩
  simp only [rowsToArrow, List.head?_cons, Option.map_some', Option.getD_some, hslots, ok_bind,
    hfold, hbuilders, hfields, hfin, List.length_cons, hb]
  rfl

/-- The converse column by column: when column `c` derives the slots `slot col` and its run over
the rows ends with the field and array `column (c, col)`, of the row count and the field's type,
under a nullable field, `rows_to_arrow` returns the batch of those. -/
theorem rowsToArrow_of_each_column {row0 : Row} {rows : List Row} {slot : Column → Slot}
    {column : Nat × Column → Field × ArrayData}
    (hslot : ∀ col ∈ row0.columns, deriveColumn col = .ok (slot col))
    (hrun : ∀ (c : Nat) col, row0.columns[c]? = some col →
      columnRun (cellStep (row0.columns.map Column.name)) (row0 :: rows)
        ((c, col.type_), slot col) = .ok ((c, col.type_), (some (column (c, col)).1,
          some (column (c, col)).2)))
    (hvalid : ∀ (c : Nat) col, row0.columns[c]? = some col →
      (column (c, col)).2.len = rows.length + 1 ∧
        (column (c, col)).2.dataType = (column (c, col)).1.dataType ∧
        (column (c, col)).1.nullable = true ∧ (column (c, col)).2.wellFormed = true) :
    ∃ batch, rowsToArrow (row0 :: rows) = .ok batch ∧
      batch.schema = (row0.columns.enum.map column).map Prod.fst ∧
      batch.columns = (row0.columns.enum.map column).map Prod.snd ∧
      batch.numRows = rows.length + 1 := by
  have hslots : row0.columns.mapM deriveColumn = .ok (row0.columns.map slot) :=
    mapM_ok_iff.mpr (List.forall₂_map_right_iff.mpr (List.forall₂_same.mpr hslot))
  have hps : (row0.columns.map Column.type_).enum.zip (row0.columns.map slot) =
      row0.columns.enum.map fun p => ((p.1, p.2.type_), slot p.2) := by
    apply List.ext_getElem <;> simp
  refine rowsToArrow_of_columnRuns hslots ?_ ?_
  · rw [hps, List.forall₂_map_left_iff, List.forall₂_map_right_iff, List.forall₂_same]
    rintro ⟨c, col⟩ hmem
    exact hrun c col (List.mem_enum_iff_getElem?.mp hmem)
  · simp only [List.mem_map]
    rintro _ ⟨⟨c, col⟩, hmem, rfl⟩
    exact hvalid c col (List.mem_enum_iff_getElem?.mp hmem)

end SpiceAi.Postgres
