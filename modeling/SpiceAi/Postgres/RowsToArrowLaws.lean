import SpiceAi.Postgres.Arms

/-!
# Laws of the row converter

What `rows_to_arrow` puts in a batch, column type by column type, derived from the column
decomposition `rowsToArrow_column` and one lemma per arm.
-/

namespace SpiceAi.Postgres

open Arrow

/-- Appending one entry per row to a leaf builder appends the rows' entries in order. -/
theorem foldl_appendOption_leaf (entry : Row → Option Scalar) (f : Option Field) (d : DataType) :
    ∀ (rows : List Row) (es : List (Option Scalar)),
      rows.foldl (fun (s : Slot) r => (s.1, s.2.map (·.appendOption (entry r))))
          (f, some (.leaf d es)) = (f, some (.leaf d (es ++ rows.map entry)))
  | [], es => by simp
  | r :: rows, es => by
    simp only [List.foldl_cons, Option.map_some', ArrayData.appendOption_leaf, List.map_cons]
    rw [foldl_appendOption_leaf entry f d rows]
    simp

/-! ## BPCHAR -/

/-- A BPCHAR column of a batch holds, for each non-NULL cell, the cell's text with its trailing
whitespace removed: `trim_end` strips every trailing character of Unicode's `White_Space`, tabs
and newlines included, and nothing else. -/
theorem rows_to_arrow_bpchar_trim_end {row0 : Row} {rows : List Row} {batch : RecordBatch}
    (h : rowsToArrow (row0 :: rows) = .ok batch) {c : Nat} {col : Column}
    (hc : row0.columns[c]? = some col) (hty : col.type_ = .bpchar) :
    ∃ es, batch.columns[c]? = some (.leaf .utf8 es) ∧ es.length = rows.length + 1 ∧
      ∀ (r : Nat) (row : Row) (s : String), (row0 :: rows)[r]? = some row →
        row.cells[c]? = some (some (.text s)) →
          es[r]? = some (some (.str (trimEnd s))) ∧
          (∃ w, s.data = (trimEnd s).data ++ w ∧ ∀ ch ∈ w, isWhitespace ch = true) ∧
          ∀ ch ∈ (trimEnd s).data.getLast?, isWhitespace ch = false := by
  obtain ⟨s, f, a, hs, -, ha, hrun⟩ := rowsToArrow_column h hc
  have hs' : s = (some (Field.new col.name .utf8 true), some (.leaf .utf8 [])) := by
    simp only [deriveColumn, hty, mapColumnTypeToDataType, ok_bind, pure_eq_ok,
      Except.ok.injEq] at hs
    rw [← hs]
    rfl
  subst hs'
  rw [hty] at hrun
  have hfold := columnRun_eq_foldl _ (fun r s s' h' => cellStep_bpchar h') hrun
  rw [foldl_appendOption_leaf] at hfold
  simp only [Prod.mk.injEq, Option.some.injEq, List.nil_append] at hfold
  obtain ⟨-, -, rfl⟩ := hfold
  refine ⟨_, ha, by simp, fun r row t hr hcell => ⟨?_, trimEnd_spec t⟩⟩
  rw [List.getElem?_map, hr]
  simp [Row.value, hcell, decodeText, Except.toOption]

/-- A trailing tab is trimmed: BPCHAR stores "abc\t" as "abc". -/
theorem rows_to_arrow_bpchar_strips_tab :
    ∃ batch, rowsToArrow [⟨[⟨"b", .bpchar⟩], [some (.text "abc\t")], rfl⟩] = .ok batch ∧
      batch.columns = [.leaf .utf8 [some (.str "abc")]] :=
  ⟨_, rfl, rfl⟩

theorem rows_to_arrow_bpchar_tab_trimmed :
    ∃ batch, rowsToArrow [⟨[⟨"b", .bpchar⟩], [some (.text "abc\t")], rfl⟩] = .ok batch ∧
      ∃ es, batch.columns[0]? = some (.leaf .utf8 es) ∧ es[0]? = some (some (.str "abc")) := by
  obtain ⟨es, hes, -, hall⟩ := @rows_to_arrow_bpchar_trim_end
    ⟨[⟨"b", .bpchar⟩], [some (.text "abc\t")], rfl⟩ [] _ rfl 0 _ rfl rfl
  exact ⟨_, rfl, es, hes, (hall 0 _ "abc\t" rfl rfl).1⟩

/-! ## NUMERIC -/

/-- What the NUMERIC arm does to column `c`'s slots on a row when it returns `Ok`
(`appendNumeric_eq_ok`). -/
def numericStep (names : List String) (c : Nat) (row : Row) (s : Slot) : Slot :=
  (some (s.1.getD (Field.new (names.getD c "")
      (.decimal128 38 (scaleToI8 (numericScale row c))) true)),
    some ((s.2.getD (newDecimal128Builder (scaleToI8 (numericScale row c)))).appendOption
      (numericEntry row c)))

theorem cellStep_numeric {names : List String} {c : Nat} {row : Row} {s s' : Slot}
    (h : cellStep names (c, .numeric) row s = .ok s') : s' = numericStep names c row s :=
  appendNumeric_eq_ok h

theorem numericStep_some (names : List String) (c : Nat) (row : Row) (f : Field) (b : ArrayData) :
    numericStep names c row (some f, some b) = (some f, some (b.appendOption (numericEntry row c))) :=
  rfl

/-- Once a NUMERIC column has its field and builder, each row appends its entry. -/
theorem foldl_numericStep_leaf (names : List String) (c : Nat) (f : Field) (d : DataType) :
    ∀ (rows : List Row) (es : List (Option Scalar)),
      rows.foldl (fun s r => numericStep names c r s) (some f, some (.leaf d es)) =
        (some f, some (.leaf d (es ++ rows.map (numericEntry · c))))
  | [], es => by simp
  | r :: rows, es => by
    rw [List.foldl_cons, numericStep_some, ArrayData.appendOption_leaf,
      foldl_numericStep_leaf names c f d rows]
    simp

/-- A NUMERIC column's field and builder take the first row's scale, and every row appends its
unscaled integer. -/
theorem foldl_numericStep (names : List String) (c : Nat) (row0 : Row) (rows : List Row) :
    (row0 :: rows).foldl (fun s r => numericStep names c r s) (none, none) =
      (some (Field.new (names.getD c "") (.decimal128 38 (scaleToI8 (numericScale row0 c))) true),
        some (.leaf (.decimal128 38 (if scaleToI8 (numericScale row0 c) ≤ 38
            then scaleToI8 (numericScale row0 c) else 10))
          ((row0 :: rows).map (numericEntry · c)))) := by
  have hfirst : numericStep names c row0 (none, none) =
      (some (Field.new (names.getD c "") (.decimal128 38 (scaleToI8 (numericScale row0 c))) true),
        some (.leaf (.decimal128 38 (if scaleToI8 (numericScale row0 c) ≤ 38
          then scaleToI8 (numericScale row0 c) else 10)) [numericEntry row0 c])) := by
    simp [numericStep, newDecimal128Builder]
  rw [List.foldl_cons, hfirst, foldl_numericStep_leaf]
  rfl

/-- Whether a field is of a decimal type. -/
def isDecimalField (f : Field) : Bool :=
  match f.dataType with
  | .decimal128 _ _ => true
  | _ => false

/-- The schema mapper never produces a decimal type. -/
theorem mapColumnTypeToDataType_not_decimal {ε : Type} {ty : PgType} {d : DataType}
    (h : (mapColumnTypeToDataType ty : Except (Exit ε) (Option DataType)) = .ok (some d))
    (name : String) (nullable : Bool) : isDecimalField (Field.new name d nullable) = false := by
  cases ty
  case composite n fs =>
    simp only [mapColumnTypeToDataType, bind_eq_ok, pure_eq_ok, Except.ok.injEq,
      Option.some.injEq] at h
    obtain ⟨_, -, rfl⟩ := h
    rfl
  case other => cases h
  case numeric => simp [mapColumnTypeToDataType] at h
  all_goals (simp only [mapColumnTypeToDataType, Except.ok.injEq, Option.some.injEq] at h; subst h; rfl)

/-- The function `columns_to_schema` keeps the fields derived before the first row. -/
theorem columnsToSchema_eq_ok {cols : List Column} {slots : List Slot}
    (h : cols.mapM deriveColumn = .ok slots) :
    (columnsToSchema cols : Step (List Field)) = .ok (slots.filterMap Prod.fst) := by
  have hfields : cols.mapM (fun column => do
      let dataType ← (mapColumnTypeToDataType column.type_ : Step (Option DataType))
      pure (dataType.map (Field.new column.name · true))) = .ok (slots.map Prod.fst) := by
    refine mapM_ok_iff.mpr (List.forall₂_map_right_iff.mpr ((mapM_ok_iff.mp h).imp ?_))
    intro col s hs
    obtain ⟨d, hd, rfl⟩ := deriveColumn_eq_ok hs
    simp [hd]
  unfold columnsToSchema
  rw [hfields, ok_bind, pure_eq_ok, List.filterMap_map]
  rfl

/-- The field a column of a returned batch ends with: for NUMERIC, the decimal field of the first
row's scale, which the schema mapper did not give; for every other type, the mapper's field, which
is not decimal. -/
theorem columnRun_field {names : List String} {c : Nat} {col : Column} {s : Slot} {row0 : Row}
    {rows : List Row} {f : Field} {a : ArrayData} (hs : deriveColumn col = .ok s)
    (h : columnRun (cellStep names) (row0 :: rows) ((c, col.type_), s) =
      .ok ((c, col.type_), (some f, some a))) :
    (col.type_ = .numeric ∧ s.1 = none ∧
      f = Field.new (names.getD c "") (.decimal128 38 (scaleToI8 (numericScale row0 c))) true) ∨
    (col.type_ ≠ .numeric ∧ s.1 = some f ∧ isDecimalField f = false) := by
  obtain ⟨d, hd, rfl⟩ := deriveColumn_eq_ok hs
  by_cases hty : col.type_ = .numeric
  · rw [hty] at hd h
    simp only [mapColumnTypeToDataType, Except.ok.injEq] at hd
    subst hd
    have hfold := columnRun_eq_foldl _ (fun r s s' h' => cellStep_numeric h') h
    rw [Option.map_none', Option.map_none', foldl_numericStep] at hfold
    simp only [Prod.mk.injEq, Option.some.injEq] at hfold
    exact .inl ⟨hty, rfl, hfold.2.1⟩
  · obtain ⟨-, hf⟩ := columnRun_invariant (cellStep names) (P := fun s' : Slot => s'.1 = d.map (Field.new col.name · true))
      (fun r s s' hs h' => (cellStep_fst hty h').trans hs) rfl h
    obtain ⟨d, rfl⟩ := Option.isSome_iff_exists.mp (mapColumnTypeToDataType_isSome hd hty)
    simp only [Option.map_some', Option.some.injEq] at hf
    subst hf
    exact .inr ⟨hty, rfl, mapColumnTypeToDataType_not_decimal hd _ _⟩

/-- Dropping the decimal fields of the final schema leaves the fields derived before the first
row. -/
theorem filterMap_fst_eq_filter {slots : List Slot} {fs : List Field}
    (h : List.Forall₂ (fun s f => (s.1 = none ∧ isDecimalField f = true) ∨
      (s.1 = some f ∧ isDecimalField f = false)) slots fs) :
    slots.filterMap Prod.fst = fs.filter (!isDecimalField ·) := by
  induction h with
  | nil => rfl
  | cons hsf _ ih =>
    rcases hsf with ⟨h1, h2⟩ | ⟨h1, h2⟩ <;> simp [List.filterMap_cons, List.filter_cons, h1, h2, ih]

/-- The schema of a batch `rows_to_arrow` returns is `columns_to_schema` of the first row's
columns with one field added at the position of each NUMERIC column: `Decimal128(38, s)`, where
`s` is the display scale of the first row's cell (0 when that cell is NULL, and 0 above 127). -/
theorem rows_to_arrow_schema_adds_numeric_fields {row0 : Row} {rows : List Row}
    {batch : RecordBatch} (h : rowsToArrow (row0 :: rows) = .ok batch) :
    batch.schema.length = row0.columns.length ∧
    (columnsToSchema row0.columns : Step (List Field)) =
      .ok (batch.schema.filter (!isDecimalField ·)) ∧
    ∀ c col, row0.columns[c]? = some col → col.type_ = .numeric →
      batch.schema[c]? =
        some (Field.new col.name (.decimal128 38 (scaleToI8 (numericScale row0 c))) true) := by
  obtain ⟨slots, hslots, hruns, -⟩ := rowsToArrow_columns h
  have hslen : slots.length = row0.columns.length := (mapM_ok_iff.mp hslots).length_eq.symm
  have hclen := batch.length_columns
  refine ⟨?_, ?_, fun c col hc hty => ?_⟩
  · simpa [hslen, hclen] using hruns.length_eq.symm
  · rw [columnsToSchema_eq_ok hslots, filterMap_fst_eq_filter]
    rw [← List.map_snd_zip ((row0.columns.map Column.type_).enum) slots (by simp [hslen]),
      ← List.map_fst_zip batch.schema batch.columns (by simp [hclen]),
      List.forall₂_map_left_iff, List.forall₂_map_right_iff]
    have hmem := mem_enumFrom_zip (f := Column.type_) (k := 0) (mapM_ok_iff.mp hslots)
    refine ((List.forall₂_and_left _ _).mpr ⟨hmem, hruns⟩).imp ?_
    rintro ⟨⟨c, ty⟩, s⟩ ⟨f, a⟩ ⟨⟨col, hs, rfl⟩, hrun⟩
    rcases columnRun_field hs hrun with ⟨-, h1, rfl⟩ | ⟨-, h1, h2⟩
    · exact .inl ⟨h1, rfl⟩
    · exact .inr ⟨h1, h2⟩
  · obtain ⟨s, f, a, hs, hf, -, hrun⟩ := rowsToArrow_column h hc
    rcases columnRun_field hs hrun with ⟨-, -, rfl⟩ | ⟨hne, -⟩
    · simpa [hc] using hf
    · exact absurd hty hne

/-- A NUMERIC column is in the batch's schema and not in `columns_to_schema`'s. -/
theorem rows_to_arrow_numeric_field_not_in_columns_to_schema :
    ∃ batch, rowsToArrow [⟨[⟨"n", .numeric⟩], [none], rfl⟩] = .ok batch ∧
      batch.schema = [Field.new "n" (.decimal128 38 0) true] ∧
      (columnsToSchema [⟨"n", .numeric⟩] : Step (List Field)) = .ok [] :=
  ⟨_, rfl, rfl, rfl⟩

theorem numeric_field_of_null_first_row :
    ∃ batch, rowsToArrow [⟨[⟨"n", .numeric⟩], [none], rfl⟩] = .ok batch ∧
      batch.schema[0]? = some (Field.new "n" (.decimal128 38 0) true) := by
  obtain ⟨-, -, hnum⟩ :=
    @rows_to_arrow_schema_adds_numeric_fields ⟨[⟨"n", .numeric⟩], [none], rfl⟩ [] _ rfl
  exact ⟨_, rfl, hnum 0 _ rfl rfl⟩

/-- A cell the NUMERIC arm takes has display scale at most 38. -/
theorem numericScale_le {row : Row} {c : Nat} (h : NumericCellOk row c) :
    (numericScale row c).toNat ≤ 38 := by
  obtain ⟨-, hw⟩ := tryGet_of_numericCellOk h
  unfold numericScale
  split
  · exact (hw _ ‹_›).1
  · decide

theorem deriveColumn_numeric {col : Column} (h : col.type_ = .numeric) :
    deriveColumn col = .ok (none, none) := by
  simp [deriveColumn, h, mapColumnTypeToDataType, mapDataTypeToArrayBuilderOptional]

/-- The NUMERIC column run over rows whose cells it takes. -/
theorem columnRun_numeric {names : List String} {c : Nat} {row0 : Row} {rows : List Row}
    (hc : c < names.length) (hcells : ∀ row ∈ row0 :: rows, NumericCellOk row c) :
    columnRun (cellStep names) (row0 :: rows) ((c, .numeric), (none, none)) =
      .ok ((c, .numeric), (row0 :: rows).foldl (fun s r => numericStep names c r s) (none, none)) := by
  refine columnRun_of_forall _ (P := fun s : Slot => ∀ b, s.2 = some b →
    ArrayKind.decimal128.accepts b.dataType = true) (fun r hr s hs => ⟨?_, ?_⟩) (by simp)
  · exact appendNumeric_of_numericCellOk (hcells r hr) hc hs
  · rintro b ⟨⟩
    cases h2 : s.2 with
    | none => simp [newDecimal128Builder, ArrayKind.accepts]
    | some b => simpa using hs b h2

/-- On rows whose columns are all NUMERIC and whose cells are NULL or decode with display scale at
most 38 and an unscaled integer in `i128`, `rows_to_arrow` returns a batch. The field of column
`c` is `Decimal128(38, s)` with `s` the display scale of the first row's cell (0 when NULL), and
entry `r` is null for a NULL cell and otherwise the cell's own unscaled integer, at the cell's
own scale. -/
theorem rows_to_arrow_numeric_first_row_scale {row0 : Row} {rows : List Row}
    (hnum : ∀ col ∈ row0.columns, col.type_ = .numeric)
    (hcells : ∀ row ∈ row0 :: rows, ∀ c < row0.columns.length, NumericCellOk row c) :
    ∃ batch, rowsToArrow (row0 :: rows) = .ok batch ∧ batch.numRows = rows.length + 1 ∧
      batch.schema = row0.columns.mapIdx (fun c col =>
        Field.new col.name (.decimal128 38 (numericScale row0 c).toNat) true) ∧
      batch.columns = row0.columns.mapIdx (fun c _ =>
        .leaf (.decimal128 38 (numericScale row0 c).toNat) ((row0 :: rows).map (numericEntry · c))) := by
  set names := row0.columns.map Column.name
  let column : Nat × Column → Field × ArrayData := fun p =>
    (Field.new p.2.name (.decimal128 38 (numericScale row0 p.1).toNat) true,
      .leaf (.decimal128 38 (numericScale row0 p.1).toNat) ((row0 :: rows).map (numericEntry · p.1)))
  obtain ⟨batch, hb, hs, hc, hn⟩ := @rowsToArrow_of_each_column row0 rows (fun _ => (none, none))
    column (fun col hcol => deriveColumn_numeric (hnum col hcol)) (fun c col hcol => by
      have hlt : c < row0.columns.length := (List.getElem?_eq_some_iff.mp hcol).1
      have hS := numericScale_le (hcells row0 (List.mem_cons_self _ _) c hlt)
      simp only [hnum col (List.mem_iff_getElem?.mpr ⟨c, hcol⟩)]
      rw [columnRun_numeric (by simpa [names] using hlt) fun r hr => hcells r hr c hlt,
        foldl_numericStep]
      simp [column, names, scaleToI8, hcol, hS, show (numericScale row0 c).toNat ≤ 127 by omega])
    (fun c col _ => by simp [column, ArrayData.wellFormed])
  refine ⟨batch, hb, hn, ?_, ?_⟩
  · rw [hs, List.mapIdx_eq_enum_map, List.map_map]; rfl
  · rw [hc, List.mapIdx_eq_enum_map, List.map_map]; rfl

/-- A NULL first row fixes the scale at 0: the later value 0.0 of display scale 1 gets field
Decimal128(38, 0). -/
theorem rows_to_arrow_numeric_null_first_row :
    ∃ batch, rowsToArrow [⟨[⟨"n", .numeric⟩], [none], rfl⟩,
        ⟨[⟨"n", .numeric⟩], [some (.numeric (([0, 0, 0, 1] : List UInt16).flatMap toBeBytes))], rfl⟩] =
        .ok batch ∧
      batch.schema = [Field.new "n" (.decimal128 38 0) true] ∧
      batch.columns = [.leaf (.decimal128 38 0) [none, some (.int 0)]] :=
  ⟨_, rfl, rfl, rfl⟩

/-- After a NULL first row, 1.5 (unscaled 15 at scale 1) and 2 (scale 0) are stored as 15 and 2 in
a column of scale 0. -/
theorem numeric_column_mixed_scales :
    ∃ batch, rowsToArrow [⟨[⟨"n", .numeric⟩], [none], rfl⟩,
        ⟨[⟨"n", .numeric⟩],
          [some (.numeric (([2, 0, 0, 1, 1, 5000] : List UInt16).flatMap toBeBytes))], rfl⟩,
        ⟨[⟨"n", .numeric⟩],
          [some (.numeric (([1, 0, 0, 0, 2] : List UInt16).flatMap toBeBytes))], rfl⟩] =
        .ok batch ∧
      batch.schema = [Field.new "n" (.decimal128 38 0) true] ∧
      batch.columns = [.leaf (.decimal128 38 0) [none, some (.int 15), some (.int 2)]] := by
  have h15 : fromSql (([2, 0, 0, 1, 1, 5000] : List UInt16).flatMap toBeBytes) =
      .ok ⟨⟨15, 1⟩, 1⟩ := by
    rw [@fromSql_toBeBytes 2 0 0 1 [1, 5000] rfl (by decide) (by decide) (by decide) (by decide)]
    rfl
  have h2 : fromSql (([1, 0, 0, 0, 2] : List UInt16).flatMap toBeBytes) = .ok ⟨⟨2, 0⟩, 0⟩ := by
    rw [@fromSql_toBeBytes 1 0 0 0 [2] rfl (by decide) (by decide) (by decide) (by decide)]
    rfl
  -- Keep the encodings opaque: the entries are read through `h15` and `h2`, never recomputed.
  generalize ([2, 0, 0, 1, 1, 5000] : List UInt16).flatMap toBeBytes = raw₁ at h15 ⊢
  generalize ([1, 0, 0, 0, 2] : List UInt16).flatMap toBeBytes = raw₂ at h2 ⊢
  obtain ⟨batch, hb, -, hs, hc⟩ := @rows_to_arrow_numeric_first_row_scale
    ⟨[⟨"n", .numeric⟩], [none], rfl⟩
    [⟨[⟨"n", .numeric⟩], [some (.numeric raw₁)], rfl⟩, ⟨[⟨"n", .numeric⟩], [some (.numeric raw₂)], rfl⟩]
    (by simp) (by
      intro row hrow c hc
      obtain rfl : c = 0 := by simpa using hc
      simp only [List.mem_cons, List.mem_singleton, List.not_mem_nil, or_false] at hrow
      rcases hrow with rfl | rfl | rfl
      · exact .inl rfl
      · exact .inr ⟨_, _, rfl, h15, by decide, by unfold FitsI128; dsimp only; omega⟩
      · exact .inr ⟨_, _, rfl, h2, by decide, by unfold FitsI128; dsimp only; omega⟩)
  refine ⟨batch, hb, by rw [hs]; rfl, ?_⟩
  have e₀ : numericEntry ⟨[⟨"n", .numeric⟩], [none], rfl⟩ 0 = none := rfl
  have e₁ : numericEntry ⟨[⟨"n", .numeric⟩], [some (.numeric raw₁)], rfl⟩ 0 = some (.int 15) :=
    numericEntry_of_fromSql rfl h15
  have e₂ : numericEntry ⟨[⟨"n", .numeric⟩], [some (.numeric raw₂)], rfl⟩ 0 = some (.int 2) :=
    numericEntry_of_fromSql rfl h2
  rw [hc]
  simp only [List.mapIdx_cons, List.mapIdx_nil, List.map_cons, List.map_nil]
  rw [e₀, e₁, e₂]
  rfl

end SpiceAi.Postgres
