import SpiceAi.Postgres.Columns

/-!
# What each arm does to its column

One lemma per arm says everything a step of that arm does when it returns `Ok`: which entry it
appends to the column's builder and what it leaves in the field slot. The column-level results are
derived from these and never unfold an arm again.

Every arm but NUMERIC's keeps the field slot (`cellStep_fst`) and every arm leaves a builder
(`cellStep_snd_isSome`). The NUMERIC arm creates its builder and field on the first row, from that
row's scale, and appends the cell's unscaled integer (`appendNumeric_eq_ok`); it returns `Ok` on a
cell that decodes with display scale at most 38 and an unscaled integer in `i128`
(`appendNumeric_of_numericCellOk`).
-/

namespace SpiceAi.Postgres

open Arrow

/-! ## Leaf arms -/

/-- An arm of the shape of `handle_primitive_type!` appends the cell's converted value, or a
null. -/
theorem appendPrimitive_eq_ok {α : Type} {b b' : ArrayData} {ty : PgType} {kind : ArrayKind}
    {decode : Datum → Fetch α} {convert : α → Scalar} {row : Row} {i : Nat}
    (h : appendPrimitive (some b) ty kind decode convert row i = .ok b') :
    b' = b.appendOption ((row.value i decode).map convert) := by
  unfold appendPrimitive ArrayData.downcast at h
  by_cases hk : kind.accepts b.dataType
  · simp only [hk, if_true, bind_eq_ok, withContext_eq_ok, pure_eq_ok, Except.ok.injEq] at h
    obtain ⟨v, hv, rfl⟩ := h
    rw [tryGet_eq_ok hv]
  · simp [hk] at h

/-- The BPCHAR arm appends the cell's text without its trailing whitespace. -/
theorem cellStep_bpchar {names : List String} {c : Nat} {row : Row} {s s' : Slot}
    (h : cellStep names (c, .bpchar) row s = .ok s') :
    s' = (s.1, s.2.map (·.appendOption ((row.value c decodeText).map fun v => .str (trimEnd v)))) := by
  simp only [cellStep, appendCell, keepField, map_eq_ok] at h
  obtain ⟨b', hb', rfl⟩ := h
  cases hs : s.2 with
  | none => simp [hs, appendPrimitive] at hb'
  | some b => rw [hs] at hb'; rw [appendPrimitive_eq_ok hb']; rfl

/-- Every arm but NUMERIC's leaves the field slot as it is. -/
theorem cellStep_fst {names : List String} {c : Nat} {ty : PgType} {row : Row} {s s' : Slot}
    (hty : ty ≠ .numeric) (h : cellStep names (c, ty) row s = .ok s') : s'.1 = s.1 := by
  cases ty <;> simp only [cellStep, appendCell, keepField, map_eq_ok] at h
  all_goals first
    | (obtain ⟨_, -, rfl⟩ := h; rfl)
    | exact absurd rfl hty
    | cases h

/-! ## The NUMERIC arm -/

/-- The display scale the NUMERIC arm reads from cell `i`: the value's, or 0 for NULL. -/
def numericScale (row : Row) (i : Nat) : UInt16 :=
  match row.value i decodeBigDecimal with
  | some v => v.scale
  | none => 0

/-- The entry the NUMERIC arm appends for cell `i`: the value's unscaled integer, or a null. -/
def numericEntry (row : Row) (i : Nat) : Option Scalar :=
  (row.value i decodeBigDecimal).map fun v => .int v.inner.intVal

/-- A NUMERIC cell the arm takes without error: SQL NULL, or a value that decodes with display
scale at most 38 and an unscaled integer in `i128`. -/
def NumericCellOk (row : Row) (i : Nat) : Prop :=
  row.cells[i]? = some none ∨ ∃ raw v, row.cells[i]? = some (some (.numeric raw)) ∧
    fromSql raw = .ok v ∧ v.scale.toNat ≤ 38 ∧ FitsI128 v.inner.intVal

theorem value_decodeBigDecimal {row : Row} {i : Nat} {v : BigDecimalFromSql}
    (h : row.value i decodeBigDecimal = some v) : v.inner.scale = v.scale.toNat := by
  unfold Row.value at h
  split at h
  · rename_i d _
    cases d
    case numeric raw _ =>
      cases hr : fromSql raw with
      | error e => simp [decodeBigDecimal, hr, withContext, Except.mapError, Except.toOption] at h
      | ok w =>
        simp only [decodeBigDecimal, hr, withContext_ok, Except.toOption, Option.some.injEq] at h
        exact h ▸ fromSql_ok_scale hr
    all_goals simp [decodeBigDecimal, Except.toOption] at h
  · cases h

theorem not_fitsI128_ten_pow {s : Nat} (hs : 39 ≤ s) : ¬ FitsI128 (10 ^ s) := by
  have : (10 : Int) ^ 39 ≤ 10 ^ s := pow_le_pow_right₀ (by norm_num) hs
  unfold FitsI128
  omega

/-- When `to_decimal_128` of a decoded value returns a number, it is the unscaled integer. -/
theorem toDecimal128_eq_ok_some {ε : Type} {v : BigDecimalFromSql}
    (hv : v.inner.scale = v.scale.toNat) {x : Int}
    (h : (v.toDecimal128 : Except (Exit ε) (Option Int)) = .ok (some x)) :
    x = v.inner.intVal := by
  obtain ⟨⟨d, sc⟩, s⟩ := v
  simp only at hv
  subst hv
  by_cases hs : s.toNat ≤ 38
  · rw [toDecimal128_of_le hs] at h
    split_ifs at h <;> cases h
    rfl
  · simp [BigDecimalFromSql.toDecimal128, tenPowI128,
      not_fitsI128_ten_pow (by omega : 39 ≤ s.toNat)] at h

theorem numericField_eq_ok {names : List String} {i : Nat} {f F : Option Field} {s : UInt16}
    (h : numericField names i f s = .ok F) :
    F = some (f.getD (Field.new (names.getD i "") (.decimal128 38 (scaleToI8 s)) true)) := by
  unfold numericField at h
  cases f with
  | some f => simpa using h.symm
  | none =>
    cases hn : names[i]? with
    | none => simp [hn] at h
    | some name => simp_all

theorem numericField_of_lt {names : List String} {i : Nat} (hi : i < names.length)
    (f : Option Field) (s : UInt16) :
    numericField names i f s =
      .ok (some (f.getD (Field.new (names.getD i "") (.decimal128 38 (scaleToI8 s)) true))) := by
  cases f <;> simp [numericField, List.getElem?_eq_getElem hi]

theorem appendBigDecimal_eq_ok {d d' : ArrayData} {val : Option BigDecimalFromSql}
    (hv : ∀ v, val = some v → v.inner.scale = v.scale.toNat) (h : appendBigDecimal d val = .ok d') :
    d' = d.appendOption (val.map fun v => .int v.inner.intVal) := by
  cases val with
  | none => simpa [appendBigDecimal] using h.symm
  | some v =>
    simp only [appendBigDecimal, bind_eq_ok] at h
    obtain ⟨o, ho, h⟩ := h
    split at h
    · cases h
      rw [toDecimal128_eq_ok_some (hv v rfl) ho]
      rfl
    · cases h

theorem appendBigDecimal_of_ok {val : Option BigDecimalFromSql}
    (hv : ∀ v, val = some v → v.scale.toNat ≤ 38 ∧ v.inner.scale = v.scale.toNat ∧
      FitsI128 v.inner.intVal) (d : ArrayData) :
    appendBigDecimal d val = .ok (d.appendOption (val.map fun v => .int v.inner.intVal)) := by
  cases val with
  | none => rfl
  | some v =>
    obtain ⟨hs, hsc, hfit⟩ := hv v rfl
    obtain ⟨⟨u, sc⟩, s⟩ := v
    simp only at hsc hs hfit
    subst hsc
    simp [appendBigDecimal, toDecimal128_of_le hs, hfit, ArrayData.appendOption]

/-- The NUMERIC arm, when it returns `Ok`: the field already there, or a new one of the row's
scale; the builder already there, or a new one of the row's scale; and the cell's unscaled
integer appended. -/
theorem appendNumeric_eq_ok {names : List String} {row : Row} {i : Nat} {f : Option Field}
    {b : Option ArrayData} {q : Slot} (h : appendNumeric names row i f b = .ok q) :
    q = (some (f.getD (Field.new (names.getD i "")
          (.decimal128 38 (scaleToI8 (numericScale row i))) true)),
      some ((b.getD (newDecimal128Builder (scaleToI8 (numericScale row i)))).appendOption
        (numericEntry row i))) := by
  unfold appendNumeric at h
  simp only [bind_eq_ok, withContext_eq_ok] at h
  obtain ⟨v, hv, h⟩ := h
  obtain rfl := tryGet_eq_ok hv
  split at h
  · rename_i decB hd
    obtain ⟨-, rfl⟩ := ArrayData.downcast_eq_some.mp hd
    simp only [bind_eq_ok, pure_eq_ok, Except.ok.injEq] at h
    obtain ⟨F, hF, d', hd', rfl⟩ := h
    rw [numericField_eq_ok hF, appendBigDecimal_eq_ok (fun _ => value_decodeBigDecimal) hd']
    rfl
  · cases h

theorem tryGet_of_numericCellOk {row : Row} {i : Nat} (h : NumericCellOk row i) :
    row.tryGet i decodeBigDecimal = .ok (row.value i decodeBigDecimal) ∧
      ∀ v, row.value i decodeBigDecimal = some v →
        v.scale.toNat ≤ 38 ∧ v.inner.scale = v.scale.toNat ∧ FitsI128 v.inner.intVal := by
  rcases h with hc | ⟨raw, v, hc, hv, hs, hfit⟩
  · simp [Row.tryGet, Row.value, hc]
  · simp only [Row.tryGet, Row.value, hc, decodeBigDecimal, hv, withContext_ok, Except.toOption,
      Option.some.injEq, forall_eq']
    exact ⟨rfl, hs, fromSql_ok_scale hv, hfit⟩

theorem numericEntry_of_fromSql {row : Row} {c : Nat} {raw : List UInt8} {v : BigDecimalFromSql}
    (hc : row.cells[c]? = some (some (.numeric raw))) (h : fromSql raw = .ok v) :
    numericEntry row c = some (.int v.inner.intVal) := by
  simp [numericEntry, Row.value, hc, decodeBigDecimal, h, Except.toOption]

/-- The NUMERIC arm returns `Ok` on a cell it takes, given a column name and a decimal builder or
none. -/
theorem appendNumeric_of_numericCellOk {names : List String} {row : Row} {i : Nat}
    {f : Option Field} {b : Option ArrayData} (hcell : NumericCellOk row i)
    (hi : i < names.length)
    (hb : ∀ b₀, b = some b₀ → ArrayKind.decimal128.accepts b₀.dataType = true) :
    appendNumeric names row i f b =
      .ok (some (f.getD (Field.new (names.getD i "")
          (.decimal128 38 (scaleToI8 (numericScale row i))) true)),
        some ((b.getD (newDecimal128Builder (scaleToI8 (numericScale row i)))).appendOption
          (numericEntry row i))) := by
  obtain ⟨hv, hw⟩ := tryGet_of_numericCellOk hcell
  have hacc : ∀ s, (b.getD (newDecimal128Builder s)).downcast .decimal128 =
      some (b.getD (newDecimal128Builder s)) := fun s =>
    ArrayData.downcast_eq_some.mpr ⟨by cases b with
      | none => rfl
      | some b₀ => exact hb b₀ rfl, rfl⟩
  simp only [appendNumeric, hv, withContext_ok, ok_bind, hacc, numericField_of_lt hi,
    appendBigDecimal_of_ok hw, pure_eq_ok]
  rfl

/-! ## Builders are never lost -/

/-- Every arm that returns `Ok` leaves a builder in the column's slot. -/
theorem cellStep_snd_isSome {names : List String} {c : Nat × PgType} {row : Row} {s s' : Slot}
    (h : cellStep names c row s = .ok s') : s'.2.isSome := by
  obtain ⟨c, ty⟩ := c
  cases ty
  case numeric => rw [appendNumeric_eq_ok h]; rfl
  case other => cases h
  all_goals
    simp only [cellStep, appendCell, keepField, map_eq_ok] at h
    obtain ⟨_, -, rfl⟩ := h
    rfl

/-! ## The columns of a returned batch -/

/-- Only NUMERIC maps to no data type. -/
theorem mapColumnTypeToDataType_isSome {ε : Type} {ty : PgType} {d : Option DataType}
    (h : (mapColumnTypeToDataType ty : Except (Exit ε) (Option DataType)) = .ok d)
    (hty : ty ≠ .numeric) : d.isSome := by
  cases ty
  case numeric => exact absurd rfl hty
  case composite n fs =>
    simp only [mapColumnTypeToDataType, bind_eq_ok, pure_eq_ok, Except.ok.injEq] at h
    obtain ⟨_, -, rfl⟩ := h
    rfl
  case other => cases h
  all_goals (simp only [mapColumnTypeToDataType, Except.ok.injEq] at h; subst h; rfl)

/-- The slots a column starts with: the field and the builder of its data type. -/
theorem deriveColumn_eq_ok {col : Column} {s : Slot} (h : deriveColumn col = .ok s) :
    ∃ d, (mapColumnTypeToDataType col.type_ : Step (Option DataType)) = .ok d ∧
      s = (d.map (Field.new col.name · true), d.map newBuilder) := by
  simp only [deriveColumn, bind_eq_ok, pure_eq_ok, Except.ok.injEq] at h
  obtain ⟨d, hd, rfl⟩ := h
  exact ⟨d, hd, rfl⟩

theorem deriveColumn_fst_isSome {col : Column} {s : Slot} (h : deriveColumn col = .ok s) :
    s.1.isSome ∨ col.type_ = .numeric := by
  obtain ⟨d, hd, rfl⟩ := deriveColumn_eq_ok h
  by_cases hty : col.type_ = .numeric
  · exact .inr hty
  · exact .inl (by simpa using mapColumnTypeToDataType_isSome hd hty)

theorem cellStep_fst_isSome {names : List String} {c : Nat} {ty : PgType} {row : Row}
    {s s' : Slot} (h : cellStep names (c, ty) row s = .ok s') (hs : s.1.isSome ∨ ty = .numeric) :
    s'.1.isSome := by
  by_cases hty : ty = .numeric
  · subst hty; rw [appendNumeric_eq_ok h]; rfl
  · rw [cellStep_fst hty h]; exact hs.resolve_right hty

/-- Over at least one row, every column ends with a field and a builder. -/
theorem columnRun_isSome {names : List String} {c : Nat} {ty : PgType} {s : Slot} {row : Row}
    {rows : List Row} {q : (Nat × PgType) × Slot} (hs : s.1.isSome ∨ ty = .numeric)
    (h : columnRun (cellStep names) (row :: rows) ((c, ty), s) = .ok q) :
    ∃ f a, q = ((c, ty), (some f, some a)) := by
  obtain ⟨p₁, hp₁, hrun⟩ := (columnRun_cons_ok _).mp h
  obtain ⟨s₁, hs₁, rfl⟩ := map_eq_ok.mp hp₁
  obtain ⟨hq, hf, hb⟩ := columnRun_invariant (cellStep names) (P := fun s : Slot => s.1.isSome ∧ s.2.isSome)
    (fun r s s' hs h => ⟨cellStep_fst_isSome h (.inl hs.1), cellStep_snd_isSome h⟩)
    ⟨cellStep_fst_isSome hs₁ hs, cellStep_snd_isSome hs₁⟩ hrun
  obtain ⟨q₁, f, a⟩ := q
  obtain ⟨f, rfl⟩ := Option.isSome_iff_exists.mp hf
  obtain ⟨a, rfl⟩ := Option.isSome_iff_exists.mp hb
  exact ⟨f, a, by simp_all⟩


theorem mem_enumFrom_zip {α β γ : Type} {R : α → β → Prop} {f : α → γ} :
    ∀ {k : Nat} {cols : List α} {slots : List β}, List.Forall₂ R cols slots →
      ∀ p ∈ ((cols.map f).enumFrom k).zip slots, ∃ col, R col p.2 ∧ p.1.2 = f col
  | _, [], [], .nil => by simp
  | k, a :: cols, b :: slots, .cons hab h => by
      simp only [List.map_cons, List.enumFrom_cons, List.zip_cons_cons, List.mem_cons]
      rintro p (rfl | hp)
      · exact ⟨a, hab, rfl⟩
      · exact mem_enumFrom_zip h p hp

theorem forall₂_filterMap_zip {R : (Nat × PgType) × Slot → (Nat × PgType) × Slot → Prop}
    {ps qs : List ((Nat × PgType) × Slot)} (h : List.Forall₂ R ps qs)
    (hsome : ∀ p q, p ∈ ps → R p q → ∃ f a, q = (p.1, (some f, some a))) :
    List.Forall₂ (fun p fa => R p (p.1, (some fa.1, some fa.2))) ps
      ((qs.filterMap (·.2.1)).zip (qs.filterMap (·.2.2))) := by
  induction h with
  | nil => exact .nil
  | @cons p q ps qs hpq _ ih =>
    obtain ⟨f, a, rfl⟩ := hsome p q (List.mem_cons_self p ps) hpq
    exact .cons hpq (ih fun p' q' hp' => hsome p' q' (List.mem_cons_of_mem p hp'))

/-- A batch that `rows_to_arrow` returns has one field and one column per column of the first
row, each what that column's run over all the rows leaves. -/
theorem rowsToArrow_columns {row0 : Row} {rows : List Row} {batch : RecordBatch}
    (h : rowsToArrow (row0 :: rows) = .ok batch) :
    ∃ slots, row0.columns.mapM deriveColumn = .ok slots ∧
      List.Forall₂ (fun p fa => columnRun (cellStep (row0.columns.map Column.name)) (row0 :: rows) p =
          .ok (p.1, (some fa.1, some fa.2)))
        ((row0.columns.map Column.type_).enum.zip slots) (batch.schema.zip batch.columns) ∧
      batch.numRows = rows.length + 1 := by
  obtain ⟨slots, qs, hslots, hqs, hs, hc, hn⟩ := rowsToArrow_eq_ok h
  refine ⟨slots, hslots, ?_, hn⟩
  rw [hs, hc]
  refine forall₂_filterMap_zip (mapM_ok_iff.mp hqs) fun p q hp hpq => ?_
  obtain ⟨col, hcol, hty⟩ := mem_enumFrom_zip (mapM_ok_iff.mp hslots) p hp
  obtain ⟨⟨c, ty⟩, s⟩ := p
  simp only at hty
  subst hty
  exact columnRun_isSome (deriveColumn_fst_isSome hcol) hpq

/-- Column `c` of a batch that `rows_to_arrow` returns: the field and the array its run leaves. -/
theorem rowsToArrow_column {row0 : Row} {rows : List Row} {batch : RecordBatch}
    (h : rowsToArrow (row0 :: rows) = .ok batch) {c : Nat} {col : Column}
    (hc : row0.columns[c]? = some col) :
    ∃ s f a, deriveColumn col = .ok s ∧ batch.schema[c]? = some f ∧ batch.columns[c]? = some a ∧
      columnRun (cellStep (row0.columns.map Column.name)) (row0 :: rows) ((c, col.type_), s) =
        .ok ((c, col.type_), (some f, some a)) := by
  obtain ⟨slots, hslots, hruns, -⟩ := rowsToArrow_columns h
  obtain ⟨s, hs, hder⟩ := forall₂_getElem? (mapM_ok_iff.mp hslots) hc
  have hp : ((row0.columns.map Column.type_).enum.zip slots)[c]? = some ((c, col.type_), s) := by
    simp [List.getElem?_zip_eq_some, List.getElem?_enum, hc, hs]
  obtain ⟨⟨f, a⟩, hfa, hrun⟩ := forall₂_getElem? hruns hp
  obtain ⟨hf, ha⟩ := List.getElem?_zip_eq_some.mp hfa
  exact ⟨s, f, a, hder, hf, ha, hrun⟩

end SpiceAi.Postgres
