import SpiceAi.Loops
import SpiceAi.Arrow.Array

/-!
# The Snowflake schema cast

Snowflake sends a `TIMESTAMP_NTZ` column as a struct array of epoch seconds and nanosecond
fractions, marked by the field metadata `logicalType`. `snowflakeSchemaCast` is
`snowflake_schema_cast`: it rebuilds the batch with each such column cast by
`castSfTimestampNtzToArrowTimestamp`, `cast_sf_timestamp_ntz_to_arrow_timestamp`, to arrow's
`Timestamp(Millisecond, None)`, and every other column kept.

The main theorem, `snowflake_schema_cast_exact`, says that on a batch with at least one column
whose `TIMESTAMP_NTZ` columns hold an `Int64` epoch and an `Int32` fraction in range, the cast
returns a batch of the same row count and fields, with each timestamp entry null exactly where the
struct entry is null and otherwise `epoch * 1000 + fraction / 10^6`, computed without overflow.
-/

namespace SpiceAi.Snowflake

open Arrow

/-- The repository's Snowflake `Error`, restricted to the variants the cast returns. -/
inductive Error where
  /-- Message "Failed to cast snowflake timestamp to arrow timestamp: {reason}" -/
  | unableToCastSnowflakeTimestamp (reason : String)
  /-- Message "Failed to create record batch: {source}" -/
  | failedToCreateRecordBatch (source : ArrowError)

/-- A step of the cast. -/
abbrev Cast (α : Type) := Except (Exit Error) α

/-! ## The model -/

/-- The timestamp builder's data type, `Timestamp(Millisecond, None)`. -/
def timestampMillisecond : DataType :=
  .timestamp .millisecond none

/-- The expression `epoch * 1_000 + fraction / 1_000_000` in `i64` with overflow checks. Rust's
`/` truncates toward zero; by the constant `1_000_000` it never overflows. -/
def ntzMillis (epoch fraction : Int) : Cast Int := do
  let seconds ← checkedI64 (epoch * 1000)
  checkedI64 (seconds + fraction.tdiv 1000000)

/-- One iteration of the loop over the struct's entries: a null for a null entry, else the
timestamp of the entry's epoch and fraction. -/
def appendNtzEntry (structArray epochArray fractionArray builder : ArrayData) (idx : Nat) :
    Cast ArrayData :=
  if structArray.isNull idx then pure builder.appendNull
  else do
    let epoch ← epochArray.value idx
    let fraction ← fractionArray.value idx
    let timestamp ← ntzMillis epoch fraction
    pure (builder.appendValue (.int timestamp))

/-- The function `cast_sf_timestamp_ntz_to_arrow_timestamp`. -/
def castSfTimestampNtzToArrowTimestamp (column : ArrayData) : Cast ArrayData := do
  let some (columns, _) := column.asStruct
    | throw (.err (.unableToCastSnowflakeTimestamp "value is not a struct"))
  if columns.length < 2 then
    throw (.err (.unableToCastSnowflakeTimestamp "value is not a struct with 2 columns"))
  let some epochArray := (← index columns 0).downcast .int64
    | throw (.err (.unableToCastSnowflakeTimestamp "epoch is missing"))
  let some fractionArray := (← index columns 1).downcast .int32
    | throw (.err (.unableToCastSnowflakeTimestamp "fraction is missing"))
  let builder ← (List.range column.len).foldlM
    (appendNtzEntry column epochArray fractionArray) (.leaf timestampMillisecond [])
  builder.finish

/-- The test `sf_logical_type.to_lowercase().as_str() == "timestamp_ntz"`. Rust lowercases by
Unicode's full mapping; outside ASCII only U+212A KELVIN SIGN lowercases to an ASCII letter (k),
and U+0130 lowercases to i followed by U+0307, so against this target the test is equality up to
ASCII case, which is what is computed here. -/
def isTimestampNtz (sfLogicalType : String) : Bool :=
  sfLogicalType.data.map Char.toLower == "timestamp_ntz".data

/-- One iteration of the loop over the batch's fields: a field whose metadata gives the logical
type `timestamp_ntz` becomes a millisecond timestamp field of the same name and nullability, with
its column cast; every other field keeps its column. -/
def castField (field : Field) (column : ArrayData) : Cast (Field × ArrayData) :=
  match field.metadataGet "logicalType" with
  | some sfLogicalType =>
    if isTimestampNtz sfLogicalType then do
      let column ← castSfTimestampNtzToArrowTimestamp column
      pure (Field.new field.name timestampMillisecond field.nullable, column)
    else pure (field, column)
  | none => pure (field, column)

/-- The function `snowflake_schema_cast`. -/
def snowflakeSchemaCast (recordBatch : RecordBatch) : Cast RecordBatch := do
  let pairs ← recordBatch.schema.enum.mapM fun p => do
    let column ← index recordBatch.columns p.1
    castField p.2 column
  match RecordBatch.tryNew (pairs.map Prod.fst) (pairs.map Prod.snd) with
  | .ok b => pure b
  | .error e => throw (.err (.failedToCreateRecordBatch e))

/-! ## The row loop -/

/-- Whether the loop over the fields casts this field. -/
def isTimestampNtzField (field : Field) : Bool :=
  (field.metadataGet "logicalType").any isTimestampNtz

theorem castField_eq (field : Field) (column : ArrayData) :
    castField field column =
      if isTimestampNtzField field then
        (castSfTimestampNtzToArrowTimestamp column).map
          (Field.new field.name timestampMillisecond field.nullable, ·)
      else .ok (field, column) := by
  unfold castField isTimestampNtzField
  cases field.metadataGet "logicalType" with
  | none => rfl
  | some t => cases hc : castSfTimestampNtzToArrowTimestamp column <;> simp [hc, Except.map]

/-- The bounds under which an entry's timestamp is computed without overflow: a fraction in
`[0, 10^9)` and an epoch of magnitude at most `9_223_372_036_854_774`. -/
def NtzBounds (epoch fraction : Int) : Prop :=
  0 ≤ fraction ∧ fraction < 10 ^ 9 ∧ -9223372036854774 ≤ epoch ∧ epoch ≤ 9223372036854774

instance (epoch fraction : Int) : Decidable (NtzBounds epoch fraction) :=
  inferInstanceAs (Decidable (_ ∧ _))

theorem ntzMillis_of_bounds {epoch fraction : Int} (h : NtzBounds epoch fraction) :
    ntzMillis epoch fraction = .ok (epoch * 1000 + fraction / 1000000) := by
  obtain ⟨hf0, hf, he₁, he₂⟩ := h
  have h₁ : FitsI64 (epoch * 1000) := by unfold FitsI64; omega
  have h₂ : FitsI64 (epoch * 1000 + fraction / 1000000) := by unfold FitsI64; omega
  rw [ntzMillis, checkedI64_of_fits h₁, ok_bind, Int.tdiv_eq_ediv hf0 (by omega),
    checkedI64_of_fits h₂]

/-- The entry the cast gives row `k` of a struct of epochs `e`, fractions `fr` and validity `v`. -/
def ntzEntry (e fr : ArrayData) (v : List Bool) (k : Nat) : Option Scalar :=
  if v[k]? = some true then some (.int (e.slot k * 1000 + fr.slot k / 1000000)) else none

section Loop

variable {fs : List Field} {cs : List ArrayData} {v : List Bool} {e fr : ArrayData}

theorem appendNtzEntry_eq (he : e.len = v.length) (hfr : fr.len = v.length) {k : Nat}
    (hk : k < v.length) (hb : v[k]? = some true → NtzBounds (e.slot k) (fr.slot k))
    (d : DataType) (es : List (Option Scalar)) :
    appendNtzEntry (.struct fs cs v) e fr (.leaf d es) k = .ok (.leaf d (es ++ [ntzEntry e fr v k])) := by
  unfold appendNtzEntry ntzEntry
  rw [List.getElem?_eq_getElem hk]
  cases hv : v[k]
  · simp [ArrayData.isNull, List.getElem?_eq_getElem hk, hv, ArrayData.appendNull]
  · simp only [ArrayData.isNull, List.getElem?_eq_getElem hk, hv, beq_iff_eq, Option.some.injEq,
      Bool.true_eq_false, if_false, ArrayData.value_of_lt (he ▸ hk), ArrayData.value_of_lt (hfr ▸ hk), ok_bind,
      ntzMillis_of_bounds (hb (by simp [List.getElem?_eq_getElem hk, hv])), if_true]
    rfl

/-- The loop over the struct's entries appends one entry per row. -/
theorem foldlM_appendNtzEntry (he : e.len = v.length) (hfr : fr.len = v.length)
    (hb : ∀ k, v[k]? = some true → NtzBounds (e.slot k) (fr.slot k)) (d : DataType) :
    ∀ (ks : List Nat) (es : List (Option Scalar)), (∀ k ∈ ks, k < v.length) →
      ks.foldlM (appendNtzEntry (.struct fs cs v) e fr) (.leaf d es) =
        .ok (.leaf d (es ++ ks.map (ntzEntry e fr v)))
  | [], es, _ => by simp
  | k :: ks, es, hks => by
    rw [List.foldlM_cons, appendNtzEntry_eq he hfr (hks k (List.mem_cons_self k ks)) (hb k), ok_bind,
      foldlM_appendNtzEntry he hfr hb d ks _ fun k' hk' => hks k' (List.mem_cons_of_mem k hk')]
    simp

end Loop

/-- A `TIMESTAMP_NTZ` column the cast takes: a struct array whose first two children are an
`Int64Array` of epoch seconds and an `Int32Array` of nanosecond fractions, in bounds at every
non-null entry. -/
def NtzColumnOk (column : ArrayData) : Prop :=
  ∃ fs e fr rest v, column = .struct fs (e :: fr :: rest) v ∧
    e.dataType = .int64 ∧ fr.dataType = .int32 ∧
    ∀ k, v[k]? = some true → NtzBounds (e.slot k) (fr.slot k)

/-- The entries of the timestamp array cast from a struct column. -/
def ntzEntries : ArrayData → List (Option Scalar)
  | .struct _ (e :: fr :: _) v => (List.range v.length).map (ntzEntry e fr v)
  | _ => []

/-- The cast of a well-formed column it takes: a timestamp array of one entry per struct entry. -/
theorem castSfTimestampNtzToArrowTimestamp_eq {column : ArrayData} (h : NtzColumnOk column)
    (hwf : column.wellFormed = true) :
    castSfTimestampNtzToArrowTimestamp column = .ok (.leaf timestampMillisecond (ntzEntries column)) := by
  obtain ⟨fs, e, fr, rest, v, rfl, he, hfr, hb⟩ := h
  have hlen := ArrayData.len_of_wellFormed hwf
  have hdown : ∀ (a : ArrayData) (k : ArrayKind), k.accepts a.dataType = true → a.downcast k = some a :=
    fun a k h => ArrayData.downcast_eq_some.mpr ⟨h, rfl⟩
  simp only [castSfTimestampNtzToArrowTimestamp, ArrayData.asStruct, List.length_cons,
    index_of_lt (show 0 < (e :: fr :: rest).length by simp),
    index_of_lt (show 1 < (e :: fr :: rest).length by simp), List.getElem_cons_zero,
    List.getElem_cons_succ, hdown e .int64 (by rw [he]; rfl),
    hdown fr .int32 (by rw [hfr]; rfl), ok_bind, ArrayData.len_struct,
    foldlM_appendNtzEntry (hlen e (by simp)) (hlen fr (by simp)) hb _ _ [] (fun k => List.mem_range.mp)]
  simp [ArrayData.finish, ntzEntries]

/-! ## The batch -/

/-- The field and the column the loop over the fields leaves for a field and its column. -/
def castResult (field : Field) (column : ArrayData) : Field × ArrayData :=
  if isTimestampNtzField field then
    (Field.new field.name timestampMillisecond field.nullable, .leaf timestampMillisecond (ntzEntries column))
  else (field, column)

theorem castField_of_ok {field : Field} {column : ArrayData} (hwf : column.wellFormed = true)
    (h : isTimestampNtzField field = true → NtzColumnOk column) :
    castField field column = .ok (castResult field column) := by
  rw [castField_eq, castResult]
  split
  · rw [castSfTimestampNtzToArrowTimestamp_eq (h ‹_›) hwf]; rfl
  · rfl

/-- The cast keeps a column's row count, type, nullability and well-formedness. -/
theorem castResult_valid {field : Field} {column : ArrayData} {n : Nat} (hlen : column.len = n)
    (htype : column.dataType = field.dataType)
    (hnull : field.nullable = false → column.nullCount = 0) (hwf : column.wellFormed = true)
    (h : isTimestampNtzField field = true → NtzColumnOk column) :
    (castResult field column).2.len = n ∧
      (castResult field column).2.dataType = (castResult field column).1.dataType ∧
      RecordBatch.nullableOk ((castResult field column).2, (castResult field column).1) = true ∧
      (castResult field column).2.wellFormed = true := by
  unfold castResult
  split
  · obtain ⟨fs, e, fr, rest, v, rfl, -⟩ := h ‹_›
    refine ⟨by simpa [ntzEntries] using hlen, rfl, ?_, by simp⟩
    cases hn : field.nullable
    · have hv : false ∉ v := List.count_eq_zero.mp (hnull hn)
      simp only [RecordBatch.nullableOk, Field.nullable_new, hn, ArrayData.nullCount,
        Bool.false_or, beq_iff_eq, ntzEntries, List.countP_eq_zero, List.mem_map, List.mem_range]
      rintro _ ⟨k, hk, rfl⟩
      have hvk : v[k] = true := by
        cases hb : v[k]
        · exact absurd (hb ▸ List.getElem_mem hk) hv
        · rfl
      simp [ntzEntry, List.getElem?_eq_getElem hk, hvk]
    · simp [RecordBatch.nullableOk, hn]
  · refine ⟨hlen, htype, ?_, hwf⟩
    cases hn : field.nullable <;> simp [RecordBatch.nullableOk, hn, hnull]

section Batch

variable {b : RecordBatch}

/-- The loop over the fields, on a batch whose `TIMESTAMP_NTZ` columns it takes, returns the cast
of each field and column. -/
theorem mapM_castField (hntz : ∀ (i : Nat) f c, b.schema[i]? = some f → b.columns[i]? = some c →
      isTimestampNtzField f = true → NtzColumnOk c) :
    b.schema.enum.mapM (fun p => do
        let column ← index b.columns p.1
        castField p.2 column) =
      .ok ((b.columns.zip b.schema).map fun q => castResult q.2 q.1) := by
  refine mapM_ok_iff.mpr (forall₂_of_getElem? (by simp [b.length_columns]) ?_)
  intro i p q hp hq
  rw [List.getElem?_enum] at hp
  rw [List.getElem?_map] at hq
  obtain ⟨f, hf, rfl⟩ := Option.map_eq_some'.mp hp
  obtain ⟨⟨c, f'⟩, hcf, rfl⟩ := Option.map_eq_some'.mp hq
  obtain ⟨hc, hf'⟩ := List.getElem?_zip_eq_some.mp hcf
  obtain rfl : f' = f := Option.some.inj (hf'.symm.trans hf)
  obtain ⟨hi, rfl⟩ := List.getElem?_eq_some_iff.mp hc
  rw [index_of_lt hi, ok_bind]
  exact castField_of_ok (b.wellFormed_column _ (List.getElem_mem hi)) (hntz i _ _ hf hc)

theorem castResult_mem_valid (hntz : ∀ (i : Nat) f c, b.schema[i]? = some f → b.columns[i]? = some c →
      isTimestampNtzField f = true → NtzColumnOk c)
    {q : ArrayData × Field} (hq : q ∈ b.columns.zip b.schema) :
    (castResult q.2 q.1).2.len = b.numRows ∧
      (castResult q.2 q.1).2.dataType = (castResult q.2 q.1).1.dataType ∧
      RecordBatch.nullableOk ((castResult q.2 q.1).2, (castResult q.2 q.1).1) = true ∧
      (castResult q.2 q.1).2.wellFormed = true := by
  obtain ⟨i, hi⟩ := List.mem_iff_getElem?.mp hq
  obtain ⟨hc, hf⟩ := List.getElem?_zip_eq_some.mp hi
  exact castResult_valid (b.len_column _ (List.of_mem_zip hq).1)
    (b.dataType_column q hq) (b.nonNullable q hq) (b.wellFormed_column _ (List.of_mem_zip hq).1)
    (hntz i _ _ hf hc)

/-- The field a cast leaves has the name and the nullability of the field it was cast from. -/
theorem castResult_name_nullable (field : Field) (column : ArrayData) :
    ((castResult field column).1.name, (castResult field column).1.nullable) =
      (field.name, field.nullable) := by
  unfold castResult
  split <;> rfl

theorem castResult_getElem? {i : Nat} {f : Field} {c : ArrayData} (hf : b.schema[i]? = some f)
    (hc : b.columns[i]? = some c) :
    ((b.columns.zip b.schema).map fun q => castResult q.2 q.1)[i]? = some (castResult f c) := by
  rw [List.getElem?_map, show (b.columns.zip b.schema)[i]? = some (c, f) from
    List.getElem?_zip_eq_some.mpr ⟨hc, hf⟩]
  rfl

end Batch

/-- On a batch with at least one column whose `TIMESTAMP_NTZ` columns hold an `Int64` epoch and an
`Int32` fraction in bounds at every non-null entry, `snowflake_schema_cast` returns a batch of the
same row count, with the same field names and nullability in the same order. A `TIMESTAMP_NTZ`
column becomes a `Timestamp(Millisecond, None)` column, null exactly where the struct entry is
null and otherwise `epoch * 1000 + fraction / 10^6`; every other field and its column are kept. -/
theorem snowflake_schema_cast_exact {b : RecordBatch} (hne : b.schema ≠ [])
    (hntz : ∀ (i : Nat) f c, b.schema[i]? = some f → b.columns[i]? = some c →
      isTimestampNtzField f = true → NtzColumnOk c) :
    ∃ b', snowflakeSchemaCast b = .ok b' ∧ b'.numRows = b.numRows ∧
      b'.schema.map (fun f => (f.name, f.nullable)) = b.schema.map (fun f => (f.name, f.nullable)) ∧
      ∀ (i : Nat) f c, b.schema[i]? = some f → b.columns[i]? = some c →
        (isTimestampNtzField f = true →
          b'.schema[i]? = some (Field.new f.name timestampMillisecond f.nullable) ∧
          ∀ fs e fr rest v, c = .struct fs (e :: fr :: rest) v →
            b'.columns[i]? = some (.leaf timestampMillisecond ((List.range v.length).map fun k =>
              if v[k]? = some true then some (.int (e.slot k * 1000 + fr.slot k / 1000000))
              else none))) ∧
        (isTimestampNtzField f = false → b'.schema[i]? = some f ∧ b'.columns[i]? = some c) := by
  set pairs := (b.columns.zip b.schema).map fun q => castResult q.2 q.1 with hpairs_def
  have hall : ∀ r ∈ pairs, r.2.len = b.numRows ∧ r.2.dataType = r.1.dataType ∧
      RecordBatch.nullableOk (r.2, r.1) = true ∧ r.2.wellFormed = true :=
    List.forall_mem_map.mpr fun q hq => castResult_mem_valid hntz hq
  have hpairs : pairs ≠ [] := by simpa [pairs, ← List.length_pos, b.length_columns] using hne
  obtain ⟨b', hb', hs, hc, hn⟩ := RecordBatch.tryNew_of_pairs hpairs hall
  refine ⟨b', ?_, hn, ?_, fun i f c hf hc' => ?_⟩
  · simp only [snowflakeSchemaCast, mapM_castField hntz, ok_bind, ← hpairs_def, hb']
    rfl
  · rw [hs, List.map_map, hpairs_def, List.map_map]
    conv_rhs => rw [← List.map_snd_zip b.columns b.schema (by simp [b.length_columns]), List.map_map]
    exact List.map_congr_left fun q _ => castResult_name_nullable q.2 q.1
  · have hpi := castResult_getElem? hf hc'
    rw [← hpairs_def] at hpi
    have hsi : b'.schema[i]? = some (castResult f c).1 := by rw [hs, List.getElem?_map, hpi]; rfl
    have hci : b'.columns[i]? = some (castResult f c).2 := by
      rw [hc, List.getElem?_map, hpi]; rfl
    refine ⟨fun hntzf => ⟨?_, ?_⟩, fun hntzf => ?_⟩
    · simp [hsi, castResult, hntzf]
    · rintro fs e fr rest v rfl
      simp only [hci, castResult, hntzf, if_true]
      rfl
    · simp [hsi, hci, castResult, hntzf]

/-- The repository's test data in a batch: two timestamps and a null, beside an `Int32` column. -/
theorem snowflake_schema_cast_sample :
    ∃ b b', b.schema = [.mk "ts" (.struct [Field.new "epoch" .int64 true,
          Field.new "fraction" .int32 true]) true [("logicalType", "TIMESTAMP_NTZ")],
        Field.new "id" .int32 true] ∧
      b.columns = [.struct [Field.new "epoch" .int64 true, Field.new "fraction" .int32 true]
          [.leaf .int64 [some (.int 1696164330), none, some (.int 1714647301)],
            .leaf .int32 [some (.int 0), none, some (.int 739000000)]] [true, false, true],
        .leaf .int32 [some (.int 7), some (.int 8), none]] ∧
      snowflakeSchemaCast b = .ok b' ∧ b'.numRows = 3 ∧
      b'.columns[0]? = some (.leaf timestampMillisecond
        [some (.int 1696164330000), none, some (.int 1714647301739)]) ∧
      b'.columns[1]? = some (.leaf .int32 [some (.int 7), some (.int 8), none]) := by
  obtain ⟨b, -, hs, hc, hn⟩ := @RecordBatch.tryNew_of_valid
    [.mk "ts" (.struct [Field.new "epoch" .int64 true, Field.new "fraction" .int32 true]) true
        [("logicalType", "TIMESTAMP_NTZ")],
      Field.new "id" .int32 true]
    (.struct [Field.new "epoch" .int64 true, Field.new "fraction" .int32 true]
      [.leaf .int64 [some (.int 1696164330), none, some (.int 1714647301)],
        .leaf .int32 [some (.int 0), none, some (.int 739000000)]] [true, false, true])
    [.leaf .int32 [some (.int 7), some (.int 8), none]]
    rfl (by decide) (by decide) (by decide) (by decide)
  obtain ⟨b', hb', hn', -, hcols⟩ := snowflake_schema_cast_exact (b := b) (by simp [hs]) (by
    intro i f c hf hc' hntz
    rw [hs] at hf
    rw [hc] at hc'
    match i, hf, hc' with
    | 0, rfl, rfl => exact ⟨_, _, _, [], _, rfl, rfl, rfl, fun k hk => match k, hk with
        | 0, _ => by decide
        | 2, _ => by decide
        | 1, hk => absurd hk (by decide)
        | k + 3, hk => absurd hk (by simp)⟩
    | 1, rfl, rfl => exact absurd hntz (by decide))
  have h0 := hcols 0 _ _ (by rw [hs]; rfl) (by rw [hc]; rfl)
  have h1 := hcols 1 _ _ (by rw [hs]; rfl) (by rw [hc]; rfl)
  refine ⟨b, b', hs, hc, hb', by rw [hn', hn]; rfl, ?_, (h1.2 (by decide)).2⟩
  rw [(h0.1 (by decide)).2 _ _ _ _ _ rfl]
  rfl

/-! ## The schema of a cast -/

/-- The field the cast gives a field, whatever its column holds: a `TIMESTAMP_NTZ` field becomes a
millisecond timestamp field of the same name and nullability. -/
def castFieldSchema (field : Field) : Field :=
  if isTimestampNtzField field then Field.new field.name timestampMillisecond field.nullable
  else field

theorem castField_fst {field : Field} {column : ArrayData} {p : Field × ArrayData}
    (h : castField field column = .ok p) : p.1 = castFieldSchema field := by
  rw [castField_eq] at h
  by_cases hf : isTimestampNtzField field = true
  · rw [if_pos hf] at h
    obtain ⟨c, -, rfl⟩ := map_eq_ok.mp h
    exact (if_pos hf).symm
  · rw [if_neg hf] at h
    cases h
    exact (if_neg hf).symm

/-- The schema of a batch the cast returns is a function of the schema it was cast from: the
batch's rows never change it. -/
theorem snowflakeSchemaCast_schema {b b' : RecordBatch} (h : snowflakeSchemaCast b = .ok b') :
    b'.schema = b.schema.map castFieldSchema := by
  obtain ⟨pairs, hpairs, h⟩ := bind_eq_ok.mp h
  have hb' : RecordBatch.tryNew (pairs.map Prod.fst) (pairs.map Prod.snd) = .ok b' := by
    revert h
    cases RecordBatch.tryNew (pairs.map Prod.fst) (pairs.map Prod.snd) <;> intro h <;> cases h
    rfl
  have hfst : List.Forall₂ (fun p q => castFieldSchema p.2 = q.1) b.schema.enum pairs :=
    (mapM_ok_iff.mp hpairs).imp fun p q hpq => by
      obtain ⟨c, -, hc⟩ := bind_eq_ok.mp hpq
      exact (castField_fst hc).symm
  rw [(RecordBatch.tryNewWithOptions_ok hb').1, ← List.enum_map_snd b.schema, List.map_map]
  exact (List.forall₂_eq_eq_eq ▸ List.forall₂_map_left_iff.mpr
    (List.forall₂_map_right_iff.mpr hfst) : _ = _).symm

end SpiceAi.Snowflake
