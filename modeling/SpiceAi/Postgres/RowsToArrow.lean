import SpiceAi.Postgres.Types

/-!
# The Postgres row converter

`rowsToArrow` is `rows_to_arrow`: it derives one field slot and one builder slot per column from
the first row, runs every row through the per-column match, finishes the builders and assembles a
record batch with the row count given. Each arm of the match is its own definition here:
`handlePrimitiveType` and `handlePrimitiveArrayType` are the two macros, `appendPrimitive` the shape
they share with the BPCHAR, DATE and UUID arms, and `appendNumeric`, `appendTimestamp` and
`appendComposite` the arms with a shape of their own. The loop keeps the source's index-based
vectors: `appendColumn` reads both slots at the column's index and writes them back.

arrow's builder constructor is in a module absent from the sources; `newBuilder` follows the spec.
-/

namespace SpiceAi.Postgres

open Arrow

/-- The repository's Postgres `Error`, restricted to the variants `rows_to_arrow` returns. A type
named in a message is kept as the type. -/
inductive Error where
  | failedToBuildRecordBatch (source : ArrowError)
  | noBuilderForIndex (index : Nat)
  | failedToDowncastBuilder (postgresType : PgType)
  | failedToConvertU128toI64
  | failedToGetRowValue (pgType : PgType) (source : DriverError)
  | failedToGetCompositeRowValue (pgType : PgType) (source : DriverError)
  | failedToConvertBigDecimalToI128 (bigDecimal : BigDecimal)
  | noArrowFieldForIndex (index : Nat)
  | noColumnNameForIndex (index : Nat)

/-- A step of the converter. -/
abbrev Step (α : Type) := Except (Exit Error) α

/-! ## Builders -/

mutual
/-- Modelled from the spec: `map_data_type_to_array_builder`, an empty builder of the data type.
A struct builder holds one empty child builder per field, as arrow's `StructBuilder::from_fields`
makes them. -/
def newBuilder : DataType → ArrayData
  | .struct fs => .struct fs (newFieldBuilders fs) []
  | d => .leaf d []

/-- The child builders of a struct builder. -/
def newFieldBuilders : List Field → List ArrayData
  | [] => []
  | .mk _ d _ _ :: fs => newBuilder d :: newFieldBuilders fs
end

/-- Modelled from the spec: `map_data_type_to_array_builder_optional`, no builder for no type. -/
def mapDataTypeToArrayBuilderOptional (d : Option DataType) : Option ArrayData :=
  d.map newBuilder

/-- The call `scale.try_into().unwrap_or_default()` from `u16` to arrow's `i8` scale. -/
def scaleToI8 (s : UInt16) : Int :=
  if s.toNat ≤ 127 then s.toNat else 0

/-- Arrow's `Decimal128Builder::new().with_precision_and_scale(38, s).unwrap_or_default()`: arrow
refuses a scale above 38 at precision 38, and the default builder is `Decimal128(38, 10)`. -/
def newDecimal128Builder (s : Int) : ArrayData :=
  .leaf (.decimal128 38 (if s ≤ 38 then s else 10)) []

/-! ## The arms of the per-row match -/

/-- The shape of `handle_primitive_type!` and of the BPCHAR, DATE and UUID arms: take the column's
builder, downcast it, fetch the cell as the requested Rust type and append the converted value,
or a null. -/
def appendPrimitive {α : Type} (builder : Option ArrayData) (type_ : PgType) (builderKind : ArrayKind)
    (decode : Datum → Fetch α) (convert : α → Scalar) (row : Row) (index : Nat) : Step ArrayData := do
  let some builder := builder | throw (.err (.noBuilderForIndex index))
  let some builder := builder.downcast builderKind
    | throw (.err (.failedToDowncastBuilder type_))
  let v ← withContext (.failedToGetRowValue type_) (row.tryGet index decode)
  pure (builder.appendOption (v.map convert))

/-- The macro `handle_primitive_type!`. -/
def handlePrimitiveType (builder : Option ArrayData) (type_ : PgType) (builderKind : ArrayKind)
    (valueType : ValueType) (row : Row) (index : Nat) : Step ArrayData :=
  appendPrimitive builder type_ builderKind valueType.decode id row index

/-- The macro `handle_primitive_array_type!`: a list entry holds the array's elements. -/
def handlePrimitiveArrayType (type_ : PgType) (builder : Option ArrayData) (row : Row) (i : Nat)
    (listBuilder : ArrayKind) (valueType : ValueType) : Step ArrayData :=
  appendPrimitive builder type_ listBuilder (decodeVec valueType) (fun v => .list (v.map some)) row i

/-- The field the NUMERIC arm leaves: the one already there, else a new field named after the
column, of the row's scale. -/
def numericField (columnNames : List String) (i : Nat) (arrowField : Option Field)
    (scale : UInt16) : Step (Option Field) :=
  match arrowField with
  | some f => pure (some f)
  | none => match columnNames[i]? with
    | some fieldName => pure (some (Field.new fieldName (.decimal128 38 (scaleToI8 scale)) true))
    | none => throw (.err (.noColumnNameForIndex i))

/-- The end of the NUMERIC arm: `append_null()` for NULL, else the value `to_decimal_128`
returns. -/
def appendBigDecimal (decBuilder : ArrayData) : Option BigDecimalFromSql → Step ArrayData
  | none => pure decBuilder.appendNull
  | some v => do
    let some vI128 ← v.toDecimal128
      | throw (.err (.failedToConvertBigDecimalToI128 v.inner))
    pure (decBuilder.appendValue (.int vI128))

/-- The NUMERIC arm. It reads the cell first; the builder and the field are created on the first
row, with that row's scale (0 when the row is NULL), and kept unchanged by every later row. -/
def appendNumeric (columnNames : List String) (row : Row) (i : Nat) (arrowField : Option Field)
    (builder : Option ArrayData) : Step (Option Field × Option ArrayData) := do
  let v ← withContext (.failedToGetRowValue .numeric) (row.tryGet i decodeBigDecimal)
  let scale : UInt16 := match v with
    | some v => v.scale
    | none => 0
  let decBuilder := builder.getD (newDecimal128Builder (scaleToI8 scale))
  let some decBuilder := decBuilder.downcast .decimal128
    | throw (.err (.failedToDowncastBuilder .numeric))
  let arrowField ← numericField columnNames i arrowField scale
  let decBuilder ← appendBigDecimal decBuilder v
  pure (arrowField, some decBuilder)

/-- The TIMESTAMP and TIMESTAMPTZ arm. `duration_since(UNIX_EPOCH)` fails for a time before the
epoch, and the arm then appends nothing; otherwise it appends the whole milliseconds, which must
fit `i64`. -/
def appendTimestamp (builder : Option ArrayData) (pgType : PgType) (row : Row) (i : Nat) :
    Step ArrayData := do
  let some builder := builder | throw (.err (.noBuilderForIndex i))
  let some builder := builder.downcast .timestampMillisecond
    | throw (.err (.failedToDowncastBuilder pgType))
  let v ← withContext (.failedToGetRowValue pgType) (row.tryGet i decodeTime)
  match v with
  | some v =>
    if 0 ≤ v then
      if v.toNat / 1000 < 2 ^ 63 then pure (builder.appendValue (.int (v.toNat / 1000)))
      else throw (.err .failedToConvertU128toI64)
    else pure builder
  | none => pure builder.appendNull

/-- The arms of `handle_composite_types!`: the builder type and the value type of each data type a
composite field may have. -/
def compositeFieldType : DataType → Option (ArrayKind × ValueType)
  | .boolean => some (.boolean, .bool)
  | .int8 => some (.int8, .i8)
  | .int16 => some (.int16, .i16)
  | .int32 => some (.int32, .i32)
  | .int64 => some (.int64, .i64)
  | .uint32 => some (.uint32, .u32)
  | .float32 => some (.float32, .f32)
  | .float64 => some (.float64, .f64)
  | .binary => some (.binary, .bytes)
  | .largeBinary => some (.largeBinary, .bytes)
  | .utf8 => some (.string, .string)
  | .largeUtf8 => some (.largeString, .string)
  | _ => none

/-- The macro `handle_composite_type!`: append the value of field `idx` to the struct builder's
child builder `idx`. -/
def handleCompositeType (builderType : ArrayKind) (valueType : ValueType) (pgType : PgType)
    (compositeType : CompositeValue) (builder : ArrayData) (idx : Nat) (fieldName : String) :
    Step ArrayData := do
  let some fieldBuilder := builder.fieldBuilder builderType idx
    | throw (.err (.failedToDowncastBuilder pgType))
  let v ← withContext (.failedToGetCompositeRowValue pgType)
    (compositeType.tryGet fieldName valueType.decode)
  pure (builder.setChild idx (fieldBuilder.appendOption v))

/-- One iteration of the loop over a composite value's fields. A field whose data type the arms of
`handle_composite_types!` lack panics, the message formatting that data type. -/
def appendCompositeField (compositeType : CompositeValue) (builder : ArrayData) :
    Nat × PgField → Step ArrayData
  | (idx, field) => do
    let some fieldType ← mapColumnTypeToDataType field.type_
      | throw (.err (.failedToDowncastBuilder field.type_))
    match compositeFieldType fieldType with
    | some (builderType, valueType) =>
        handleCompositeType builderType valueType field.type_ compositeType builder idx field.name
    | none => throw (.panic (.unimplemented ("Unsupported field type " ++ fieldType.debug)))

/-- The composite arm: a NULL value is `append_null()` on the struct builder, which leaves its
child builders as they are; a value is `append(true)` and then one append per field. -/
def appendComposite (builder : Option ArrayData) (pgType : PgType) (fields : List PgField)
    (row : Row) (i : Nat) : Step ArrayData := do
  let some builder := builder | throw (.err (.noBuilderForIndex i))
  let some builder := builder.downcast .struct | throw (.err (.failedToDowncastBuilder pgType))
  let v ← withContext (.failedToGetRowValue pgType) (row.tryGet i (decodeComposite fields))
  match v with
  | none => pure builder.appendNull
  | some compositeType =>
    compositeType.fields.enum.foldlM (appendCompositeField compositeType) builder.appendValid

/-- An arm that leaves the field slot as it is and fills the builder slot. -/
def keepField (arrowField : Option Field) (x : Step ArrayData) : Step (Option Field × Option ArrayData) :=
  x.map fun b => (arrowField, some b)

/-- The match on the column's type for cell `i` of `row`: the column's field and builder slots
before and after. A type outside the arms panics, the message giving the type by its name and the
column index. -/
def appendCell (columnNames : List String) (row : Row) (i : Nat) (postgresType : PgType)
    (arrowField : Option Field) (builder : Option ArrayData) : Step (Option Field × Option ArrayData) :=
  match postgresType with
  | .int2 => keepField arrowField (handlePrimitiveType builder .int2 .int16 .i16 row i)
  | .int4 => keepField arrowField (handlePrimitiveType builder .int4 .int32 .i32 row i)
  | .int8 => keepField arrowField (handlePrimitiveType builder .int8 .int64 .i64 row i)
  | .float4 => keepField arrowField (handlePrimitiveType builder .float4 .float32 .f32 row i)
  | .float8 => keepField arrowField (handlePrimitiveType builder .float8 .float64 .f64 row i)
  | .text => keepField arrowField (handlePrimitiveType builder .text .string .str row i)
  | .varchar => keepField arrowField (handlePrimitiveType builder .varchar .string .str row i)
  | .bpchar => keepField arrowField
      (appendPrimitive builder .bpchar .string decodeText (fun v => .str (trimEnd v)) row i)
  | .bool => keepField arrowField (handlePrimitiveType builder .bool .boolean .bool row i)
  | .numeric => appendNumeric columnNames row i arrowField builder
  | .timestamp => keepField arrowField (appendTimestamp builder .timestamp row i)
  | .timestamptz => keepField arrowField (appendTimestamp builder .timestamptz row i)
  | .date => keepField arrowField (appendPrimitive builder .date .date32 decodeDate .int row i)
  | .uuid => keepField arrowField
      (appendPrimitive builder .uuid .string decodeUuid (fun v => .str (uuidToString v)) row i)
  | .int2Array => keepField arrowField
      (handlePrimitiveArrayType .int2Array builder row i (.list .int16) .i16)
  | .int4Array => keepField arrowField
      (handlePrimitiveArrayType .int4Array builder row i (.list .int32) .i32)
  | .int8Array => keepField arrowField
      (handlePrimitiveArrayType .int8Array builder row i (.list .int64) .i64)
  | .float4Array => keepField arrowField
      (handlePrimitiveArrayType .float4Array builder row i (.list .float32) .f32)
  | .float8Array => keepField arrowField
      (handlePrimitiveArrayType .float8Array builder row i (.list .float64) .f64)
  | .textArray => keepField arrowField
      (handlePrimitiveArrayType .textArray builder row i (.list .string) .string)
  | .boolArray => keepField arrowField
      (handlePrimitiveArrayType .boolArray builder row i (.list .boolean) .bool)
  | .composite n fields => keepField arrowField (appendComposite builder (.composite n fields) fields row i)
  | .other name => .error (.panic (.unimplemented
      ("Unsupported type " ++ name ++ " for column index " ++ toString i)))

/-! ## The loops -/

/-- One iteration of the loop over the columns: read the field and builder slots at index `i`, run
the arm, and write both slots back. -/
def appendColumn (columnNames : List String) (row : Row) :
    List (Option Field) × List (Option ArrayData) → Nat × PgType →
      Step (List (Option Field) × List (Option ArrayData))
  | (arrowFields, builders), (i, postgresType) => do
    let some builder := builders[i]? | throw (.err (.noBuilderForIndex i))
    let some arrowField := arrowFields[i]? | throw (.err (.noArrowFieldForIndex i))
    let (arrowField, builder) ← appendCell columnNames row i postgresType arrowField builder
    pure (arrowFields.set i arrowField, builders.set i builder)

/-- One iteration of the loop over the rows. -/
def appendRow (postgresTypes : List PgType) (columnNames : List String)
    (state : List (Option Field) × List (Option ArrayData)) (row : Row) :
    Step (List (Option Field) × List (Option ArrayData)) :=
  postgresTypes.enum.foldlM (appendColumn columnNames row) state

/-- The slots a column of the first row starts with: its field and its builder. -/
def deriveColumn (column : Column) : Step (Option Field × Option ArrayData) := do
  let dataType ← mapColumnTypeToDataType column.type_
  pure (dataType.map (Field.new column.name · true), mapDataTypeToArrayBuilderOptional dataType)

/-- The function `rows_to_arrow`. The columns are those of the first row; the builders that exist
are finished in order and the fields that exist make the schema. -/
def rowsToArrow (rows : List Row) : Step RecordBatch := do
  let columns := (rows.head?.map Row.columns).getD []
  let slots ← columns.mapM deriveColumn
  let (arrowFields, builders) ← rows.foldlM
    (appendRow (columns.map Column.type_) (columns.map Column.name)) slots.unzip
  let arrays ← (builders.filterMap id).mapM ArrayData.finish
  match RecordBatch.tryNewWithOptions (arrowFields.filterMap id) arrays (some rows.length) with
  | .ok b => pure b
  | .error e => throw (.err (.failedToBuildRecordBatch e))

end SpiceAi.Postgres
