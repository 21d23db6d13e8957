import SpiceAi.Arrow.Array
import SpiceAi.Postgres.Numeric

/-!
# PostgreSQL types, rows and the schema mapper

`PgType` is tokio-postgres's `Type` as `rows_to_arrow` tells types apart: the constants it matches
by name, a composite type with its fields, and every other type under its name. A `Row` holds
the decoded value of each cell; `Row.tryGet` is `row.try_get::<_, Option<T>>(i)`, where the
requested Rust type `T` is a decoder of those values, and a value of another shape is tokio-postgres's
`WrongType` error.

`mapColumnTypeToDataType` is `map_column_type_to_data_type`, panics included, and
`columnsToSchema` is `columns_to_schema`.
-/

namespace SpiceAi.Postgres

open Arrow

mutual
/-- tokio-postgres's `Type`. `composite` is any type of kind `Kind::Composite`; `other` is every
type that is neither one of the named constants nor a composite: `bytea`, `json`, `interval`, the
other array types, enums, domains, ranges. -/
inductive PgType where
  | int2 | int4 | int8 | float4 | float8 | text | varchar | bpchar | bool | numeric
  | timestamp | timestamptz | date | uuid
  | int2Array | int4Array | int8Array | float4Array | float8Array | textArray | boolArray
  | composite (name : String) (fields : List PgField)
  | other (name : String)

/-- A field of a composite type: postgres-types' `Field`, a name and a type. -/
inductive PgField where
  | mk (name : String) (type_ : PgType)
end

/-- The field's name. -/
def PgField.name : PgField → String
  | .mk n _ => n

/-- The field's type. -/
def PgField.type_ : PgField → PgType
  | .mk _ t => t

/-- A column of a result set: tokio-postgres's `Column`. -/
structure Column where
  name : String
  type_ : PgType

/-- A non-NULL cell value, as the driver reads it from the wire. Integers of every width are
`int`; a float is its bit pattern; a NUMERIC keeps its raw bytes, which `BigDecimalFromSql::from_sql`
decodes; a timestamp is a `SystemTime`, counted in microseconds from the Unix epoch; a date counts
days from the Unix epoch; a UUID is its 16 bytes; an array holds its elements and a composite its
field values, in the order of the type's fields. -/
inductive Datum where
  | int (v : Int)
  | float (bits : Nat)
  | text (s : String)
  | bool (b : Bool)
  | bytes (b : List UInt8)
  | numeric (raw : List UInt8)
  | time (micros : Int)
  | date (days : Int)
  | uuid (bytes : List UInt8)
  | array (items : List (Option Datum))
  | composite (values : List (Option Datum))

/-- A row of a result set: its columns and one cell per column, `none` for SQL NULL. -/
structure Row where
  columns : List Column
  cells : List (Option Datum)
  cells_length : cells.length = columns.length

/-- tokio-postgres's `Error`, as `try_get` returns it. -/
inductive DriverError where
  /-- No column of that name or index. -/
  | columnNotFound (column : String)
  /-- The value cannot be read as the requested Rust type. -/
  | wrongType
  /-- The requested type's `from_sql` failed. -/
  | fromSql (source : FromSqlError)

/-- A driver call: an `Err` is a `DriverError`, and a panic inside `from_sql` propagates. -/
abbrev Fetch (α : Type) := Except (Exit DriverError) α

/-- The call `row.try_get::<_, Option<T>>(i)`: NULL is `None`, and a value is read by `decode`,
the `FromSql` implementation of `T`. -/
def Row.tryGet {α : Type} (row : Row) (i : Nat) (decode : Datum → Fetch α) : Fetch (Option α) :=
  match row.cells[i]? with
  | none => .error (.err (.columnNotFound (toString i)))
  | some none => .ok none
  | some (some d) => (decode d).map some

/-- The value cell `i` holds when it is read by `decode`: `none` for SQL NULL, and for a cell that
is missing or that `decode` refuses. -/
def Row.value {α : Type} (row : Row) (i : Nat) (decode : Datum → Fetch α) : Option α :=
  match row.cells[i]? with
  | some (some d) => (decode d).toOption
  | _ => none

/-- A fetch that returns `Ok` returns the cell's value. -/
theorem tryGet_eq_ok {α : Type} {row : Row} {i : Nat} {decode : Datum → Fetch α} {v : Option α}
    (h : row.tryGet i decode = .ok v) : v = row.value i decode := by
  unfold Row.tryGet at h
  unfold Row.value
  split at h
  · cases h
  · rename_i hc; cases h; simp [hc]
  · rename_i d hc
    rw [hc]
    cases hd : decode d <;> simp_all [Except.map, Except.toOption]

/-- The Rust value types the primitive arms and the composite arm request. -/
inductive ValueType where
  | bool | i8 | i16 | i32 | i64 | u32 | f32 | f64 | bytes | str | string

/-- The `FromSql` of a primitive value type, into the scalar its builder appends. -/
def ValueType.decode : ValueType → Datum → Fetch Scalar
  | .bool, .bool b => .ok (.bool b)
  | .i8, .int v | .i16, .int v | .i32, .int v | .i64, .int v | .u32, .int v => .ok (.int v)
  | .f32, .float x | .f64, .float x => .ok (.float x)
  | .bytes, .bytes b => .ok (.bytes b)
  | .str, .text s | .string, .text s => .ok (.str s)
  | _, _ => .error (.err .wrongType)

/-- The `FromSql` of `&str`, kept as a string. -/
def decodeText : Datum → Fetch String
  | .text s => .ok s
  | _ => .error (.err .wrongType)

/-- The `FromSql` of `BigDecimalFromSql`: the repository's decoder on the raw bytes. -/
def decodeBigDecimal : Datum → Fetch BigDecimalFromSql
  | .numeric raw => withContext .fromSql (fromSql raw)
  | _ => .error (.err .wrongType)

/-- The `FromSql` of `SystemTime`, in microseconds from the Unix epoch. -/
def decodeTime : Datum → Fetch Int
  | .time t => .ok t
  | _ => .error (.err .wrongType)

/-- The `FromSql` of `chrono::NaiveDate`, in days from the Unix epoch. -/
def decodeDate : Datum → Fetch Int
  | .date d => .ok d
  | _ => .error (.err .wrongType)

/-- The `FromSql` of `uuid::Uuid`: its 16 bytes. -/
def decodeUuid : Datum → Fetch (List UInt8)
  | .uuid b => if b.length = 16 then .ok b else .error (.err .wrongType)
  | _ => .error (.err .wrongType)

/-- The `FromSql` of `Vec<T>`: a one-dimensional array whose elements are all non-NULL and read
as `T`. -/
def decodeVec (item : ValueType) : Datum → Fetch (List Scalar)
  | .array items => items.mapM fun
    | some d => item.decode d
    | none => .error (.err .wrongType)
  | _ => .error (.err .wrongType)

/-- A composite value: the fields of its type and their values, as `CompositeType` holds them. -/
structure CompositeValue where
  fields : List PgField
  values : List (Option Datum)

/-- Modelled from the spec: the `FromSql` of the repository's `composite::CompositeType`, whose
module is not in src/, for a column of composite type with these fields. A composite value holds
one value per field of its type, in the type's order. -/
def decodeComposite (fields : List PgField) : Datum → Fetch CompositeValue
  | .composite values =>
      if values.length = fields.length then .ok ⟨fields, values⟩ else .error (.err .wrongType)
  | _ => .error (.err .wrongType)

/-- Modelled from the spec: the call `composite_type.try_get::<Option<T>>(field_name)` of
`composite::CompositeType`. The first field of that name is read as `T`, NULL being `None`; a name
the type lacks is an error. -/
def CompositeValue.tryGet {α : Type} (c : CompositeValue) (name : String) (decode : Datum → Fetch α) :
    Fetch (Option α) :=
  match c.fields.findIdx? (·.name == name) with
  | none => .error (.err (.columnNotFound name))
  | some idx => match c.values[idx]? with
    | some (some d) => (decode d).map some
    | _ => .ok none

/-- The hexadecimal digit of a nibble. -/
def hexDigit (n : Nat) : Char :=
  if n < 10 then Char.ofNat (48 + n) else Char.ofNat (87 + n)

/-- The call `Uuid::to_string()`: lowercase hexadecimal, hyphenated 8-4-4-4-12. -/
def uuidToString (bytes : List UInt8) : String :=
  let hex := bytes.flatMap fun b => [hexDigit (b.toNat / 16), hexDigit (b.toNat % 16)]
  String.mk (hex.take 8 ++ ['-'] ++ (hex.drop 8).take 4 ++ ['-'] ++ (hex.drop 12).take 4 ++
    ['-'] ++ (hex.drop 16).take 4 ++ ['-'] ++ hex.drop 20)

/-! ## The schema mapper -/

/-- The element field arrow's `DataType::List` carries for a primitive array. -/
def itemField (d : DataType) : Field :=
  Field.new "item" d true

mutual
/-- The function `map_column_type_to_data_type`. NUMERIC is `None`, its scale being read from the
first row; a composite maps field by field; every other type panics. The panic message formats the
type with `{:?}`, tokio-postgres's `Debug`, which src/ does not hold: the model writes the type's
name there. -/
def mapColumnTypeToDataType {ε : Type} : PgType → Except (Exit ε) (Option DataType)
  | .int2 => .ok (some .int16)
  | .int4 => .ok (some .int32)
  | .int8 => .ok (some .int64)
  | .float4 => .ok (some .float32)
  | .float8 => .ok (some .float64)
  | .text | .varchar | .bpchar | .uuid => .ok (some .utf8)
  | .bool => .ok (some .boolean)
  | .numeric => .ok none
  | .timestamp | .timestamptz => .ok (some (.timestamp .millisecond none))
  | .date => .ok (some .date32)
  | .int2Array => .ok (some (.list (itemField .int16)))
  | .int4Array => .ok (some (.list (itemField .int32)))
  | .int8Array => .ok (some (.list (itemField .int64)))
  | .float4Array => .ok (some (.list (itemField .float32)))
  | .float8Array => .ok (some (.list (itemField .float64)))
  | .textArray => .ok (some (.list (itemField .utf8)))
  | .boolArray => .ok (some (.list (itemField .boolean)))
  | .composite _ fields => do
      let arrowFields ← mapCompositeFields fields
      pure (some (.struct arrowFields))
  | .other name => .error (.panic (.unimplemented ("Unsupported column type " ++ name)))

/-- The loop over a composite's fields: a field whose type maps to `None` panics, the message
formatting that `None`. -/
def mapCompositeFields {ε : Type} : List PgField → Except (Exit ε) (List Field)
  | [] => .ok []
  | .mk name type_ :: rest => do
      match ← mapColumnTypeToDataType type_ with
      | some fieldType => pure (Field.new name fieldType true :: (← mapCompositeFields rest))
      | none => throw (.panic (.unimplemented "Unsupported column type in nested struct None"))
end

/-- The function `columns_to_schema`: one nullable field per column whose type maps to a data type;
the other columns are dropped. -/
def columnsToSchema {ε : Type} (cols : List Column) : Except (Exit ε) (List Field) := do
  let arrowFields ← cols.mapM fun column => do
    let dataType ← mapColumnTypeToDataType column.type_
    pure (dataType.map (Field.new column.name · true))
  pure (arrowFields.filterMap id)

end SpiceAi.Postgres
