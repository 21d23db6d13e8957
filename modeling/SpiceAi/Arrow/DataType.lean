import SpiceAi.Rust

/-!
# Arrow data types and fields

The canonical type system of the columnar layer: arrow's `DataType`, restricted to the
constructors the connectors produce or inspect, and `Field`, a named, nullable, typed column
with its metadata map. Every other arrow type is `DataType.other`, named by its arrow name, so
that a record batch may hold columns of any type.

`DataType` and `Field` are nested (a struct type holds a list of fields), which the
`DecidableEq` deriving handler of this toolchain refuses. `DataType.beq` is the structural
equality test that arrow's derived `PartialEq` performs, and `DataType.beq_iff_eq` shows that it
decides equality.
-/

namespace SpiceAi.Arrow

/-- arrow's `TimeUnit`. -/
inductive TimeUnit where
  | second | millisecond | microsecond | nanosecond
  deriving DecidableEq, Repr

mutual
/-- arrow's `DataType`. `decimal128 precision scale` is `Decimal128(u8, i8)`. -/
inductive DataType where
  | boolean | int8 | int16 | int32 | int64 | uint32 | float32 | float64
  | utf8 | largeUtf8 | binary | largeBinary | date32
  | timestamp (unit : TimeUnit) (tz : Option String)
  | decimal128 (precision : Nat) (scale : Int)
  | list (item : Field)
  | struct (fields : List Field)
  | other (name : String)

/-- arrow's `Field`: a name, a data type, a nullability flag and a metadata map, listed as
key/value pairs. -/
inductive Field where
  | mk (name : String) (dataType : DataType) (nullable : Bool) (metadata : List (String × String))
end

namespace Field

/-- The field's name. -/
def name : Field → String
  | mk n _ _ _ => n

/-- The field's data type. -/
def dataType : Field → DataType
  | mk _ d _ _ => d

/-- Whether the field may hold nulls. -/
def nullable : Field → Bool
  | mk _ _ b _ => b

/-- The field's metadata, as key/value pairs. -/
def metadata : Field → List (String × String)
  | mk _ _ _ m => m

/-- Arrow's `Field::new(name, data_type, nullable)`: a field with empty metadata. -/
def new (name : String) (dataType : DataType) (nullable : Bool) : Field :=
  mk name dataType nullable []

@[simp] theorem name_new (n : String) (d : DataType) (b : Bool) : (new n d b).name = n := rfl
@[simp] theorem dataType_new (n : String) (d : DataType) (b : Bool) :
    (new n d b).dataType = d := rfl
@[simp] theorem nullable_new (n : String) (d : DataType) (b : Bool) :
    (new n d b).nullable = b := rfl

/-- Arrow's `field.metadata().get(key)`. -/
def metadataGet (f : Field) (key : String) : Option String :=
  f.metadata.lookup key

end Field

/-- A time unit as arrow's derived `Debug` prints it. -/
def TimeUnit.debug : TimeUnit → String
  | .second => "Second"
  | .millisecond => "Millisecond"
  | .microsecond => "Microsecond"
  | .nanosecond => "Nanosecond"

mutual
/-- The text of a data type where a panic message formats it with `{:?}`: the variant of arrow's
derived `Debug`, with its parameters. A nested field is written by its data type, arrow's printer
of `Field` not being in src/. -/
def DataType.debug : DataType → String
  | .boolean => "Boolean"
  | .int8 => "Int8"
  | .int16 => "Int16"
  | .int32 => "Int32"
  | .int64 => "Int64"
  | .uint32 => "UInt32"
  | .float32 => "Float32"
  | .float64 => "Float64"
  | .utf8 => "Utf8"
  | .largeUtf8 => "LargeUtf8"
  | .binary => "Binary"
  | .largeBinary => "LargeBinary"
  | .date32 => "Date32"
  | .timestamp u none => "Timestamp(" ++ u.debug ++ ", None)"
  | .timestamp u (some tz) => "Timestamp(" ++ u.debug ++ ", Some(\"" ++ tz ++ "\"))"
  | .decimal128 p s => "Decimal128(" ++ toString p ++ ", " ++ toString s ++ ")"
  | .list f => "List(" ++ Field.debug f ++ ")"
  | .struct fs => "Struct([" ++ Field.debugList fs ++ "])"
  | .other n => n

/-- The text of a field inside a data type's: its data type's. -/
def Field.debug : Field → String
  | .mk _ d _ _ => DataType.debug d

/-- The texts of fields, separated by commas. -/
def Field.debugList : List Field → String
  | [] => ""
  | [f] => Field.debug f
  | f :: fs => Field.debug f ++ ", " ++ Field.debugList fs
end

mutual
/-- Structural equality of data types, as arrow's derived `PartialEq` compares them. -/
def DataType.beq : DataType → DataType → Bool
  | .boolean, d => (d matches .boolean)
  | .int8, d => (d matches .int8)
  | .int16, d => (d matches .int16)
  | .int32, d => (d matches .int32)
  | .int64, d => (d matches .int64)
  | .uint32, d => (d matches .uint32)
  | .float32, d => (d matches .float32)
  | .float64, d => (d matches .float64)
  | .utf8, d => (d matches .utf8)
  | .largeUtf8, d => (d matches .largeUtf8)
  | .binary, d => (d matches .binary)
  | .largeBinary, d => (d matches .largeBinary)
  | .date32, d => (d matches .date32)
  | .timestamp u z, d => match d with
    | .timestamp u' z' => u == u' && z == z'
    | _ => false
  | .decimal128 p s, d => match d with
    | .decimal128 p' s' => p == p' && s == s'
    | _ => false
  | .list f, d => match d with
    | .list f' => Field.beq f f'
    | _ => false
  | .struct fs, d => match d with
    | .struct fs' => Field.beqList fs fs'
    | _ => false
  | .other n, d => match d with
    | .other n' => n == n'
    | _ => false

/-- Structural equality of fields. -/
def Field.beq : Field → Field → Bool
  | .mk n d b m, .mk n' d' b' m' => n == n' && DataType.beq d d' && b == b' && m == m'

/-- Structural equality of field lists. -/
def Field.beqList : List Field → List Field → Bool
  | [], fs' => fs'.isEmpty
  | f :: fs, fs' => match fs' with
    | f' :: fs' => Field.beq f f' && Field.beqList fs fs'
    | [] => false
end

mutual
theorem DataType.beq_self : ∀ d : DataType, DataType.beq d d = true
  | .boolean | .int8 | .int16 | .int32 | .int64 | .uint32 | .float32 | .float64 | .utf8
  | .largeUtf8 | .binary | .largeBinary | .date32 | .timestamp _ _ | .decimal128 _ _
  | .other _ => by simp [DataType.beq]
  | .list f => by simpa [DataType.beq] using Field.beq_self f
  | .struct fs => by simpa [DataType.beq] using Field.beqList_self fs

theorem Field.beq_self : ∀ f : Field, Field.beq f f = true
  | .mk _ d _ _ => by simpa [Field.beq] using DataType.beq_self d

theorem Field.beqList_self : ∀ fs : List Field, Field.beqList fs fs = true
  | [] => rfl
  | f :: fs => by simp [Field.beqList, Field.beq_self f, Field.beqList_self fs]
end

mutual
theorem DataType.eq_of_beq : ∀ {d d' : DataType}, DataType.beq d d' = true → d = d'
  | .boolean, d', h | .int8, d', h | .int16, d', h | .int32, d', h | .int64, d', h
  | .uint32, d', h | .float32, d', h | .float64, d', h | .utf8, d', h | .largeUtf8, d', h
  | .binary, d', h | .largeBinary, d', h | .date32, d', h | .timestamp _ _, d', h
  | .decimal128 _ _, d', h | .other _, d', h => by
      cases d' <;> simp_all [DataType.beq]
  | .list f, d', h => by
      cases d' <;> simp only [DataType.beq, Bool.false_eq_true] at h
      rw [Field.eq_of_beq h]
  | .struct fs, d', h => by
      cases d' <;> simp only [DataType.beq, Bool.false_eq_true] at h
      rw [Field.eq_of_beqList h]

theorem Field.eq_of_beq : ∀ {f f' : Field}, Field.beq f f' = true → f = f'
  | .mk _ d _ _, .mk _ d' _ _, h => by
      simp only [Field.beq, Bool.and_eq_true, beq_iff_eq] at h
      rw [h.1.1.1, DataType.eq_of_beq h.1.1.2, h.1.2, h.2]

theorem Field.eq_of_beqList : ∀ {fs fs' : List Field}, Field.beqList fs fs' = true → fs = fs'
  | [], fs', h => by simpa [Field.beqList] using h.symm
  | f :: fs, fs', h => by
      cases fs' with
      | nil => simp [Field.beqList] at h
      | cons f' fs' =>
          simp only [Field.beqList, Bool.and_eq_true] at h
          rw [Field.eq_of_beq h.1, Field.eq_of_beqList h.2]
end

theorem DataType.beq_iff_eq {d d' : DataType} : DataType.beq d d' = true ↔ d = d' :=
  ⟨DataType.eq_of_beq, fun h => h ▸ DataType.beq_self d⟩

instance : DecidableEq DataType := fun _ _ => decidable_of_iff _ DataType.beq_iff_eq

end SpiceAi.Arrow
