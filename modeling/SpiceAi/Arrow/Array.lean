import SpiceAi.Arrow.DataType

/-!
# Arrow arrays, builders and record batches

`ArrayData` is an arrow array, and equally the content of the builder that finishes into it: a
builder is an append-only buffer, and `finish` hands its content over as an array. A leaf holds
one optional scalar per entry (`none` is a null). A struct array holds its fields, one child
array per field, and its own validity bitmap.

The connectors reach builders and arrays through `as_any().downcast_*::<T>()`; `ArrayKind` names
the Rust type `T`, and `ArrayKind.accepts` is the data type a value of `T` carries.

`RecordBatch` carries arrow's invariants as fields: one column per field, every column of the
batch's row count, column and field types equal, no nulls in a non-nullable column, and every
array well formed. `RecordBatch.tryNewWithOptions` is arrow's `try_new_with_options`, with its
checks in arrow's order.
-/

namespace SpiceAi.Arrow

/-- A value held by one entry of a leaf array. Integers of every width, decimals, dates and
timestamps are `int`; a float is its bit pattern; a list entry holds its items. -/
inductive Scalar where
  | bool (b : Bool)
  | int (v : Int)
  | float (bits : Nat)
  | str (s : String)
  | bytes (b : List UInt8)
  | list (items : List (Option Scalar))

/-- An arrow array, or the content of a builder. -/
inductive ArrayData where
  | leaf (dataType : DataType) (entries : List (Option Scalar))
  | struct (fields : List Field) (children : List ArrayData) (validity : List Bool)

namespace ArrayData

/-- Arrow's `len()`: the number of entries. -/
def len : ArrayData → Nat
  | leaf _ es => es.length
  | struct _ _ v => v.length

/-- Arrow's `data_type()`. -/
def dataType : ArrayData → DataType
  | leaf d _ => d
  | struct fs _ _ => .struct fs

/-- Arrow's `null_count()`. -/
def nullCount : ArrayData → Nat
  | leaf _ es => es.countP Option.isNone
  | struct _ _ v => v.count false

/-- Arrow's `is_null(i)`. -/
def isNull : ArrayData → Nat → Bool
  | leaf _ es, i => match es[i]? with
    | some none => true
    | _ => false
  | struct _ _ v, i => v[i]? == some false

@[simp] theorem len_leaf (d : DataType) (es : List (Option Scalar)) :
    (leaf d es).len = es.length := rfl
@[simp] theorem len_struct (fs : List Field) (cs : List ArrayData) (v : List Bool) :
    (struct fs cs v).len = v.length := rfl
@[simp] theorem dataType_leaf (d : DataType) (es : List (Option Scalar)) :
    (leaf d es).dataType = d := rfl
@[simp] theorem dataType_struct (fs : List Field) (cs : List ArrayData) (v : List Bool) :
    (struct fs cs v).dataType = .struct fs := rfl

mutual
/-- The invariant arrow keeps for every array it builds: a struct array has one child per field,
of the field's type and of the struct's length, and its children are well formed. -/
def wellFormed : ArrayData → Bool
  | leaf _ _ => true
  | struct fs cs v => cs.length == fs.length && childrenWellFormed fs cs v.length

/-- The children of a struct array of length `n` against its fields. -/
def childrenWellFormed : List Field → List ArrayData → Nat → Bool
  | f :: fs, c :: cs, n =>
      c.len == n && c.dataType == f.dataType && c.wellFormed && childrenWellFormed fs cs n
  | _, _, _ => true
end

@[simp] theorem wellFormed_leaf (d : DataType) (es : List (Option Scalar)) :
    (leaf d es).wellFormed = true := by
  simp [wellFormed]

/-- Arrow's `finish()`. arrow's `StructBuilder::finish` panics unless every child builder has the
struct's length; the struct's children are finished the same way. -/
def finish {ε : Type} (a : ArrayData) : Except (Exit ε) ArrayData :=
  if a.wellFormed then .ok a else .error (.panic .unequalLengths)

@[simp] theorem finish_leaf {ε : Type} (d : DataType) (es : List (Option Scalar)) :
    (finish (leaf d es) : Except (Exit ε) ArrayData) = .ok (leaf d es) := by
  simp [finish]

/-- Arrow's `append_value(v)` on a leaf builder. -/
def appendValue : ArrayData → Scalar → ArrayData
  | leaf d es, v => leaf d (es ++ [some v])
  | a, _ => a

/-- Arrow's `append_null()` on a leaf builder; on a struct builder, `append_null()` marks the struct entry
null and leaves the child builders as they are. -/
def appendNull : ArrayData → ArrayData
  | leaf d es => leaf d (es ++ [none])
  | struct fs cs v => struct fs cs (v ++ [false])

/-- Arrow's `append(true)` on a struct builder: a valid struct entry, children untouched. -/
def appendValid : ArrayData → ArrayData
  | struct fs cs v => struct fs cs (v ++ [true])
  | a => a

/-- Append an optional value: `Some(v) => append_value(v), None => append_null()`. -/
def appendOption (a : ArrayData) : Option Scalar → ArrayData
  | some v => a.appendValue v
  | none => a.appendNull

@[simp] theorem appendOption_leaf (d : DataType) (es : List (Option Scalar)) (v : Option Scalar) :
    (leaf d es).appendOption v = leaf d (es ++ [v]) := by
  cases v <;> rfl

@[simp] theorem dataType_appendOption (a : ArrayData) (v : Option Scalar) :
    (a.appendOption v).dataType = a.dataType := by
  cases a <;> cases v <;> rfl

end ArrayData

/-- The Rust type named by a downcast: a builder type (`Int16Builder`, `ListBuilder<...>`,
`StructBuilder`) or the array type it finishes into (`Int16Array`, `StructArray`). -/
inductive ArrayKind where
  | boolean | int8 | int16 | int32 | int64 | uint32 | float32 | float64
  | binary | largeBinary | string | largeString | date32 | timestampMillisecond | decimal128
  | list (values : ArrayKind)
  | struct
  deriving DecidableEq, Repr

/-- Whether a builder or array of data type `d` is a value of the Rust type the kind names. -/
def ArrayKind.accepts : ArrayKind → DataType → Bool
  | .boolean, d => (d matches .boolean)
  | .int8, d => (d matches .int8)
  | .int16, d => (d matches .int16)
  | .int32, d => (d matches .int32)
  | .int64, d => (d matches .int64)
  | .uint32, d => (d matches .uint32)
  | .float32, d => (d matches .float32)
  | .float64, d => (d matches .float64)
  | .binary, d => (d matches .binary)
  | .largeBinary, d => (d matches .largeBinary)
  | .string, d => (d matches .utf8)
  | .largeString, d => (d matches .largeUtf8)
  | .date32, d => (d matches .date32)
  | .timestampMillisecond, d => (d matches .timestamp .millisecond _)
  | .decimal128, d => (d matches .decimal128 _ _)
  | .list k, .list f => k.accepts f.dataType
  | .list _, _ => false
  | .struct, d => (d matches .struct _)

namespace ArrayData

/-- Arrow's `as_any_mut().downcast_mut::<T>()` on a leaf builder: the builder back when it is a `T`. -/
def downcast (k : ArrayKind) (a : ArrayData) : Option ArrayData :=
  if k.accepts a.dataType then some a else none

theorem downcast_eq_some {k : ArrayKind} {a a' : ArrayData} :
    a.downcast k = some a' ↔ k.accepts a.dataType ∧ a = a' := by
  unfold downcast
  split_ifs with h <;> simp [h]

/-- Arrow's `as_any().downcast_ref::<StructArray>()`: a struct array's children and validity. -/
def asStruct : ArrayData → Option (List ArrayData × List Bool)
  | struct _ cs v => some (cs, v)
  | leaf _ _ => none

/-- The integer in slot `i` of a primitive array. A null slot reads 0, the value arrow's builders
write under a null. -/
def slot : ArrayData → Nat → Int
  | leaf _ es, i => match es[i]? with
    | some (some (.int v)) => v
    | _ => 0
  | struct _ _ _, _ => 0

/-- Arrow's `value(i)` on a primitive array, which panics past the end. -/
def value {ε : Type} (a : ArrayData) (i : Nat) : Except (Exit ε) Int :=
  if i < a.len then .ok (a.slot i) else .error (.panic (.indexOutOfBounds i a.len))

theorem value_of_lt {ε : Type} {a : ArrayData} {i : Nat} (h : i < a.len) :
    (a.value i : Except (Exit ε) Int) = .ok (a.slot i) :=
  if_pos h

/-- The children of a well-formed struct array have the struct's length. -/
theorem len_of_wellFormed {fs : List Field} {cs : List ArrayData} {v : List Bool}
    (h : (struct fs cs v).wellFormed = true) : ∀ c ∈ cs, c.len = v.length := by
  simp only [wellFormed, Bool.and_eq_true, beq_iff_eq] at h
  obtain ⟨hlen, h⟩ := h
  induction cs generalizing fs with
  | nil => simp
  | cons c cs ih =>
    obtain _ | ⟨f, fs⟩ := fs
    · simp at hlen
    · simp only [childrenWellFormed, Bool.and_eq_true, beq_iff_eq] at h
      simp only [List.mem_cons, forall_eq_or_imp]
      exact ⟨h.1.1.1, ih (by simpa using hlen) h.2⟩

/-- Arrow's `field_builder::<T>(idx)` on a struct builder. -/
def fieldBuilder (k : ArrayKind) (idx : Nat) : ArrayData → Option ArrayData
  | struct _ cs _ => cs[idx]?.bind (downcast k)
  | leaf _ _ => none

/-- Replace the child builder at `idx` of a struct builder. -/
def setChild (idx : Nat) (c : ArrayData) : ArrayData → ArrayData
  | struct fs cs v => struct fs (cs.set idx c) v
  | a => a

end ArrayData

/-- arrow's `ArrowError`, restricted to the errors `RecordBatch::try_new_with_options` returns. -/
inductive ArrowError where
  /-- Message "number of columns({}) must match number of fields({}) in schema" -/
  | columnCountMismatch (columns fields : Nat)
  /-- Message "must either specify a row count or at least one column" -/
  | noRowCount
  /-- Message "Column '{}' is declared as non-nullable but contains null values" -/
  | nonNullableHasNulls (name : String)
  /-- Message "all columns in a record batch must have the specified row count", or "... the same
  length" when no row count was given. -/
  | unequalRowCount (specified : Bool)
  /-- Message "column types must match schema types, expected {:?} but found {:?} at column index {}" -/
  | columnTypeMismatch (expected found : DataType) (index : Nat)
  /-- Arrays that arrow's builders never produce. -/
  | invalidArrayData

/-- A record batch with arrow's invariants. -/
structure RecordBatch where
  schema : List Field
  columns : List ArrayData
  numRows : Nat
  length_columns : columns.length = schema.length
  len_column : ∀ c ∈ columns, c.len = numRows
  dataType_column : ∀ p ∈ columns.zip schema, p.1.dataType = p.2.dataType
  nonNullable : ∀ p ∈ columns.zip schema, p.2.nullable = false → p.1.nullCount = 0
  wellFormed_column : ∀ c ∈ columns, c.wellFormed = true

namespace RecordBatch

/-- Whether a column may sit under a field: a nullable field, or a column without nulls. -/
def nullableOk (p : ArrayData × Field) : Bool :=
  p.2.nullable || p.1.nullCount == 0

/-- The first column whose type is not its field's, with its index. -/
def firstTypeMismatch (columns : List ArrayData) (schema : List Field) : ArrowError :=
  match ((columns.zip schema).enum.find? fun p => p.2.1.dataType != p.2.2.dataType) with
  | some (i, c, f) => .columnTypeMismatch f.dataType c.dataType i
  | none => .invalidArrayData

/-- Arrow's `RecordBatch::try_new_with_options(schema, columns, options)`: the field count, the row count
(the option's, else the first column's), nullability, row counts and types are checked in this
order. `match_field_names` is arrow's default, so types are compared with `==`. -/
def tryNewWithOptions (schema : List Field) (columns : List ArrayData) (rowCount : Option Nat) :
    Except ArrowError RecordBatch :=
  if hlen : columns.length = schema.length then
    match rowCount <|> columns.head?.map ArrayData.len with
    | none => .error .noRowCount
    | some n =>
      if hnull : (columns.zip schema).all nullableOk then
        if hrows : columns.all (fun c => c.len == n) then
          if htype : (columns.zip schema).all (fun p => p.1.dataType == p.2.dataType) then
            if hwf : columns.all ArrayData.wellFormed then
              .ok { schema, columns, numRows := n, length_columns := hlen
                    len_column := by simpa using hrows
                    dataType_column := by simpa using htype
                    nonNullable := fun p hp hn => by
                      simpa [nullableOk, hn] using List.all_eq_true.mp hnull p hp
                    wellFormed_column := List.all_eq_true.mp hwf }
            else .error .invalidArrayData
          else .error (firstTypeMismatch columns schema)
        else .error (.unequalRowCount rowCount.isSome)
      else .error (.nonNullableHasNulls
        (((columns.zip schema).find? (! nullableOk ·)).map (·.2.name) |>.getD ""))
  else .error (.columnCountMismatch columns.length schema.length)

/-- Arrow's `RecordBatch::try_new(schema, columns)`: no row count is given. -/
def tryNew (schema : List Field) (columns : List ArrayData) : Except ArrowError RecordBatch :=
  tryNewWithOptions schema columns none

/-- A batch that `try_new_with_options` returns has the schema and the columns it was given. -/
theorem tryNewWithOptions_ok {schema : List Field} {columns : List ArrayData}
    {rowCount : Option Nat} {b : RecordBatch}
    (h : tryNewWithOptions schema columns rowCount = .ok b) :
    b.schema = schema ∧ b.columns = columns ∧
      b.numRows = (rowCount <|> columns.head?.map ArrayData.len) := by
  unfold tryNewWithOptions at h
  split at h
  · split at h
    · cases h
    · rename_i n hn
      split at h
      · split at h
        · split at h
          · split at h
            · cases h
              exact ⟨rfl, rfl, hn.symm⟩
            · cases h
          · cases h
        · cases h
      · cases h
  · cases h

/-- The checks of `try_new_with_options`, given a row count, pass exactly when the columns fit
the schema; the batch then holds the given schema and columns. -/
theorem tryNewWithOptions_of_valid {schema : List Field} {columns : List ArrayData} {n : Nat}
    (hlen : columns.length = schema.length) (hrows : ∀ c ∈ columns, c.len = n)
    (htype : ∀ p ∈ columns.zip schema, p.1.dataType = p.2.dataType)
    (hnull : ∀ p ∈ columns.zip schema, nullableOk p = true)
    (hwf : ∀ c ∈ columns, c.wellFormed = true) :
    ∃ b, tryNewWithOptions schema columns (some n) = .ok b ∧
      b.schema = schema ∧ b.columns = columns ∧ b.numRows = n := by
  have hnull' : (columns.zip schema).all nullableOk = true := List.all_eq_true.mpr hnull
  have hrows' : columns.all (fun c => c.len == n) = true := by simpa using hrows
  have htype' : (columns.zip schema).all (fun p => p.1.dataType == p.2.dataType) = true := by
    simpa using htype
  have hwf' : columns.all ArrayData.wellFormed = true := List.all_eq_true.mpr hwf
  simp only [tryNewWithOptions, hlen, Option.some_orElse, hnull', hrows', htype', hwf',
    dite_true]
  exact ⟨_, rfl, rfl, rfl, rfl⟩

/-- The checks of `try_new`, which takes the row count from the first column, pass exactly when
the columns fit the schema; the batch then holds the given schema and columns. -/
theorem tryNew_of_valid {schema : List Field} {c : ArrayData} {cs : List ArrayData}
    (hlen : (c :: cs).length = schema.length) (hrows : ∀ c' ∈ c :: cs, c'.len = c.len)
    (htype : ∀ p ∈ (c :: cs).zip schema, p.1.dataType = p.2.dataType)
    (hnull : ∀ p ∈ (c :: cs).zip schema, nullableOk p = true)
    (hwf : ∀ c' ∈ c :: cs, c'.wellFormed = true) :
    ∃ b, tryNew schema (c :: cs) = .ok b ∧
      b.schema = schema ∧ b.columns = c :: cs ∧ b.numRows = c.len := by
  have hnull' : ((c :: cs).zip schema).all nullableOk = true := List.all_eq_true.mpr hnull
  have hrows' : (c :: cs).all (fun c' => c'.len == c.len) = true := by simpa using hrows
  have htype' : ((c :: cs).zip schema).all (fun p => p.1.dataType == p.2.dataType) = true := by
    simpa using htype
  have hwf' : (c :: cs).all ArrayData.wellFormed = true := List.all_eq_true.mpr hwf
  simp only [tryNew, tryNewWithOptions, hlen, List.head?_cons, Option.map_some',
    Option.none_orElse, hnull', hrows', htype', hwf', dite_true]
  exact ⟨_, rfl, rfl, rfl, rfl⟩

/-- Fields, at least one, each paired with a well-formed column of `n` rows that fits it, make a
batch of `n` rows. -/
theorem tryNew_of_pairs {pairs : List (Field × ArrayData)} {n : Nat} (hne : pairs ≠ [])
    (hall : ∀ r ∈ pairs, r.2.len = n ∧ r.2.dataType = r.1.dataType ∧
      nullableOk (r.2, r.1) = true ∧ r.2.wellFormed = true) :
    ∃ b, tryNew (pairs.map Prod.fst) (pairs.map Prod.snd) = .ok b ∧
      b.schema = pairs.map Prod.fst ∧ b.columns = pairs.map Prod.snd ∧ b.numRows = n := by
  obtain ⟨p, ps, rfl⟩ := List.exists_cons_of_ne_nil hne
  have hp := (hall p (List.mem_cons_self p ps)).1
  have hzip := List.zip_map' Prod.snd Prod.fst (p :: ps)
  obtain ⟨b, hb, hs, hc, hn⟩ := @tryNew_of_valid ((p :: ps).map Prod.fst) p.2 (ps.map Prod.snd)
    (by simp)
    (show ∀ c ∈ (p :: ps).map Prod.snd, _ from
      List.forall_mem_map.mpr fun r hr => (hall r hr).1.trans hp.symm)
    (show ∀ q ∈ ((p :: ps).map Prod.snd).zip ((p :: ps).map Prod.fst), _ by
      rw [hzip]; exact List.forall_mem_map.mpr fun r hr => (hall r hr).2.1)
    (show ∀ q ∈ ((p :: ps).map Prod.snd).zip ((p :: ps).map Prod.fst), _ by
      rw [hzip]; exact List.forall_mem_map.mpr fun r hr => (hall r hr).2.2.1)
    (show ∀ c ∈ (p :: ps).map Prod.snd, _ from
      List.forall_mem_map.mpr fun r hr => (hall r hr).2.2.2)
  exact ⟨b, hb, hs, hc, hn.trans hp⟩

end RecordBatch

end SpiceAi.Arrow
