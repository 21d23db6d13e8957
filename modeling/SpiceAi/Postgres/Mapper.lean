import SpiceAi.Postgres.Arms

/-!
# The types the schema mapper takes

`map_column_type_to_data_type` never returns an error: it maps a type or it panics. It panics on
every type outside its list, and on a composite with a field of such a type or of type NUMERIC,
whose field would have no data type. `PgType.mapsToDataType` says which types it takes, and
`mapColumnTypeToDataType_outcome` proves it, over every nesting of composite types.

Both schema paths inherit this: `columns_to_schema` returns `Ok` exactly when every column's type
is taken and otherwise panics (`columnsToSchema_outcome`), and `rows_to_arrow` panics whenever a
column of the first row has a type the mapper does not take (`rowsToArrow_panics_of_unsupported`).
-/

namespace SpiceAi.Postgres

open Arrow

/-- Whether the type is NUMERIC, which maps to no data type. -/
def PgType.isNumeric : PgType → Bool
  | .numeric => true
  | _ => false

mutual
/-- Whether `map_column_type_to_data_type` maps the type without panicking. -/
def PgType.mapsToDataType : PgType → Bool
  | .composite _ fields => fieldsMapToDataType fields
  | .other _ => false
  | _ => true

/-- Whether every field of a composite maps to a data type: NUMERIC maps to none. -/
def fieldsMapToDataType : List PgField → Bool
  | [] => true
  | .mk _ t :: rest => t.mapsToDataType && !t.isNumeric && fieldsMapToDataType rest
end

/-- The outcome of a call that returns `Ok` exactly when `b` holds and panics otherwise. -/
def OkOrPanic {ε α : Type} (x : Except (Exit ε) α) (b : Bool) : Prop :=
  (b = true ∧ ∃ a, x = .ok a) ∨ (b = false ∧ ∃ p, x = .error (.panic p))

mutual
/-- The mapper returns a data type, or none, exactly on the types it takes, and panics on the
others. -/
theorem mapColumnTypeToDataType_outcome {ε : Type} :
    ∀ ty : PgType, OkOrPanic (mapColumnTypeToDataType ty : Except (Exit ε) (Option DataType))
      ty.mapsToDataType
  | .composite n fs => by
    rcases mapCompositeFields_outcome (ε := ε) fs with ⟨hf, l, hl⟩ | ⟨hf, p, hp⟩
    · exact .inl ⟨hf, some (.struct l), by simp [mapColumnTypeToDataType, hl]⟩
    · exact .inr ⟨hf, p, by simp [mapColumnTypeToDataType, hp]⟩
  | .other _ => .inr ⟨rfl, _, rfl⟩
  | .int2 | .int4 | .int8 | .float4 | .float8 | .text | .varchar | .bpchar | .bool | .numeric
  | .timestamp | .timestamptz | .date | .uuid | .int2Array | .int4Array | .int8Array
  | .float4Array | .float8Array | .textArray | .boolArray => .inl ⟨rfl, _, rfl⟩

/-- The loop over a composite's fields returns `Ok` exactly when every field maps to a data type. -/
theorem mapCompositeFields_outcome {ε : Type} :
    ∀ fs : List PgField, OkOrPanic (mapCompositeFields fs : Except (Exit ε) (List Field))
      (fieldsMapToDataType fs)
  | [] => .inl ⟨rfl, [], rfl⟩
  | .mk n t :: rest => by
    rcases mapColumnTypeToDataType_outcome (ε := ε) t with ⟨ht, d, hd⟩ | ⟨ht, p, hp⟩
    · cases d with
      | none =>
        obtain rfl : t = .numeric := by
          by_contra hne
          simpa using mapColumnTypeToDataType_isSome hd hne
        exact .inr ⟨by simp [fieldsMapToDataType, PgType.isNumeric], _,
          by simp [mapCompositeFields, hd]; rfl⟩
      | some d =>
        have hnum : t.isNumeric = false := by
          cases t <;> first | rfl | cases hd
        rcases mapCompositeFields_outcome (ε := ε) rest with ⟨hr, l, hl⟩ | ⟨hr, p, hp⟩
        · exact .inl ⟨by simp [fieldsMapToDataType, ht, hnum, hr], Field.new n d true :: l,
            by simp [mapCompositeFields, hd, hl]⟩
        · exact .inr ⟨by simp [fieldsMapToDataType, hr], p, by simp [mapCompositeFields, hd, hp]⟩
    · exact .inr ⟨by simp [fieldsMapToDataType, ht], p, by simp [mapCompositeFields, hp]⟩
end

/-- The function `columns_to_schema` returns `Ok` exactly when every column's type is one the
mapper takes, and otherwise panics; it never returns an `Err`. -/
theorem columnsToSchema_outcome {ε : Type} (cols : List Column) :
    ((∀ col ∈ cols, col.type_.mapsToDataType = true) ∧
        ∃ fs, (columnsToSchema cols : Except (Exit ε) (List Field)) = .ok fs) ∨
      ((∃ col ∈ cols, col.type_.mapsToDataType = false) ∧
        ∃ p, (columnsToSchema cols : Except (Exit ε) (List Field)) = .error (.panic p)) := by
  have hcol : ∀ col : Column, (col.type_.mapsToDataType = true ∧ ∃ o,
      (do let d ← (mapColumnTypeToDataType col.type_ : Except (Exit ε) (Option DataType))
          pure (d.map (Field.new col.name · true))) = .ok o) ∨
      (¬ col.type_.mapsToDataType = true ∧ ∃ p,
      (do let d ← (mapColumnTypeToDataType col.type_ : Except (Exit ε) (Option DataType))
          pure (d.map (Field.new col.name · true))) = .error (.panic p)) := by
    intro col
    rcases mapColumnTypeToDataType_outcome (ε := ε) col.type_ with ⟨h, d, hd⟩ | ⟨h, p, hp⟩
    · exact .inl ⟨h, _, by rw [hd]; rfl⟩
    · exact .inr ⟨by simp [h], p, by rw [hp]; rfl⟩
  unfold columnsToSchema
  rcases mapM_ok_or_panic hcol cols with ⟨hall, fs, hfs⟩ | ⟨⟨col, hcol, hbad⟩, p, hp⟩
  · exact .inl ⟨hall, _, by rw [hfs]; rfl⟩
  · exact .inr ⟨⟨col, hcol, by simpa using hbad⟩, p, by rw [hp]; rfl⟩

/-- The function `rows_to_arrow` panics when a column of the first row has a type the mapper does
not take, whatever the rows hold. -/
theorem rowsToArrow_panics_of_unsupported {row0 : Row} {rows : List Row}
    (h : ∃ col ∈ row0.columns, col.type_.mapsToDataType = false) :
    ∃ p, rowsToArrow (row0 :: rows) = .error (.panic p) := by
  have hcol : ∀ col : Column, (col.type_.mapsToDataType = true ∧ ∃ s, deriveColumn col = .ok s) ∨
      (¬ col.type_.mapsToDataType = true ∧ ∃ p, deriveColumn col = .error (.panic p)) := by
    intro col
    rcases mapColumnTypeToDataType_outcome (ε := Error) col.type_ with ⟨h, d, hd⟩ | ⟨h, p, hp⟩
    · exact .inl ⟨h, _, by rw [deriveColumn, hd]; rfl⟩
    · exact .inr ⟨by simp [h], p, by rw [deriveColumn, hp]; rfl⟩
  rcases mapM_ok_or_panic hcol row0.columns with ⟨hall, -⟩ | ⟨-, p, hp⟩
  · obtain ⟨col, hmem, hbad⟩ := h
    simp [hall col hmem] at hbad
  · exact ⟨p, by simp only [rowsToArrow, List.head?_cons, Option.map_some', Option.getD_some, hp,
      error_bind]⟩

/-- A `bytea` column in the first row. -/
theorem rowsToArrow_panics_on_bytea :
    (∃ col ∈ [(⟨"b", .other "bytea"⟩ : Column)], col.type_.mapsToDataType = false) ∧
      ∃ p, rowsToArrow [⟨[⟨"b", .other "bytea"⟩], [some (.bytes [1])], rfl⟩] = .error (.panic p) :=
  ⟨⟨_, .head _, rfl⟩, rowsToArrow_panics_of_unsupported ⟨_, .head _, rfl⟩⟩

/-- A column of a type without a mapping makes both schema paths panic, and so does a composite
field of a type outside the composite arms; each message names the type. -/
theorem unsupported_types_panic :
    (columnsToSchema [⟨"b", .other "bytea"⟩] : Step (List Field)) =
        .error (.panic (.unimplemented "Unsupported column type bytea")) ∧
      rowsToArrow [⟨[⟨"b", .other "bytea"⟩], [some (.bytes [1])], rfl⟩] =
        .error (.panic (.unimplemented "Unsupported column type bytea")) ∧
      rowsToArrow [⟨[⟨"e", .composite "event" [.mk "on" .date]⟩],
          [some (.composite [some (.date 0)])], rfl⟩] =
        .error (.panic (.unimplemented "Unsupported field type Date32")) :=
  ⟨rfl, rfl, rfl⟩

end SpiceAi.Postgres
