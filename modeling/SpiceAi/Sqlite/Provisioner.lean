import SpiceAi.Sqlite.Sql

/-!
# The SQLite provisioner's statements

`Sqlite.tableExists` is `Sqlite::table_exists`: it splices the table name between single quotes
into a probe of `sqlite_master` and reads a refused statement as `false`. `deleteAllTableDataSql`
and `deleteFromSql` are the statements of `Sqlite::delete_all_table_data` and
`Sqlite::delete_from`, which splice the name between double quotes.

Neither splice escapes the quote it is enclosed in. The main theorems say what follows. For a name
without a single quote the probe is exactly "is there a table of this name"
(`tableExists_of_no_quote`), and for a name without a double quote both deletes address exactly
that table (`deleteTarget_deleteAllTableDataSql`, `deleteTarget_deleteFromSql`). A quote in the
name ends the literal or the identifier early.
-/

namespace SpiceAi.DataComponents

open Sqlite

/-- The repository's `Sqlite`, with the field the modelled methods read. -/
structure Sqlite where
  tableName : String

/-! ## The probe of `table_exists` -/

/-- The probe's text before the name: `SELECT EXISTS ( SELECT 1 FROM sqlite_master WHERE
type='table' AND name = '`, with the source's line breaks and indentation. -/
def probePrefix : String :=
  "SELECT EXISTS (\n          SELECT 1\n          FROM sqlite_master\n          WHERE type=\x27table\x27\n          AND name = \x27"

/-- The probe's text after the name: the closing quote and parenthesis. -/
def probeSuffix : String :=
  "\x27\n        )"

/-- The probe `table_exists` formats for a table name. -/
def tableExistsSql (name : String) : String :=
  probePrefix ++ name ++ probeSuffix

/-- The method `Sqlite::table_exists` on a database whose `sqlite_master` holds `catalog`. The
result of `SELECT EXISTS` is read as a boolean, and a statement SQLite refuses reads as `false`
(`unwrap_or(false)`). -/
def Sqlite.tableExists (self : Sqlite) (catalog : List MasterRow) : Bool :=
  match runProbe catalog (tableExistsSql self.tableName) with
  | .ok b => b
  | .error _ => false

set_option maxRecDepth 2000 in
/-- The probe's tokens before the name's string literal. -/
theorem lex_probePrefix :
    lex .start probePrefix.data = .ok (.string [], probeHead ++
      [.word "TYPE", .punct '=', .string "table", .word "AND", .word "NAME", .punct '=']) := by
  rfl

theorem lex_probeSuffix (v : List Char) :
    lex (.string v) probeSuffix.data = .ok (.start, [.string (String.mk v), .punct ')']) := by
  rfl

/-- A name without a single quote is one string literal of the probe. -/
theorem tokenize_tableExistsSql {name : String} (h : '\x27' ∉ name.data) :
    tokenize (tableExistsSql name) = .ok (probeHead ++
      [.word "TYPE", .punct '=', .string "table", .word "AND", .word "NAME", .punct '=',
        .string name, .punct ')']) := by
  have hdata : (tableExistsSql name).data = probePrefix.data ++ (name.data ++ probeSuffix.data) := by
    simp [tableExistsSql, String.data_append]
  have hbody := lex_append probeSuffix.data (lex_string_body [] name.data h)
  rw [List.nil_append, lex_probeSuffix] at hbody
  rw [tokenize, hdata, lex_append _ lex_probePrefix, hbody]
  simp [Except.map, lexFinish]

/-- The clause the probe of a name without a single quote tests. -/
theorem parseProbe_tableExistsSql (name : String) :
    parseProbe (probeHead ++
      [.word "TYPE", .punct '=', .string "table", .word "AND", .word "NAME", .punct '=',
        .string name, .punct ')']) =
      some [[(.column "TYPE", .string "table"), (.column "NAME", .string name)]] :=
  rfl

/-- For a name without a single quote, `table_exists` answers whether `sqlite_master` lists a
table of exactly that name. -/
theorem tableExists_of_no_quote (self : Sqlite) (catalog : List MasterRow)
    (h : '\x27' ∉ self.tableName.data) :
    self.tableExists catalog =
      catalog.any fun row => row.type_ == "table" && row.name == self.tableName := by
  have hrun : runProbe catalog (tableExistsSql self.tableName) =
      .ok (catalog.any fun row => row.type_ == "table" && row.name == self.tableName) := by
    simp only [runProbe, tokenize_tableExistsSql h, ok_bind, parseProbe_tableExistsSql]
    simp [unknownColumn, satisfies, Operand.eval]
  delta Sqlite.tableExists
  rw [hrun]

/-- The probe for a table without a quote finds the table. -/
theorem tableExists_docs :
    '\x27' ∉ (Sqlite.mk "docs").tableName.data ∧
      (Sqlite.mk "docs").tableExists [⟨"table", "docs"⟩] =
        [(⟨"table", "docs"⟩ : MasterRow)].any fun row => row.type_ == "table" && row.name == "docs" :=
  ⟨by decide, tableExists_of_no_quote _ _ (by decide)⟩

/-! ## The deletes -/

/-- The statement of `Sqlite::delete_all_table_data`. -/
def deleteAllTableDataSql (tableName : String) : String :=
  "DELETE FROM \"" ++ tableName ++ "\""

/-- The statement of `Sqlite::delete_from`, with the caller's `WHERE` clause. -/
def deleteFromSql (tableName whereClause : String) : String :=
  "DELETE FROM \"" ++ tableName ++ "\" WHERE " ++ whereClause

/-- The method `Sqlite::delete_all_table_data`: the statement it executes. -/
def Sqlite.deleteAllTableData (self : Sqlite) : String :=
  deleteAllTableDataSql self.tableName

/-- The method `Sqlite::delete_from`: the statement it executes. -/
def Sqlite.deleteFrom (self : Sqlite) (whereClause : String) : String :=
  deleteFromSql self.tableName whereClause

theorem lex_deleteHead :
    lex .start "DELETE FROM \"".data = .ok (.ident [], [.word "DELETE", .word "FROM"]) :=
  rfl

/-- For a name without a double quote, `delete_all_table_data` deletes from exactly that table. -/
theorem deleteTarget_deleteAllTableDataSql {name : String} (h : '"' ∉ name.data) :
    deleteTarget (deleteAllTableDataSql name) = .ok name := by
  have hdata : (deleteAllTableDataSql name).data =
      "DELETE FROM \"".data ++ (name.data ++ "\"".data) := by
    simp [deleteAllTableDataSql, String.data_append]
  have hbody := lex_append "\"".data (lex_ident_body [] name.data h)
  rw [List.nil_append] at hbody
  rw [deleteTarget, tokenize, hdata, lex_append _ lex_deleteHead, hbody]
  rfl

/-- The delete of all rows of a table without a quote addresses that table. -/
theorem deleteAllTableData_docs :
    '"' ∉ "docs".data ∧ deleteTarget (deleteAllTableDataSql "docs") = .ok "docs" :=
  ⟨by decide, deleteTarget_deleteAllTableDataSql (by decide)⟩

set_option maxRecDepth 2000 in
/-- A quote in the name breaks both splices. The probe for the table `it's` is refused by SQLite,
so `table_exists` answers `false` while the table is there; the probe for the name
`x' OR '1'='1` answers `true` with no such table; and `delete_all_table_data` for the table
`x"--` empties the table `x`. -/
theorem quoted_table_names_misaddressed :
    (Sqlite.mk "it\x27s").tableExists [⟨"table", "it\x27s"⟩] = false ∧
      (Sqlite.mk "x\x27 OR \x271\x27=\x271").tableExists [⟨"table", "t"⟩] = true ∧
      deleteTarget (Sqlite.mk "x\"--").deleteAllTableData = .ok "x" :=
  ⟨rfl, rfl, rfl⟩

end SpiceAi.DataComponents
