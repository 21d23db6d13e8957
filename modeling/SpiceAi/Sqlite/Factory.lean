import SpiceAi.HashMap
import SpiceAi.Sqlite.Transaction
import SpiceAi.Sqlite.Provisioner

/-!
# The SQLite table factory

`SqliteTableFactory.create` is `SqliteTableFactory::create`. It parses the command's options,
opens a connection pool on the database, and, when the catalog probe does not find the table,
creates the table and its indexes in one transaction: `Sqlite.createTableAndIndexes`, the closure
it hands to `conn.call`. The option parsers of the repository's `util` module, `Mode::from` and
the pool are not in src/; `Collaborators` is any of them, and every result here holds for each.

Read `allOrNothing_create` first: once the options parse, `create` leaves the catalog as it was
or makes it the catalog after the table and every index, and leaves it as it was when it fails.
`commitsWhen_create` is the other half: a `create` that returns `Ok` on a catalog without the
table has made it the catalog after the table and every index. The last section assembles from
them that provisioning is all or nothing: an option that does not parse is returned before
anything is done, no error changes the catalog, and a successful create provisions everything.
-/

namespace SpiceAi.DataComponents

open Arrow SpiceAi.Sqlite

/-! ## The command and its options -/

/-- An index kind of the `indexes` option (`util::indexes::IndexType`). -/
inductive IndexType where
  | enabled
  | unique
  deriving DecidableEq

/-- A column reference, `a` or `(a, b)`: its columns, in order (`util::column_reference`). -/
structure ColumnReference where
  columns : List String

/-- An `on_conflict` policy on the columns of a key: ignore the row, or update the other columns
(`util::on_conflict::OnConflict`). -/
inductive OnConflict where
  | doNothing (columns : ColumnReference)
  | upsert (columns : ColumnReference)

/-- A pool mode, `db_connection_pool::Mode`. -/
inductive Mode where
  | memory
  | file

/-- A table constraint of DataFusion: a primary key or a unique key, by column position. -/
inductive Constraint where
  | primaryKey (columns : List Nat)
  | unique (columns : List Nat)

/-- The command `CREATE EXTERNAL TABLE`, with the fields `create` reads. -/
structure CreateExternalTable where
  name : String
  schema : List Field
  options : HashMap String String
  constraints : List Constraint

/-- The errors `create` returns, each with the message of its source. -/
inductive Error where
  /-- Message "DbConnectionError: {source}" -/
  | dbConnectionError (source : String)
  /-- Message "DbConnectionPoolError: {source}" -/
  | dbConnectionPoolError (source : String)
  /-- Message "Unable to create table in Sqlite: {source}" -/
  | unableToCreateTable (source : String)
  /-- Message "Error parsing column reference: {source}" -/
  | unableToParseColumnReference (source : String)
  /-- Message "Error parsing on_conflict: {source}" -/
  | unableToParseOnConflict (source : String)

/-- DataFusion's error, as `to_datafusion_error` makes it. -/
inductive DataFusionError where
  | external (error : Error)

/-- The function `to_datafusion_error`: `DataFusionError::External`. -/
def toDatafusionError (error : Error) : DataFusionError :=
  .external error

/-- The code `create` calls that src/ does not hold: the option parsers of `util`, the primary
keys of the constraints, `Mode::from`, and the pool of `db_connection_pool`, which opens the
database at a path (`SqliteConnectionPool::new`) and hands out a connection (`Sqlite::connect`). -/
structure Collaborators where
  hashmapFromOptionString : String → HashMap String IndexType
  columnReferenceTryFrom : String → Except String ColumnReference
  onConflictTryFrom : String → Except String OnConflict
  getPrimaryKeysFromConstraints : List Constraint → List Field → List String
  modeFrom : String → Mode
  newPool : String → Mode → Except String Unit
  connect : Except String Unit

/-- The option parsing that opens `create`, before the pool: the pool mode, the indexes with
their column references parsed, and the `on_conflict` policy. The indexes are parsed in the
order the map of the `indexes` option iterates, and the first that fails is returned. -/
def parseOptions (x : Collaborators) (cmd : CreateExternalTable) :
    Except DataFusionError (Mode × List (ColumnReference × IndexType) × Option OnConflict) := do
  let options := cmd.options
  let (mode, options) := options.remove "mode"
  let mode := x.modeFrom (mode.getD "")
  let (indexesOptionStr, options) := options.remove "indexes"
  let unparsedIndexes : HashMap String IndexType := match indexesOptionStr with
    | some indexesStr => x.hashmapFromOptionString indexesStr
    | none => HashMap.empty
  let unparsedIndexes := unparsedIndexes.entries.map fun (key, value) =>
    ((x.columnReferenceTryFrom key).mapError
      fun e => toDatafusionError (.unableToParseColumnReference e), value)
  let indexes ← unparsedIndexes.foldlM (fun indexes index => do
    let columns ← index.1
    pure (indexes ++ [(columns, index.2)])) []
  let onConflict ← match (options.remove "on_conflict").1 with
    | some onConflictStr => some <$> ((x.onConflictTryFrom onConflictStr).mapError
        fun e => toDatafusionError (.unableToParseOnConflict e))
    | none => pure none
  pure (mode, indexes, onConflict)

/-! ## The provisioner's DDL -/

/-- The method `Sqlite::create_table`: the table of the schema `Sqlite::new` was given, with the
primary keys. -/
def Sqlite.createTable (self : Sqlite) (engine : Engine) (schema : List Field)
    (primaryKeys : List String) : Call Unit :=
  Transaction.execute engine (.createTable self.tableName schema primaryKeys)

/-- The method `Sqlite::create_index`. -/
def Sqlite.createIndex (self : Sqlite) (engine : Engine) (columns : List String) (unique : Bool) :
    Call Unit :=
  Transaction.execute engine (.createIndex self.tableName columns unique)

/-- The closure `create` hands to `conn.call`: a transaction, the table, each index, COMMIT. -/
def Sqlite.createTableAndIndexes (self : Sqlite) (engine : Engine) (schema : List Field)
    (primaryKeys : List String) (indexes : List (ColumnReference × IndexType)) : Call Unit := do
  Connection.transaction
  Transaction.scope do
    self.createTable engine schema primaryKeys
    indexes.forM fun index => self.createIndex engine index.1.columns (index.2 == .unique)
    Transaction.commit engine

/-- The statements the closure runs, in order: the table, then each index. -/
def ddlStatements (tableName : String) (schema : List Field) (primaryKeys : List String)
    (indexes : List (ColumnReference × IndexType)) : List Ddl :=
  .createTable tableName schema primaryKeys ::
    indexes.map fun index => .createIndex tableName index.1.columns (index.2 == .unique)

/-! ## The factory -/

/-- What `create` does that others can see. -/
inductive Effect where
  | openPool (dbPath : String) (mode : Mode)
  | connect
  | query (sql : String)
  | call

/-- The world `create` runs in: the catalog of the database the pool opens (for an in-memory pool,
a new database), and what has been done so far. -/
structure World where
  catalog : List MasterRow
  effects : List Effect

/-- A step of `create`. It returns a value or an error, and the world after it is kept on both
paths. -/
abbrev Factory := ExceptT DataFusionError (StateM World)

/-- An effect, done. -/
def emit (e : Effect) : Factory Unit :=
  modify fun w => { w with effects := w.effects ++ [e] }

/-- The method `conn.call(closure)` of tokio-rusqlite: the closure runs on a connection to the
database, and what it commits is the catalog after. -/
def call (closure : Call Unit) : ExceptT String (StateM World) Unit :=
  ExceptT.mk fun w =>
    ((closure.run.run ⟨w.catalog, none⟩).1,
      { catalog := (closure.run.run ⟨w.catalog, none⟩).2.committed, effects := w.effects ++ [.call] })

/-- The provider `create` returns: the deletion adapter over the writer over the read provider of
the table, with its `on_conflict` policy. -/
structure SqliteTableProvider where
  sqlite : Sqlite
  dbPath : String
  onConflict : Option OnConflict

/-- The repository's `SqliteTableFactory`. -/
structure SqliteTableFactory where
  dbPathParam : String

/-- The function `SqliteTableFactory::new`. -/
def SqliteTableFactory.new : SqliteTableFactory :=
  ⟨"sqlite_file"⟩

/-- The method `SqliteTableFactory::create`. `Arc::into_inner` of the `Sqlite` succeeds: the clone
the closure held is dropped when `conn.call` returns. -/
def SqliteTableFactory.create (self : SqliteTableFactory) (x : Collaborators) (engine : Engine)
    (cmd : CreateExternalTable) : Factory SqliteTableProvider := do
  let name := cmd.name
  let (mode, indexes, onConflict) ← liftExcept (parseOptions x cmd)
  let dbPath := (cmd.options.get self.dbPathParam).getD (name ++ "_sqlite.db")
  emit (.openPool dbPath mode)
  liftExcept ((x.newPool dbPath mode).mapError fun e => toDatafusionError (.dbConnectionPoolError e))
  let schema := cmd.schema
  let sqlite : Sqlite := ⟨name⟩
  emit .connect
  liftExcept (x.connect.mapError fun e => toDatafusionError (.dbConnectionError e))
  let primaryKeys := x.getPrimaryKeysFromConstraints cmd.constraints schema
  emit (.query (tableExistsSql sqlite.tableName))
  let tableExists := sqlite.tableExists (← get).catalog
  if !tableExists then
    (call (sqlite.createTableAndIndexes engine schema primaryKeys indexes)).adapt
      fun e => toDatafusionError (.unableToCreateTable e)
  pure ⟨sqlite, dbPath, onConflict⟩

/-! ## The option parsing -/

/-- The loop that collects the parsed indexes fails with the error of one of them. -/
theorem foldlM_collect_error {ε γ β : Type} :
    ∀ (l : List (Except ε γ × β)) (acc : List (γ × β)) {err : ε},
      l.foldlM (fun acc index => do
        let columns ← index.1
        pure (acc ++ [(columns, index.2)])) acc = .error err →
      ∃ index ∈ l, index.1 = .error err
  | [], _, _, h => nomatch h
  | index :: l, acc, err, h => by
    rw [List.foldlM_cons, bind_eq_error, bind_eq_error] at h
    rcases h with (h | ⟨_, -, h⟩) | ⟨_, -, h⟩
    · exact ⟨index, .head _, h⟩
    · cases h
    · obtain ⟨index', hindex', he⟩ := foldlM_collect_error l _ h
      exact ⟨index', .tail _ hindex', he⟩

/-- The option parsing fails only on an index's column reference or on the `on_conflict` policy,
with the error of the parser. -/
theorem parseOptions_error (x : Collaborators) (cmd : CreateExternalTable) {err : DataFusionError}
    (h : parseOptions x cmd = .error err) :
    (∃ key e, x.columnReferenceTryFrom key = .error e ∧
        err = toDatafusionError (.unableToParseColumnReference e)) ∨
      ∃ s e, x.onConflictTryFrom s = .error e ∧ err = toDatafusionError (.unableToParseOnConflict e) := by
  simp only [parseOptions, bind_eq_error] at h
  rcases h with h | ⟨_, -, h⟩
  · obtain ⟨_, hindex, he⟩ := foldlM_collect_error _ _ h
    obtain ⟨⟨key, _⟩, -, rfl⟩ := List.mem_map.mp hindex
    cases hk : x.columnReferenceTryFrom key with
    | error e => exact .inl ⟨key, e, hk, by simpa [hk, Except.mapError] using he.symm⟩
    | ok c => simp [hk, Except.mapError] at he
  · split at h
    · rename_i s _
      cases hs : x.onConflictTryFrom s with
      | error e => exact .inr ⟨s, e, hs, by simpa [hs, Except.mapError] using h.symm⟩
      | ok c => simp [hs, Except.mapError] at h
    · simp at h

/-! ## The closure is the DDL in one transaction -/

theorem createTableAndIndexes_eq (sqlite : Sqlite) (engine : Engine) (schema : List Field)
    (primaryKeys : List String) (indexes : List (ColumnReference × IndexType)) :
    sqlite.createTableAndIndexes engine schema primaryKeys indexes =
      runInTransaction engine (ddlStatements sqlite.tableName schema primaryKeys indexes) := by
  have hforM : ∀ l : List (ColumnReference × IndexType),
      l.forM (fun index => sqlite.createIndex engine index.1.columns (index.2 == .unique)) =
        (l.map fun index => Ddl.createIndex sqlite.tableName index.1.columns (index.2 == .unique)).forM
          (Transaction.execute engine) := by
    intro l
    induction l with
    | nil => rfl
    | cons index l ih => exact congrArg (Transaction.execute engine _ >>= fun _ => ·) ih
  simp only [Sqlite.createTableAndIndexes, Sqlite.createTable, runInTransaction, ddlStatements,
    List.forM_cons', hforM, bind_assoc]

/-! ## What each step of `create` does to the catalog -/

/-- A step that leaves the catalog as it found it, on every path. -/
def KeepsCatalog {α : Type} (m : Factory α) : Prop :=
  ∀ w, (m.run.run w).2.catalog = w.catalog

/-- A step that leaves the catalog as it found it, or makes it `ddl` of it; and as it found it when
the step fails. -/
def AllOrNothing {α : Type} (ddl : List MasterRow → Except String (List MasterRow)) (m : Factory α) :
    Prop :=
  ∀ w r w', m.run.run w = (r, w') →
    ((∃ err, r = .error err) → w'.catalog = w.catalog) ∧
      (w'.catalog = w.catalog ∨ ddl w.catalog = .ok w'.catalog)

/-- A step that, when it returns `Ok` from a catalog `guard` holds of, has made the catalog `ddl`
of it. -/
def CommitsWhen {α : Type} (guard : List MasterRow → Bool)
    (ddl : List MasterRow → Except String (List MasterRow)) (m : Factory α) : Prop :=
  ∀ w a w', m.run.run w = (.ok a, w') → guard w.catalog = true → ddl w.catalog = .ok w'.catalog

section Steps

variable {α β : Type} {ddl : List MasterRow → Except String (List MasterRow)}
  {guard : List MasterRow → Bool}

theorem keepsCatalog_pure (a : α) : KeepsCatalog (pure a) :=
  fun _ => rfl

theorem keepsCatalog_liftExcept (e : Except DataFusionError α) : KeepsCatalog (liftExcept e) :=
  fun w => by rw [liftExcept_run]

theorem keepsCatalog_emit (e : Effect) : KeepsCatalog (emit e) :=
  fun _ => rfl

theorem keepsCatalog_get : KeepsCatalog (get : Factory World) :=
  fun _ => rfl

theorem KeepsCatalog.catalog_eq {x : Factory α} (hx : KeepsCatalog x) {w w' : World}
    {r : Except DataFusionError α} (h : x.run.run w = (r, w')) : w'.catalog = w.catalog := by
  simpa only [h] using hx w

theorem KeepsCatalog.bind {x : Factory α} {f : α → Factory β} (hx : KeepsCatalog x)
    (hf : ∀ a, KeepsCatalog (f a)) : KeepsCatalog (x >>= f) := fun w => by
  rcases hrun : x.run.run w with ⟨_ | a, w₁⟩
  · rw [bind_run_error hrun]
    exact hx.catalog_eq hrun
  · rw [bind_run_ok hrun, hf a w₁]
    exact hx.catalog_eq hrun

theorem AllOrNothing.of_keepsCatalog {x : Factory α} (hx : KeepsCatalog x) : AllOrNothing ddl x :=
  fun _ _ _ h => ⟨fun _ => hx.catalog_eq h, .inl (hx.catalog_eq h)⟩

/-- A step that keeps the catalog, then one that is all or nothing, is all or nothing. -/
theorem AllOrNothing.keepsCatalog_bind {x : Factory α} {f : α → Factory β} (hx : KeepsCatalog x)
    (hf : ∀ a, AllOrNothing ddl (f a)) : AllOrNothing ddl (x >>= f) := fun w r w' h => by
  rcases hrun : x.run.run w with ⟨_ | a, w₁⟩
  · rw [bind_run_error hrun] at h
    cases h
    exact ⟨fun _ => hx.catalog_eq hrun, .inl (hx.catalog_eq hrun)⟩
  · rw [bind_run_ok hrun] at h
    rw [← hx.catalog_eq hrun]
    exact hf a w₁ r w' h

/-- An all-or-nothing step followed by a value is all or nothing. -/
theorem AllOrNothing.bind_pure {x : Factory α} (hx : AllOrNothing ddl x) (b : β) :
    AllOrNothing ddl (x >>= fun _ => pure b) := fun w r w' h => by
  rcases hrun : x.run.run w with ⟨_ | a, w₁⟩
  · rw [bind_run_error hrun] at h
    cases h
    have hw := hx w _ _ hrun
    exact ⟨fun _ => hw.1 ⟨_, rfl⟩, hw.2⟩
  · rw [bind_run_ok hrun] at h
    cases h
    exact ⟨fun ⟨_, he⟩ => (nomatch he), (hx w _ _ hrun).2⟩

theorem CommitsWhen.keepsCatalog_bind {x : Factory α} {f : α → Factory β} (hx : KeepsCatalog x)
    (hf : ∀ a, CommitsWhen guard ddl (f a)) : CommitsWhen guard ddl (x >>= f) := fun w b w' h => by
  rcases hrun : x.run.run w with ⟨_ | a, w₁⟩
  · rw [bind_run_error hrun] at h
    cases h
  · rw [bind_run_ok hrun] at h
    rw [← hx.catalog_eq hrun]
    exact hf a w₁ b w' h

/-- The world read by `get` is the one the rest runs from, so the rest may assume the guard of
its catalog. -/
theorem CommitsWhen.get_bind {f : World → Factory β}
    (hf : ∀ w, guard w.catalog = true → CommitsWhen guard ddl (f w)) :
    CommitsWhen guard ddl (get >>= f) := fun w b w' h hg =>
  hf w hg w b w' h hg

theorem CommitsWhen.bind_pure {x : Factory α} (hx : CommitsWhen guard ddl x) (b : β) :
    CommitsWhen guard ddl (x >>= fun _ => pure b) := fun w b' w' h hg => by
  rcases hrun : x.run.run w with ⟨_ | a, w₁⟩
  · rw [bind_run_error hrun] at h
    cases h
  · rw [bind_run_ok hrun] at h
    cases h
    exact hx w a _ hrun hg

/-- The table and its indexes, created through `conn.call`: the call returns `Ok` with the catalog
after the table and every index, or fails with the catalog as it was. The transaction's work
either all commits or is rolled back. -/
theorem call_outcome (sqlite : Sqlite) (engine : Engine) (schema : List Field)
    (primaryKeys : List String) (indexes : List (ColumnReference × IndexType))
    (g : String → DataFusionError) {w w' : World} {r : Except DataFusionError Unit}
    (h : ((call (sqlite.createTableAndIndexes engine schema primaryKeys indexes)).adapt g).run.run w =
      (r, w')) :
    (r = .ok () ∧ (ddlStatements sqlite.tableName schema primaryKeys indexes).foldlM engine.execute
        w.catalog = .ok w'.catalog) ∨
      ((∃ err, r = .error err) ∧ w'.catalog = w.catalog) := by
  rcases hrun : (runInTransaction engine (ddlStatements sqlite.tableName schema primaryKeys indexes)).run.run
    ⟨w.catalog, none⟩ with ⟨res, conn⟩
  have hcall : (call (sqlite.createTableAndIndexes engine schema primaryKeys indexes)).run.run w =
      (res, { catalog := conn.committed, effects := w.effects ++ [.call] }) := by
    rw [← createTableAndIndexes_eq] at hrun
    exact congrArg (fun p : Except String Unit × Connection =>
      (p.1, ({ catalog := p.2.committed, effects := w.effects ++ [.call] } : World))) hrun
  rw [adapt_run, hcall] at h
  cases h
  obtain ⟨-, ⟨rfl, view, hv, -, hc⟩ | ⟨⟨e, rfl⟩, hc⟩⟩ :=
    runInTransaction_all_or_nothing engine _ w.catalog hrun
  · exact .inl ⟨rfl, hv.trans (congrArg _ hc.symm)⟩
  · exact .inr ⟨⟨_, rfl⟩, hc⟩

theorem allOrNothing_call (sqlite : Sqlite) (engine : Engine) (schema : List Field)
    (primaryKeys : List String) (indexes : List (ColumnReference × IndexType))
    (g : String → DataFusionError) :
    AllOrNothing ((ddlStatements sqlite.tableName schema primaryKeys indexes).foldlM engine.execute)
      ((call (sqlite.createTableAndIndexes engine schema primaryKeys indexes)).adapt g) :=
  fun _ _ _ h => match call_outcome sqlite engine schema primaryKeys indexes g h with
  | .inl ⟨hr, hddl⟩ => ⟨fun ⟨_, he⟩ => (nomatch hr.symm.trans he), .inr hddl⟩
  | .inr ⟨_, hc⟩ => ⟨fun _ => hc, .inl hc⟩

theorem commitsWhen_call (sqlite : Sqlite) (engine : Engine) (schema : List Field)
    (primaryKeys : List String) (indexes : List (ColumnReference × IndexType))
    (g : String → DataFusionError) :
    CommitsWhen guard ((ddlStatements sqlite.tableName schema primaryKeys indexes).foldlM engine.execute)
      ((call (sqlite.createTableAndIndexes engine schema primaryKeys indexes)).adapt g) :=
  fun _ _ _ h _ => match call_outcome sqlite engine schema primaryKeys indexes g h with
  | .inl ⟨_, hddl⟩ => hddl
  | .inr ⟨⟨_, he⟩, _⟩ => nomatch he

end Steps

/-! ## The factory is all or nothing -/

section Create

variable (self : SqliteTableFactory) (x : Collaborators) (engine : Engine) (cmd : CreateExternalTable)

/-- An option that does not parse is returned before the pool is opened: the world, its effects
included, is as it was. -/
theorem create_of_parseOptions_error {err : DataFusionError} (h : parseOptions x cmd = .error err)
    (w : World) : (self.create x engine cmd).run.run w = (.error err, w) := by
  rw [SqliteTableFactory.create, h]
  exact bind_run_error (liftExcept_run _ _)

/-- Once the options parse, `create` is all or nothing for the table and the indexes they give. -/
theorem allOrNothing_create {mode : Mode} {indexes : List (ColumnReference × IndexType)}
    {onConflict : Option OnConflict} (h : parseOptions x cmd = .ok (mode, indexes, onConflict)) :
    AllOrNothing ((ddlStatements cmd.name cmd.schema
      (x.getPrimaryKeysFromConstraints cmd.constraints cmd.schema) indexes).foldlM engine.execute)
      (self.create x engine cmd) := by
  rw [SqliteTableFactory.create, h]
  simp only [liftExcept, pure_bind]
  refine .keepsCatalog_bind (keepsCatalog_emit _) fun _ =>
    .keepsCatalog_bind (keepsCatalog_liftExcept _) fun _ =>
    .keepsCatalog_bind (keepsCatalog_emit _) fun _ =>
    .keepsCatalog_bind (keepsCatalog_liftExcept _) fun _ =>
    .keepsCatalog_bind (keepsCatalog_emit _) fun _ =>
    .keepsCatalog_bind keepsCatalog_get fun _ => ?_
  split
  · exact (allOrNothing_call _ engine _ _ indexes _).bind_pure _
  · exact .of_keepsCatalog (keepsCatalog_pure _)

/-- Once the options parse, a `create` that returns `Ok` on a catalog without the table has
created the table and every index. -/
theorem commitsWhen_create {mode : Mode} {indexes : List (ColumnReference × IndexType)}
    {onConflict : Option OnConflict} (h : parseOptions x cmd = .ok (mode, indexes, onConflict)) :
    CommitsWhen (fun catalog => !(Sqlite.tableExists ⟨cmd.name⟩ catalog))
      ((ddlStatements cmd.name cmd.schema
        (x.getPrimaryKeysFromConstraints cmd.constraints cmd.schema) indexes).foldlM engine.execute)
      (self.create x engine cmd) := by
  rw [SqliteTableFactory.create, h]
  simp only [liftExcept, pure_bind]
  refine .keepsCatalog_bind (keepsCatalog_emit _) fun _ =>
    .keepsCatalog_bind (keepsCatalog_liftExcept _) fun _ =>
    .keepsCatalog_bind (keepsCatalog_emit _) fun _ =>
    .keepsCatalog_bind (keepsCatalog_liftExcept _) fun _ =>
    .keepsCatalog_bind (keepsCatalog_emit _) fun _ => .get_bind fun w hg => ?_
  split
  · exact (commitsWhen_call ⟨cmd.name⟩ engine _ _ indexes _).bind_pure _
  · exact absurd hg ‹_›

/-- Provisioning is all or nothing. An option that does not parse is returned before anything is
done, with the error of the index's column reference or of the `on_conflict` policy; when `create`
fails, the catalog is as it was; the catalog after `create` is the one before, or the one after the
table and every index of the options; and a `create` that returns `Ok` on a catalog without the
table has created the table and every index. -/
theorem create_all_or_nothing (w : World) :
    (∀ err, parseOptions x cmd = .error err →
      (self.create x engine cmd).run.run w = (.error err, w) ∧
        ((∃ key e, x.columnReferenceTryFrom key = .error e ∧
            err = toDatafusionError (.unableToParseColumnReference e)) ∨
          ∃ s e, x.onConflictTryFrom s = .error e ∧
            err = toDatafusionError (.unableToParseOnConflict e))) ∧
      ∀ r w', (self.create x engine cmd).run.run w = (r, w') →
        ((∃ err, r = .error err) → w'.catalog = w.catalog) ∧
          (w'.catalog = w.catalog ∨ ∃ mode indexes onConflict,
            parseOptions x cmd = .ok (mode, indexes, onConflict) ∧
              (ddlStatements cmd.name cmd.schema
                (x.getPrimaryKeysFromConstraints cmd.constraints cmd.schema) indexes).foldlM
                engine.execute w.catalog = .ok w'.catalog) ∧
          ((∃ provider, r = .ok provider) → Sqlite.tableExists ⟨cmd.name⟩ w.catalog = false →
            ∃ mode indexes onConflict, parseOptions x cmd = .ok (mode, indexes, onConflict) ∧
              (ddlStatements cmd.name cmd.schema
                (x.getPrimaryKeysFromConstraints cmd.constraints cmd.schema) indexes).foldlM
                engine.execute w.catalog = .ok w'.catalog) := by
  refine ⟨fun _ h => ⟨create_of_parseOptions_error self x engine cmd h w, parseOptions_error x cmd h⟩,
    fun r w' h => ?_⟩
  rcases hp : parseOptions x cmd with err | ⟨mode, indexes, onConflict⟩
  · rw [create_of_parseOptions_error self x engine cmd hp w] at h
    cases h
    exact ⟨fun _ => rfl, .inl rfl, fun ⟨_, he⟩ => nomatch he⟩
  · obtain ⟨herr, hw⟩ := allOrNothing_create self x engine cmd hp w r w' h
    refine ⟨herr, hw.imp_right fun hddl => ⟨mode, indexes, onConflict, rfl, hddl⟩, ?_⟩
    rintro ⟨provider, rfl⟩ hnew
    exact ⟨mode, indexes, onConflict, rfl,
      commitsWhen_create self x engine cmd hp w provider w' h (by simp [hnew])⟩

set_option maxRecDepth 2000 in
/-- An `on_conflict` option that does not parse is returned with the world untouched; and an index
on a column the table lacks, which SQLite refuses, rolls back the table created before it in the
same transaction, so that the catalog is empty as it was. -/
theorem create_failures_leave_catalog :
    (SqliteTableFactory.new.create
        ⟨fun _ => HashMap.empty, fun s => .ok ⟨[s]⟩, fun _ => .error "expected do_nothing or upsert",
          fun _ _ => [], fun _ => .file, fun _ _ => .ok (), .ok ()⟩
        ⟨fun catalog _ => .ok catalog, fun _ => .ok ()⟩
        ⟨"t", [], ⟨[("on_conflict", "replace")], by decide⟩, []⟩).run.run ⟨[], []⟩ =
      (.error (toDatafusionError (.unableToParseOnConflict "expected do_nothing or upsert")), ⟨[], []⟩) ∧
    ((SqliteTableFactory.new.create
        ⟨fun _ => ⟨[("b", .enabled)], by decide⟩, fun s => .ok ⟨[s]⟩, fun _ => .error "",
          fun _ _ => [], fun _ => .file, fun _ _ => .ok (), .ok ()⟩
        ⟨fun catalog stmt => match stmt with
            | .createTable name _ _ => .ok (catalog ++ [⟨"table", name⟩])
            | .createIndex .. => .error "no such column: b",
          fun _ => .ok ()⟩
        ⟨"t", [], ⟨[("indexes", "b")], by decide⟩, []⟩).run.run ⟨[], []⟩).2.catalog = [] :=
  ⟨((create_all_or_nothing _ _ _ _ ⟨[], []⟩).1 _ (by rfl)).1,
    ((create_all_or_nothing _ _ _ _ ⟨[], []⟩).2 _ _ Prod.mk.eta.symm).1 ⟨_, rfl⟩⟩

end Create

end SpiceAi.DataComponents
