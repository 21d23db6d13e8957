import SpiceAi.Sqlite.Sql
import SpiceAi.Arrow.DataType

/-!
# SQLite transactions

The provisioner runs its DDL in a rusqlite `Transaction`. Modelled from SQLite's and rusqlite's
documentation: a statement inside a transaction changes the transaction's own view of the
catalog, and a statement that fails changes nothing; COMMIT makes the view the catalog every
connection sees; a `Transaction` dropped while still open rolls back (`DropBehavior::Rollback`,
rusqlite's default), which is also the fate of one whose COMMIT fails. What SQLite makes of each
statement is left open: an `Engine` is any answer to a statement on a catalog.

The main result, `runInTransaction_all_or_nothing`, says that statements run in one transaction
and committed at the end leave the catalog as it was, unless every statement and the commit
succeed, in which case the catalog is the view after all of them.
-/

namespace SpiceAi.Sqlite

open Arrow

/-- A DDL statement, by what its builder renders: `CreateTableBuilder` for a table with its
schema and primary keys, `IndexBuilder` for an index on columns of a table. The rendered SQL
(`arrow_sql_gen::statement`) is not in src/. -/
inductive Ddl where
  | createTable (tableName : String) (schema : List Field) (primaryKeys : List String)
  | createIndex (tableName : String) (columns : List String) (unique : Bool)

/-- SQLite's answers, which the repository does not fix: what a DDL statement makes of a catalog,
or its error, and whether COMMIT of a view succeeds (it fails on a locked or full database). -/
structure Engine where
  execute : List MasterRow → Ddl → Except String (List MasterRow)
  commit : List MasterRow → Except String Unit

/-- A connection: the catalog every connection sees, and the open transaction's view of it. -/
structure Connection where
  committed : List MasterRow
  view : Option (List MasterRow)

/-- A call on a connection. It returns a value or a `rusqlite::Error` (here its message), and the
connection's state after the call is kept on both paths. -/
abbrev Call := ExceptT String (StateM Connection)

/-- The function `Connection::transaction`: `BEGIN DEFERRED`, which SQLite refuses inside a
transaction. -/
def Connection.transaction : Call Unit := do
  let conn ← get
  match conn.view with
  | some _ => throw "cannot start a transaction within a transaction"
  | none => set { conn with view := some conn.committed }

namespace Transaction

/-- The function `Transaction::execute` of a DDL statement: SQLite runs it on the transaction's
view, and a statement that fails leaves the view as it was. -/
def execute (engine : Engine) (stmt : Ddl) : Call Unit := do
  let conn ← get
  match engine.execute (conn.view.getD conn.committed) stmt with
  | .ok view => set { conn with view := some view }
  | .error e => throw e

/-- The function `Transaction::commit`: COMMIT makes the view the catalog and ends the
transaction. A COMMIT that fails leaves the transaction open; `commit` consumed the `Transaction`,
whose drop then rolls it back (`scope`). -/
def commit (engine : Engine) : Call Unit := do
  let conn ← get
  let view := conn.view.getD conn.committed
  match engine.commit view with
  | .ok () => set ({ committed := view, view := none } : Connection)
  | .error e => throw e

/-- A `Transaction` in scope over `body`. When the scope ends, on every path, the `Transaction` is
dropped, and a transaction still open is rolled back. -/
def scope {α : Type} (body : Call α) : Call α :=
  ExceptT.mk do
    let r ← body.run
    modify fun conn => { conn with view := none }
    pure r

end Transaction

/-- Statements run in one transaction, then COMMIT, with the `Transaction` in scope throughout. -/
def runInTransaction (engine : Engine) (stmts : List Ddl) : Call Unit := do
  Connection.transaction
  Transaction.scope do
    stmts.forM (Transaction.execute engine)
    Transaction.commit engine

/-! ## Running calls -/

section Run

variable {ε σ α β : Type} {x : ExceptT ε (StateM σ) α} {f : α → ExceptT ε (StateM σ) β} {s s' : σ}

/-- A bind whose first call returns `Ok` goes on from the state that call left. -/
theorem bind_run_ok {a : α} (h : x.run.run s = (.ok a, s')) :
    (x >>= f).run.run s = (f a).run.run s' := by
  simp only [ExceptT.run_bind, StateT.run_bind, h]
  rfl

/-- A bind whose first call fails stops there, with the state that call left. -/
theorem bind_run_error {e : ε} (h : x.run.run s = (.error e, s')) :
    (x >>= f).run.run s = (.error e, s') := by
  simp only [ExceptT.run_bind, StateT.run_bind, h]
  rfl

theorem liftExcept_run (e : Except ε α) (s : σ) :
    (liftExcept e : ExceptT ε (StateM σ) α).run.run s = (e, s) := by
  cases e <;> rfl

theorem adapt_run {ε' : Type} (g : ε → ε') (s : σ) :
    (x.adapt g).run.run s = ((x.run.run s).1.mapError g, (x.run.run s).2) :=
  rfl

end Run

/-! ## One statement after another -/

section Statements

variable (engine : Engine) (committed : List MasterRow)

theorem execute_run (stmt : Ddl) (view : List MasterRow) :
    (Transaction.execute engine stmt).run.run ⟨committed, some view⟩ =
      match engine.execute view stmt with
      | .ok view' => (.ok (), ⟨committed, some view'⟩)
      | .error e => (.error e, ⟨committed, some view⟩) := by
  show (match engine.execute view stmt with
      | .ok view' => (set (⟨committed, some view'⟩ : Connection) : Call Unit)
      | .error e => throw e).run.run ⟨committed, some view⟩ = _
  cases engine.execute view stmt <;> rfl

/-- Statements in a transaction run until one fails: they end with the view after all of them,
or with the error of the first that fails. The catalog is not touched either way. -/
theorem forM_execute_run : ∀ (stmts : List Ddl) (view : List MasterRow),
    (∃ view', stmts.foldlM engine.execute view = .ok view' ∧
      (stmts.forM (Transaction.execute engine)).run.run ⟨committed, some view⟩ =
        (.ok (), ⟨committed, some view'⟩)) ∨
    (∃ e view', stmts.foldlM engine.execute view = .error e ∧
      (stmts.forM (Transaction.execute engine)).run.run ⟨committed, some view⟩ =
        (.error e, ⟨committed, some view'⟩))
  | [], view => .inl ⟨view, rfl, rfl⟩
  | stmt :: stmts, view => by
    have hstep := execute_run engine committed stmt view
    rw [List.forM_cons', List.foldlM_cons]
    cases hs : engine.execute view stmt with
    | error e => exact .inr ⟨e, view, rfl, by rw [hs] at hstep; exact bind_run_error hstep⟩
    | ok view₁ =>
      rw [hs] at hstep
      rw [bind_run_ok hstep]
      exact forM_execute_run stmts view₁

end Statements

theorem transaction_run (catalog : List MasterRow) :
    Connection.transaction.run.run ⟨catalog, none⟩ = (.ok (), ⟨catalog, some catalog⟩) :=
  rfl

theorem commit_run (engine : Engine) (committed view : List MasterRow) :
    (Transaction.commit engine).run.run ⟨committed, some view⟩ =
      match engine.commit view with
      | .ok () => (.ok (), ⟨view, none⟩)
      | .error e => (.error e, ⟨committed, some view⟩) := by
  show (match engine.commit view with
      | .ok () => (set (⟨view, none⟩ : Connection) : Call Unit)
      | .error e => throw e).run.run ⟨committed, some view⟩ = _
  cases engine.commit view <;> rfl

theorem scope_run {α : Type} (body : Call α) (conn : Connection) :
    (Transaction.scope body).run.run conn =
      ((body.run.run conn).1, { (body.run.run conn).2 with view := none }) :=
  rfl

/-- Statements run in one transaction and committed at the end either all take effect, with the
commit, or leave the catalog as it was; no transaction is left open. -/
theorem runInTransaction_all_or_nothing (engine : Engine) (stmts : List Ddl)
    (catalog : List MasterRow) {r : Except String Unit} {conn : Connection}
    (h : (runInTransaction engine stmts).run.run ⟨catalog, none⟩ = (r, conn)) :
    conn.view = none ∧
      ((r = .ok () ∧ ∃ view, stmts.foldlM engine.execute catalog = .ok view ∧
          engine.commit view = .ok () ∧ conn.committed = view) ∨
        ((∃ e, r = .error e) ∧ conn.committed = catalog)) := by
  rw [runInTransaction, bind_run_ok (transaction_run catalog), scope_run] at h
  rcases forM_execute_run engine catalog stmts catalog with ⟨view, hv, hrun⟩ | ⟨e, view, hv, hrun⟩
  · rw [bind_run_ok hrun, commit_run] at h
    cases hc : engine.commit view with
    | ok u =>
      simp only [hc, Prod.mk.injEq] at h
      obtain ⟨rfl, rfl⟩ := h
      exact ⟨rfl, .inl ⟨rfl, view, hv, hc, rfl⟩⟩
    | error e =>
      simp only [hc, Prod.mk.injEq] at h
      obtain ⟨rfl, rfl⟩ := h
      exact ⟨rfl, .inr ⟨⟨e, rfl⟩, rfl⟩⟩
  · rw [bind_run_error hrun] at h
    simp only [Prod.mk.injEq] at h
    obtain ⟨rfl, rfl⟩ := h
    exact ⟨rfl, .inr ⟨⟨e, rfl⟩, rfl⟩⟩

end SpiceAi.Sqlite
