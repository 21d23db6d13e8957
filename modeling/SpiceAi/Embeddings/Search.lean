import SpiceAi.Embeddings.VectorSearch
import SpiceAi.Sqlite.Factory
import SpiceAi.Arrow.Array

/-!
# The vector search

`VectorSearch.search` is `VectorSearch::search`. It embeds the query for each table
(`calculateEmbeddingsPerTable`), looks up each table's primary keys, the constraint's or else the
spicepod's (`getPrimaryKeysWithOverrides`), and then, table by table, runs a SQL query that orders
the table's rows by their distance to the query's embedding and keeps the text of the embedding
column (`retrieve`). DataFusion's planner and executor are not in src/: a `DataFusion` is any
answer to what `search` asks of them.

Read `search_ok` first: a search that returns holds, for exactly the requested tables, the batches
of each table's query and their text, and each requested table uses exactly one embedding model.
`search_run` is the converse: when every table meets those conditions, the search returns.
`getPrimaryKeysWithOverrides_ok` says which primary keys the queries select: a table's own, else
the spicepod's, which `computePrimaryKeys` collects from the datasets.
-/

namespace SpiceAi.Embeddings

open Arrow
open DataComponents (Constraint)

/-- The errors of `search` and of the primary-key lookups: those of the embeddings, and the two
that only these functions return. -/
inductive SearchError where
  | error (e : Error)
  /-- Message "Error occurred interacting with datafusion: {source}" -/
  | dataFusionError (source : String)
  /-- Message "Only one embedding column per table currently supported. Table: {data_source} has
  {num_embeddings} embeddings" -/
  | incorrectNumberOfEmbeddingColumns (dataSource : String) (numEmbeddings : Nat)

/-- The message of an error, as its `snafu(display)` attribute gives it. -/
def SearchError.message : SearchError → String
  | .error e => e.message
  | .dataFusionError source => "Error occurred interacting with datafusion: " ++ source
  | .incorrectNumberOfEmbeddingColumns dataSource numEmbeddings =>
    "Only one embedding column per table currently supported. Table: " ++ dataSource ++ " has " ++
      toString numEmbeddings ++ " embeddings"

/-- What `search` reads of DataFusion besides the tables' kinds: each table's constraints and the
names of its schema's fields, the embedding columns of its embedding table, and the batches a SQL
query collects to (`ctx.sql(..)` then `collect()`), or the error of either. -/
structure DataFusion where
  constraints : TableReference → Option (List Constraint)
  fieldNames : TableReference → List String
  embeddingColumns : TableReference → List String
  sql : String → Except String (List RecordBatch)

/-- The type `RetrievalLimit`. -/
inductive RetrievalLimit where
  | topN (n : Nat)
  | threshold (value : Float)

/-- The type `VectorSearchResult`: per table, the text retrieved and the batches it came from. -/
structure VectorSearchResult where
  retrievedEntries : HashMap TableReference (List String)
  retrievedPublicKeys : HashMap TableReference (List RecordBatch)

/-- arrow's `Schema::project` on the names of a schema's fields: the fields at `indices`, or
arrow's error for the first index past the end. -/
def project (fieldNames : List String) (indices : List Nat) : Except String (List String) :=
  indices.mapM fun i => match fieldNames[i]? with
    | some name => .ok name
    | none => .error ("Schema error: project index " ++ toString i ++ " out of bounds, max field " ++
        toString fieldNames.length)

/-- The query `search` runs on a table: the selected keys, ordered by the distance of the
embedding column's embedding to the query's, at most `n` rows. `embedding` is the embedding as
`{embedding:?}` prints it. -/
def searchSql (selectKeys : List String) (tbl embeddingColumn embedding : String) (n : Nat) :
    String :=
  "SELECT " ++ ", ".intercalate selectKeys ++ " FROM " ++ tbl ++ " ORDER BY array_distance(" ++
    embeddingColumn ++ "_embedding, " ++ embedding ++ ") LIMIT " ++ toString n

/-- The text of a string array's slot: `unwrap_or_default()` of the slot, the empty string for a
null. -/
def stringOrDefault : Option Scalar → String
  | some (.str s) => s
  | _ => ""

/-- The text of a batch's last column, which must be a `StringArray`. A batch without columns
panics: `num_columns() - 1` underflows. -/
def lastColumnStrings (embeddingColumn : String) (b : RecordBatch) :
    Except (Exit SearchError) (List String) :=
  match b.columns.getLast? with
  | none => .error (.panic .arithmeticOverflow)
  | some column =>
    match column.downcast .string with
    | some (.leaf _ entries) => .ok (entries.map stringOrDefault)
    | _ => .error (.err (.dataFusionError
        ("Expected \x27" ++ embeddingColumn ++ "\x27 to be last column of SQL query and return a String type")))

/-- An embedding of a spicepod dataset, by the primary keys it may give. -/
structure DatasetEmbedding where
  primaryKeys : Option (List String)

/-- A dataset of the spicepod, by what `compute_primary_keys` reads: its name and its embeddings. -/
structure Dataset where
  name : String
  embeddings : List DatasetEmbedding

/-- The spicepod's `App`, by its datasets. -/
structure App where
  datasets : List Dataset

/-- The function `compute_primary_keys`: for each dataset one of whose embeddings gives primary
keys, the table its name parses to (`parseStr` is `TableReference::parse_str`) with the keys of the
first such embedding, collected into a map. `app` is what the lock holds. -/
def computePrimaryKeys (parseStr : String → TableReference) (app : Option App) :
    HashMap TableReference (List String) :=
  match app with
  | none => HashMap.empty
  | some app => HashMap.ofList (app.datasets.filterMap fun d =>
      (d.embeddings.findSome? fun e => e.primaryKeys).map fun pks => (parseStr d.name, pks))

/-- `compute_primary_keys` gives a table the primary keys of the last dataset whose name parses to
it and one of whose embeddings gives primary keys, those of the first such embedding. A table of no
such dataset gets none, and so does every table while no app is loaded. -/
theorem computePrimaryKeys_get (parseStr : String → TableReference) (app : Option App)
    (t : TableReference) :
    (computePrimaryKeys parseStr app).get t = app.bind fun app =>
      app.datasets.reverse.findSome? fun d =>
        if parseStr d.name = t then d.embeddings.findSome? (·.primaryKeys) else none := by
  cases app with
  | none => rfl
  | some app =>
    rw [computePrimaryKeys, HashMap.get_ofList, ← List.filterMap_reverse, Option.some_bind]
    induction app.datasets.reverse with
    | nil => rfl
    | cons d ds ih =>
      rw [List.filterMap_cons, List.findSome?_cons]
      cases hk : d.embeddings.findSome? (·.primaryKeys) with
      | none =>
        simp only [hk, Option.map_none', ite_self]
        exact ih
      | some pks =>
        simp only [hk, Option.map_some']
        by_cases ht : parseStr d.name = t
        · have heq : (t == parseStr d.name) = true := by simp [ht]
          simp only [List.lookup_cons, heq, if_pos ht]
        · have hne : (t == parseStr d.name) = false := beq_false_of_ne fun h => ht h.symm
          simp only [List.lookup_cons, hne, if_neg ht]
          exact ih

/-- The embeddings' errors, lifted into those of `search`. -/
def liftSearch {α : Type} (x : Search α) : StateT (List ModelKey) (Except (Exit SearchError)) α :=
  fun log => (x log).mapError fun e => .err (.error e)

namespace VectorSearch

variable {V : Type} (self : VectorSearch V) (datafusion : DataFusion)

/-- The method `VectorSearch::get_primary_keys`: the fields at the columns of the table's first
primary-key constraint, none when it has no such constraint. -/
def getPrimaryKeys (table : TableReference) : Except SearchError (List String) := do
  let some _ := self.df table | throw (.error (.dataSourceNotFound table))
  let constraintIdx := (((datafusion.constraints table).getD []).findSome? fun
      | .primaryKey columns => some columns
      | .unique _ => none).getD []
  (project (datafusion.fieldNames table) constraintIdx).mapError .dataFusionError

/-- The method `VectorSearch::get_primary_keys_with_overrides`: each table's own primary keys,
else those the spicepod gives for it, else none. -/
def getPrimaryKeysWithOverrides (explicitPrimaryKeys : HashMap TableReference (List String))
    (tables : List TableReference) : Except SearchError (HashMap TableReference (List String)) :=
  tables.foldlM (fun tblToPks tbl => do
    let pks ← self.getPrimaryKeys datafusion tbl
    if !pks.isEmpty then
      pure (tblToPks.insert tbl pks)
    else
      match explicitPrimaryKeys.get tbl with
      | some explicitPks => pure (tblToPks.insert tbl explicitPks)
      | none => pure tblToPks) HashMap.empty

/-- The body of `search`'s loop for one table: its embedding column, its one search vector, and
the query's batches with the text of their last column. After the length check the vectors are
one, so the source's `unreachable!()` arm is never taken; the match below takes the vector out. -/
def retrieve (formatEmbedding : V → String) (n : Nat)
    (tablePrimaryKeys : HashMap TableReference (List String)) (tbl : TableReference)
    (searchVectors : List V) : Except (Exit SearchError) (List String × List RecordBatch) := do
  let some tableProvider := self.df tbl | throw (.err (.error (.dataSourceNotFound tbl)))
  let some embeddingColumn := (getEmbeddingTable tableProvider).bind
      (fun _ => (datafusion.embeddingColumns tbl).head?)
    | throw (.err (.error (.noEmbeddingColumns tbl)))
  match searchVectors with
  | [embedding] =>
    let selectKeys := (tablePrimaryKeys.get tbl).getD [] ++ [embeddingColumn]
    let batch ← (datafusion.sql (searchSql selectKeys tbl embeddingColumn (formatEmbedding embedding)
      n)).mapError fun e => .err (.dataFusionError e)
    let outt ← batch.mapM (lastColumnStrings embeddingColumn)
    pure (outt.flatten, batch)
  | _ => throw (.err (.incorrectNumberOfEmbeddingColumns tbl searchVectors.length))

/-- The method `VectorSearch::search`. The spicepod's primary keys are `explicitPrimaryKeys`;
`formatEmbedding` prints an embedding as `{:?}` does. -/
def search (explicitPrimaryKeys : HashMap TableReference (List String))
    (formatEmbedding : V → String) (query : String) (tables : List TableReference)
    (limit : RetrievalLimit) : StateT (List ModelKey) (Except (Exit SearchError)) VectorSearchResult :=
  do
  let n ← match limit with
    | .topN n => pure n
    | .threshold _ => throw (.panic (.unimplemented "not implemented"))
  let perTableEmbeddings ← liftSearch (self.calculateEmbeddingsPerTable query tables)
  let tablePrimaryKeys ← liftExcept ((self.getPrimaryKeysWithOverrides datafusion explicitPrimaryKeys
    tables).mapError Exit.err)
  liftExcept (perTableEmbeddings.entries.foldlM (fun response entry => do
    let (outtt, batch) ← self.retrieve datafusion formatEmbedding n tablePrimaryKeys entry.1 entry.2
    pure { retrievedEntries := response.retrievedEntries.insert entry.1 outtt,
           retrievedPublicKeys := response.retrievedPublicKeys.insert entry.1 batch })
    ⟨HashMap.empty, HashMap.empty⟩)

/-! ## What a returned embedding computation holds -/

/-- The models of the embedding table a table resolves to. -/
def modelsOf (t : TableReference) : Option (List ModelKey) :=
  ((self.df t).bind getEmbeddingTable).map EmbeddingTable.modelsUsed

section Run

variable {σ ε α β : Type} {x : StateT σ (Except ε) α} {f : α → StateT σ (Except ε) β}
  {s s'' : σ} {b : β}

@[simp] theorem throw_run {e : ε} : (throw e : StateT σ (Except ε) α).run s = .error e :=
  rfl

theorem liftExcept_run_eq_ok {x : Except ε α} {a : α} :
    (liftExcept x : StateT σ (Except ε) α).run s = .ok (a, s'') ↔ x = .ok a ∧ s'' = s := by
  cases x with
  | error e => exact ⟨nofun, fun ⟨h, _⟩ => nomatch h⟩
  | ok a' => exact ⟨fun h => by cases h; exact ⟨rfl, rfl⟩, fun ⟨h, hs⟩ => by cases h; cases hs; rfl⟩

theorem bind_run_eq_ok :
    (x >>= f).run s = .ok (b, s'') ↔ ∃ a s', x.run s = .ok (a, s') ∧ (f a).run s' = .ok (b, s'') := by
  simp only [StateT.run_bind]
  rcases x.run s with _ | ⟨a, s'⟩ <;> simp [bind, Except.bind, and_assoc]

end Run

theorem liftSearch_run_eq_ok {α : Type} {x : Search α} {s : List ModelKey} {p : α × List ModelKey} :
    (liftSearch x).run s = .ok p ↔ x.run s = .ok p :=
  mapError_eq_ok

/-- A loop whose every step inserts one key with a value computed from the key, or fails, returns
the map of every key's value. -/
theorem foldlM_insert_ok {κ ν : Type} [DecidableEq κ] {g : κ → Option ν}
    {step : HashMap κ ν → κ → StateT (List ModelKey) (Except Error) (HashMap κ ν)}
    (hstep : ∀ acc k s acc' s', (step acc k).run s = .ok (acc', s') →
      ∃ v, g k = some v ∧ acc' = acc.insert k v) :
    ∀ (l : List κ) (acc m : HashMap κ ν) (s s' : List ModelKey),
      (l.foldlM step acc).run s = .ok (m, s') →
      (∀ k ∈ l, (g k).isSome) ∧ ∀ k, m.get k = if k ∈ l then g k else acc.get k
  | [], acc, m, s, s', h => by
    cases h
    exact ⟨nofun, fun _ => rfl⟩
  | k :: l, acc, m, s, s', h => by
    obtain ⟨acc₁, s₁, h₁, hrest⟩ := bind_run_eq_ok.mp h
    obtain ⟨v, hv, rfl⟩ := hstep acc k s acc₁ s₁ h₁
    obtain ⟨hsome, hget⟩ := foldlM_insert_ok hstep l _ m s₁ s' hrest
    refine ⟨fun k' hk' => ?_, fun k' => ?_⟩
    · rcases List.mem_cons.mp hk' with rfl | hk'
      · simp [hv]
      · exact hsome k' hk'
    · rw [hget, HashMap.get_insert]
      by_cases h₁ : k' = k
      · subst h₁
        by_cases hl : k' ∈ l <;> simp [hl, hv]
      · simp [h₁]

/-- The tables of a returned `find_relevant_embedding_models` each resolve to an embedding table,
and the map gives each its models. -/
theorem findRelevantEmbeddingModels_ok {tables : List TableReference}
    {m : HashMap TableReference (List ModelKey)} {log log' : List ModelKey}
    (h : (self.findRelevantEmbeddingModels tables).run log = .ok (m, log')) :
    (∀ t ∈ tables, (self.modelsOf t).isSome) ∧
      ∀ t, m.get t = if t ∈ tables then self.modelsOf t else none := by
  refine foldlM_insert_ok (fun acc t s acc' s' hstep => ?_) tables _ m log log' h
  cases hdf : self.df t with
  | none => simp [hdf] at hstep
  | some table =>
    cases htable : getEmbeddingTable table with
    | none => simp [hdf, htable] at hstep
    | some e =>
      simp [hdf, htable] at hstep
      exact ⟨e.modelsUsed, by simp [modelsOf, hdf, htable], hstep.1.symm⟩

/-- The first embedding of the query by the model of the store, when the model answers with one. -/
def embedding (query : String) (m : ModelKey) : Option V :=
  (self.embeddings.get m).bind fun model =>
    match model.embed query with
    | .ok embeddings => embeddings.head?
    | .error _ => none

/-- A model that returns an embedding returns the model's first. -/
theorem embedding_of_ok {query : String} {m : ModelKey} {v : V} {s s' : List ModelKey}
    (h : (embeddingContext (self.embed query m)).run s = .ok (v, s')) :
    self.embedding query m = some v := by
  have h' : (self.embed query m).run s = .ok (v, s') := mapError_eq_ok.mp h
  simp only [embed, HashMap.findSome_eq_get] at h'
  cases hget : self.embeddings.get m with
  | none => simp [hget] at h'
  | some model =>
    cases hm : model.embed query with
    | error e => simp [hget, hm] at h'
    | ok es =>
      cases hes : es.head? with
      | none => simp [hget, hm, hes] at h'
      | some e =>
        simp [hget, hm, hes] at h'
        simp [embedding, hget, hm, hes, h'.1]

/-- A returned `calculate_embeddings_per_table` gives each requested table, and no other, one
embedding per model of its embedding table, in the order of the models. -/
theorem calculateEmbeddingsPerTable_ok {query : String} {tables : List TableReference}
    {res : HashMap TableReference (List V)} {log log' : List ModelKey}
    (h : (self.calculateEmbeddingsPerTable query tables).run log = .ok (res, log'))
    (t : TableReference) :
    (t ∈ tables → ∃ names vs, self.modelsOf t = some names ∧ res.get t = some vs ∧
      List.Forall₂ (fun m v => self.embedding query m = some v) names vs) ∧
    (t ∉ tables → res.get t = none) := by
  obtain ⟨toRun, s₁, h₁, h⟩ := bind_run_eq_ok.mp h
  obtain ⟨inputs, s₂, h₂, h⟩ := bind_run_eq_ok.mp h
  cases h
  obtain ⟨hres, hget⟩ := self.findRelevantEmbeddingModels_ok h₁
  obtain ⟨hemb, hinputs⟩ := foldlM_insert_ok (g := self.embedding query)
    (fun acc k s acc' s' hstep => by
      obtain ⟨v, s₃, hv, hstep⟩ := bind_run_eq_ok.mp hstep
      cases hstep
      exact ⟨v, self.embedding_of_ok hv, rfl⟩) _ _ _ _ _ h₂
  refine ⟨fun ht => ?_, fun ht => by rw [HashMap.get_mapValues, hget, if_neg ht]; rfl⟩
  obtain ⟨names, hnames⟩ := Option.isSome_iff_exists.mp (hres t ht)
  have hflat : ∀ m ∈ names, m ∈ toRun.values.flatten := fun m hm =>
    List.mem_flatten.mpr ⟨names, List.mem_map.mpr ⟨(t, names),
      HashMap.get_eq_some_iff.mp (by rw [hget, if_pos ht, hnames]), rfl⟩, hm⟩
  refine ⟨names, _, hnames, by rw [HashMap.get_mapValues, hget, if_pos ht, hnames]; rfl, ?_⟩
  dsimp only
  rw [List.filterMap_congr fun m hm => (hinputs m).trans (if_pos (hflat m hm))]
  exact forall₂_filterMap fun m hm => hemb m (hflat m hm)

/-! ## The primary keys -/

/-- A loop whose every step looks a key up, then inserts the value found or leaves the map as it
is, returns exactly when every lookup does, with the map of the values found. -/
theorem foldlM_update_ok {ε κ ν : Type} [DecidableEq κ] (f : κ → Except ε (Option ν)) :
    ∀ (l : List κ) (acc : HashMap κ ν),
      ((∃ m, l.foldlM (fun acc k => (f k).map (acc.insertOpt k)) acc = .ok m) ↔
        ∀ k ∈ l, ∃ o, f k = .ok o) ∧
      ∀ m, l.foldlM (fun acc k => (f k).map (acc.insertOpt k)) acc = .ok m → ∀ k,
        (k ∈ l → ∃ o, f k = .ok o ∧ m.get k = o.or (acc.get k)) ∧ (k ∉ l → m.get k = acc.get k)
  | [], acc => ⟨⟨fun _ => nofun, fun _ => ⟨acc, rfl⟩⟩, fun m h k => by cases h; exact ⟨nofun, fun _ => rfl⟩⟩
  | k :: l, acc => by
    rw [List.foldlM_cons]
    rcases hk : f k with e | o
    · exact ⟨⟨fun ⟨_, h⟩ => (nomatch h), fun h => let ⟨_, h'⟩ := h k (.head _); nomatch hk.symm.trans h'⟩,
        fun _ h => (nomatch h)⟩
    · obtain ⟨hiff, hget⟩ := foldlM_update_ok f l (acc.insertOpt k o)
      refine ⟨?_, fun m h k' => ?_⟩
      · rw [Except.map, ok_bind, hiff, List.forall_mem_cons]
        exact ⟨fun h => ⟨⟨o, hk⟩, h⟩, And.right⟩
      · rw [Except.map, ok_bind] at h
        obtain ⟨hin, hout⟩ := hget m h k'
        rw [HashMap.get_insertOpt] at hin hout
        refine ⟨fun hk' => ?_, fun hk' => ?_⟩
        · by_cases hl : k' ∈ l
          · obtain ⟨o', ho', hm⟩ := hin hl
            refine ⟨o', ho', hm.trans ?_⟩
            split_ifs with h₁
            · subst h₁
              rw [hk] at ho'
              cases ho'
              rw [← Option.or_assoc, Option.or_self]
            · rfl
          · have h₁ : k' = k := (List.mem_cons.mp hk').resolve_right hl
            subst h₁
            exact ⟨o, hk, by rw [hout hl, if_pos rfl]⟩
        · rw [List.mem_cons, not_or] at hk'
          rw [hout hk'.2, if_neg hk'.1]

/-- The loop of `get_primary_keys_with_overrides`, as one lookup per table: the table's own
primary keys when there are any, else the spicepod's. -/
theorem getPrimaryKeysWithOverrides_eq (explicitPrimaryKeys : HashMap TableReference (List String))
    (tables : List TableReference) :
    self.getPrimaryKeysWithOverrides datafusion explicitPrimaryKeys tables =
      tables.foldlM (fun acc tbl => ((self.getPrimaryKeys datafusion tbl).map fun pks =>
        if pks = [] then explicitPrimaryKeys.get tbl else some pks).map (acc.insertOpt tbl))
        HashMap.empty := by
  unfold getPrimaryKeysWithOverrides
  congr 1
  funext acc tbl
  rcases self.getPrimaryKeys datafusion tbl with e | _ | ⟨p, pks⟩
  · rfl
  · cases explicitPrimaryKeys.get tbl <;> rfl
  · rfl

/-- `get_primary_keys_with_overrides` returns exactly when every table's own lookup does: the
spicepod's keys never stand in for a lookup that fails. It then gives each requested table its own
primary keys when there are any, else the spicepod's, and no other table any. -/
theorem getPrimaryKeysWithOverrides_ok (explicitPrimaryKeys : HashMap TableReference (List String))
    (tables : List TableReference) :
    ((∃ m, self.getPrimaryKeysWithOverrides datafusion explicitPrimaryKeys tables = .ok m) ↔
        ∀ t ∈ tables, ∃ pks, self.getPrimaryKeys datafusion t = .ok pks) ∧
      ∀ m, self.getPrimaryKeysWithOverrides datafusion explicitPrimaryKeys tables = .ok m →
        ∀ t, (t ∉ tables → m.get t = none) ∧ (t ∈ tables → ∃ pks,
          self.getPrimaryKeys datafusion t = .ok pks ∧
            m.get t = if pks = [] then explicitPrimaryKeys.get t else some pks) := by
  rw [getPrimaryKeysWithOverrides_eq]
  obtain ⟨hiff, hget⟩ := foldlM_update_ok (fun tbl => (self.getPrimaryKeys datafusion tbl).map
    fun pks => if pks = [] then explicitPrimaryKeys.get tbl else some pks) tables HashMap.empty
  refine ⟨hiff.trans (forall₂_congr fun t _ => ?_), fun m h t => ?_⟩
  · cases self.getPrimaryKeys datafusion t <;> simp [Except.map]
  · obtain ⟨hin, hout⟩ := hget m h t
    refine ⟨hout, fun ht => ?_⟩
    obtain ⟨o, ho, hm⟩ := hin ht
    rcases hpk : self.getPrimaryKeys datafusion t with e | pks
    · simp [hpk, Except.map] at ho
    · simp only [hpk, Except.map, Except.ok.injEq] at ho
      exact ⟨pks, rfl, by rw [hm, ← ho, HashMap.get_empty, Option.or_none]⟩

/-! ## The search -/

/-- What a returned `retrieve` has done: the table resolves to an embedding table with an
embedding column, there was one search vector, the query's batches were collected and each has
a text column last. It returns their text and the batches. -/
theorem retrieve_ok {formatEmbedding : V → String} {n : Nat}
    {tablePrimaryKeys : HashMap TableReference (List String)} {tbl : TableReference}
    {searchVectors : List V} {p : List String × List RecordBatch}
    (h : self.retrieve datafusion formatEmbedding n tablePrimaryKeys tbl searchVectors = .ok p) :
    ∃ v column batches outs, ((self.df tbl).bind getEmbeddingTable).isSome ∧
      (datafusion.embeddingColumns tbl).head? = some column ∧ searchVectors = [v] ∧
      datafusion.sql (searchSql ((tablePrimaryKeys.get tbl).getD [] ++ [column]) tbl column
        (formatEmbedding v) n) = .ok batches ∧
      batches.mapM (lastColumnStrings column) = .ok outs ∧ p = (outs.flatten, batches) := by
  unfold retrieve at h
  rcases hdf : self.df tbl with _ | provider
  · simp only [hdf] at h
    cases h
  rcases het : getEmbeddingTable provider with _ | et
  · simp only [hdf, het, Option.none_bind] at h
    cases h
  rcases hcol : (datafusion.embeddingColumns tbl).head? with _ | column
  · simp only [hdf, het, hcol, Option.some_bind] at h
    cases h
  simp only [hdf, het, hcol, Option.some_bind] at h
  rcases searchVectors with _ | ⟨v, _ | ⟨w, vs⟩⟩
  · cases h
  · obtain ⟨batches, hsql, h⟩ := bind_eq_ok.mp h
    obtain ⟨outs, houts, h⟩ := bind_eq_ok.mp h
    cases h
    exact ⟨v, column, batches, outs, by simp [het], rfl, rfl, mapError_eq_ok.mp hsql, houts, rfl⟩
  · cases h

/-- The loop of `search` over the embeddings of distinct tables: a loop that returns has retrieved
every entry, and holds for the table of each entry what was retrieved, and for any other table
what it started with. -/
theorem foldlM_retrieve_ok {ε α : Type}
    {r : TableReference × α → Except ε (List String × List RecordBatch)}
    {step : VectorSearchResult → TableReference × α → Except ε VectorSearchResult}
    (hstep : ∀ resp e resp', step resp e = .ok resp' → ∃ p, r e = .ok p ∧
      resp' = ⟨resp.retrievedEntries.insert e.1 p.1, resp.retrievedPublicKeys.insert e.1 p.2⟩) :
    ∀ (l : List (TableReference × α)) (acc res : VectorSearchResult), (l.map Prod.fst).Nodup →
      l.foldlM step acc = .ok res →
      (∀ e ∈ l, ∃ p, r e = .ok p ∧ res.retrievedEntries.get e.1 = some p.1 ∧
        res.retrievedPublicKeys.get e.1 = some p.2) ∧
      ∀ t ∉ l.map Prod.fst, res.retrievedEntries.get t = acc.retrievedEntries.get t ∧
        res.retrievedPublicKeys.get t = acc.retrievedPublicKeys.get t
  | [], acc, res, _, h => by
    cases h
    exact ⟨nofun, fun _ _ => ⟨rfl, rfl⟩⟩
  | e :: l, acc, res, hnd, h => by
    rw [List.foldlM_cons, bind_eq_ok] at h
    obtain ⟨resp, h₁, h⟩ := h
    obtain ⟨p, hp, rfl⟩ := hstep acc e resp h₁
    rw [List.map_cons, List.nodup_cons] at hnd
    obtain ⟨hall, hout⟩ := foldlM_retrieve_ok hstep l _ res hnd.2 h
    refine ⟨fun e' he' => ?_, fun t ht => ?_⟩
    · rcases List.mem_cons.mp he' with rfl | he'
      · obtain ⟨h₁, h₂⟩ := hout e'.1 hnd.1
        exact ⟨p, hp, by simp [h₁], by simp [h₂]⟩
      · exact hall e' he'
    · rw [List.map_cons, List.mem_cons, not_or] at ht
      obtain ⟨h₁, h₂⟩ := hout t ht.2
      simp [h₁, h₂, ht.1]

/-- A search that returns had a `TopN` limit and found every table's primary keys. It holds, for
exactly the requested tables, the batches of the table's query and their text: each requested
table uses exactly one embedding model, the query embedded by it is the search vector, and the
query selects the table's primary keys and its first embedding column. -/
theorem search_ok {explicitPrimaryKeys : HashMap TableReference (List String)}
    {formatEmbedding : V → String} {query : String} {tables : List TableReference}
    {limit : RetrievalLimit} {res : VectorSearchResult} {log log' : List ModelKey}
    (h : (self.search datafusion explicitPrimaryKeys formatEmbedding query tables limit).run log =
      .ok (res, log')) :
    ∃ n pks, limit = .topN n ∧
      self.getPrimaryKeysWithOverrides datafusion explicitPrimaryKeys tables = .ok pks ∧
      ∀ t, (t ∉ tables → res.retrievedEntries.get t = none ∧ res.retrievedPublicKeys.get t = none) ∧
        (t ∈ tables → ∃ m v column batches outs,
          self.modelsOf t = some [m] ∧ self.embedding query m = some v ∧
          (datafusion.embeddingColumns t).head? = some column ∧
          datafusion.sql (searchSql ((pks.get t).getD [] ++ [column]) t column (formatEmbedding v)
            n) = .ok batches ∧
          batches.mapM (lastColumnStrings column) = .ok outs ∧
          res.retrievedEntries.get t = some outs.flatten ∧
          res.retrievedPublicKeys.get t = some batches) := by
  unfold search at h
  cases limit with
  | threshold _ => cases h
  | topN n =>
  simp only [pure_bind] at h
  obtain ⟨perTable, s₂, hembRun, h⟩ := bind_run_eq_ok.mp h
  obtain ⟨pks, s₃, hpksRun, hloopRun⟩ := bind_run_eq_ok.mp h
  obtain ⟨hpks, rfl⟩ := liftExcept_run_eq_ok.mp hpksRun
  obtain ⟨hloop, rfl⟩ := liftExcept_run_eq_ok.mp hloopRun
  have hemb := self.calculateEmbeddingsPerTable_ok (liftSearch_run_eq_ok.mp hembRun)
  obtain ⟨hall, hout⟩ := foldlM_retrieve_ok
    (r := fun e => self.retrieve datafusion formatEmbedding n pks e.1 e.2)
    (fun resp e resp' hstep => by
      obtain ⟨⟨o, b⟩, hp, h⟩ := bind_eq_ok.mp hstep
      cases h
      exact ⟨(o, b), hp, rfl⟩) _ _ _ perTable.nodup_keys hloop
  refine ⟨n, pks, rfl, mapError_eq_ok.mp hpks, fun t => ⟨fun ht => hout t fun hm => ?_, fun ht => ?_⟩⟩
  · obtain ⟨⟨t', vs⟩, hmem, rfl⟩ := List.mem_map.mp hm
    have hnone := (hemb t').2 ht
    rw [HashMap.get_eq_some_iff.mpr hmem] at hnone
    cases hnone
  · obtain ⟨names, vs, hnames, hvs, hfor⟩ := (hemb t).1 ht
    obtain ⟨p, hp, hE, hP⟩ := hall (t, vs) (HashMap.get_eq_some_iff.mp hvs)
    obtain ⟨v, column, batches, outs, -, hcol, rfl, hsql, houts, rfl⟩ := self.retrieve_ok datafusion hp
    obtain ⟨m, u, hm, hu, rfl⟩ := List.forall₂_cons_right_iff.mp hfor
    rw [List.forall₂_nil_right_iff] at hu
    subst hu
    exact ⟨m, v, column, batches, outs, hnames, hm, hcol, hsql, houts, hE, hP⟩

/-- A search of one table whose query collects no batch returns that table with no text, and no
other table. -/
theorem search_ok_one_table :
    ∃ res log', (VectorSearch.search (V := Nat)
        ⟨fun t => if t = "docs" then some (.embeddingTable ⟨["m"]⟩) else none,
          ⟨[("m", ⟨fun _ => .ok [7]⟩)], by decide⟩⟩
        ⟨fun _ => none, fun _ => [], fun _ => ["body"], fun _ => .ok []⟩
        HashMap.empty toString "q" ["docs"] (.topN 3)).run [] = .ok (res, log') ∧
      res.retrievedEntries.get "docs" = some [] ∧ res.retrievedEntries.get "other" = none := by
  obtain ⟨res, log', h⟩ : ∃ res log', (VectorSearch.search (V := Nat)
          ⟨fun t => if t = "docs" then some (.embeddingTable ⟨["m"]⟩) else none,
            ⟨[("m", ⟨fun _ => .ok [7]⟩)], by decide⟩⟩
          ⟨fun _ => none, fun _ => [], fun _ => ["body"], fun _ => .ok []⟩
          HashMap.empty toString "q" ["docs"] (.topN 3)).run [] =
      .ok (res, log') := ⟨_, _, rfl⟩
  obtain ⟨n, pks, -, -, ht⟩ := VectorSearch.search_ok _ _ h
  obtain ⟨_, _, _, batches, outs, -, -, -, hsql, houts, hE, -⟩ := (ht "docs").2 (.head _)
  cases hsql
  cases houts
  exact ⟨res, log', h, hE, ((ht "other").1 (by decide)).1⟩

/-! ## When the search returns -/

/-- A table that resolves to an embedding table with an embedding column, searched with one
vector, whose query is collected and has a text column last, is retrieved. -/
theorem retrieve_eq_ok {formatEmbedding : V → String} {n : Nat}
    {tablePrimaryKeys : HashMap TableReference (List String)} {tbl : TableReference}
    {table : TableProvider} {et : EmbeddingTable} {column : String} {v : V}
    {batches : List RecordBatch} {outs : List (List String)}
    (hdf : self.df tbl = some table) (het : getEmbeddingTable table = some et)
    (hcol : (datafusion.embeddingColumns tbl).head? = some column)
    (hsql : datafusion.sql (searchSql ((tablePrimaryKeys.get tbl).getD [] ++ [column]) tbl column
      (formatEmbedding v) n) = .ok batches)
    (houts : batches.mapM (lastColumnStrings column) = .ok outs) :
    self.retrieve datafusion formatEmbedding n tablePrimaryKeys tbl [v] = .ok (outs.flatten, batches) := by
  simp only [retrieve, hdf, het, hcol, Option.some_bind, hsql]
  exact bind_eq_ok.mpr ⟨batches, rfl, by rw [houts]; rfl⟩

/-- A loop whose every step inserts what it retrieves returns when every retrieval does. -/
theorem foldlM_retrieve_run {ε α : Type}
    {r : TableReference × α → Except ε (List String × List RecordBatch)}
    {step : VectorSearchResult → TableReference × α → Except ε VectorSearchResult}
    (hstep : ∀ resp e p, r e = .ok p → step resp e =
      .ok ⟨resp.retrievedEntries.insert e.1 p.1, resp.retrievedPublicKeys.insert e.1 p.2⟩) :
    ∀ (l : List (TableReference × α)) (acc : VectorSearchResult), (∀ e ∈ l, ∃ p, r e = .ok p) →
      ∃ res, l.foldlM step acc = .ok res
  | [], acc, _ => ⟨acc, rfl⟩
  | e :: l, acc, h => by
    obtain ⟨p, hp⟩ := h e (.head _)
    rw [List.foldlM_cons, hstep acc e p hp, ok_bind]
    exact foldlM_retrieve_run hstep l _ fun e' he' => h e' (.tail _ he')

/-- A search with a `TopN` limit returns when every requested table resolves to an embedding table
of one model, the model answers the query, the primary keys are found, and each table has an
embedding column whose query DataFusion collects into batches with a text column last. -/
theorem search_run {explicitPrimaryKeys : HashMap TableReference (List String)}
    {formatEmbedding : V → String} {query : String} {tables : List TableReference} {n : Nat}
    (models : TableReference → ModelKey) (vec : ModelKey → V)
    (pks : HashMap TableReference (List String))
    (hres : ∀ t ∈ tables, ∃ table, self.df t = some table ∧
      getEmbeddingTable table = some ⟨[models t]⟩)
    (hmodels : ∀ t ∈ tables, ∃ model vs, self.embeddings.get (models t) = some model ∧
      model.embed query = .ok (vec (models t) :: vs))
    (hpks : self.getPrimaryKeysWithOverrides datafusion explicitPrimaryKeys tables = .ok pks)
    (hquery : ∀ t ∈ tables, ∃ column batches outs,
      (datafusion.embeddingColumns t).head? = some column ∧
      datafusion.sql (searchSql ((pks.get t).getD [] ++ [column]) t column
        (formatEmbedding (vec (models t))) n) = .ok batches ∧
      batches.mapM (lastColumnStrings column) = .ok outs)
    (log : List ModelKey) :
    ∃ res log', (self.search datafusion explicitPrimaryKeys formatEmbedding query tables
      (.topN n)).run log = .ok (res, log') := by
  obtain ⟨perTable, hemb, hget⟩ := self.calculateEmbeddingsPerTable_eq query
    (fun t => [models t]) vec tables hres (fun t ht m hm => by
      obtain rfl := List.mem_singleton.mp hm
      exact hmodels t ht) log
  obtain ⟨res, hloop⟩ := @foldlM_retrieve_run _ _
    (fun e => self.retrieve datafusion formatEmbedding n pks e.1 e.2)
    (fun response entry =>
      self.retrieve datafusion formatEmbedding n pks entry.1 entry.2 >>= fun p =>
        pure { retrievedEntries := response.retrievedEntries.insert entry.1 p.1,
               retrievedPublicKeys := response.retrievedPublicKeys.insert entry.1 p.2 })
    (fun resp e p hp => by simp only [hp, ok_bind]; rfl) perTable.entries ⟨HashMap.empty, HashMap.empty⟩
    (fun ⟨t, vs⟩ he => by
      have hvs := HashMap.get_eq_some_iff.mpr he
      rw [hget] at hvs
      split at hvs
      · rename_i ht
        cases hvs
        obtain ⟨table, hdf, het⟩ := hres t ht
        obtain ⟨column, batches, outs, hcol, hsql, houts⟩ := hquery t ht
        exact ⟨_, self.retrieve_eq_ok datafusion hdf het hcol hsql houts⟩
      · cases hvs)
  unfold search
  simp only [pure_bind]
  exact ⟨res, _, bind_run_eq_ok.mpr ⟨perTable, _, liftSearch_run_eq_ok.mpr hemb,
    bind_run_eq_ok.mpr ⟨pks, _, liftExcept_run_eq_ok.mpr ⟨by rw [hpks]; rfl, rfl⟩,
      liftExcept_run_eq_ok.mpr ⟨hloop, rfl⟩⟩⟩⟩

/-- The search of one table of one model whose query collects no batch returns. -/
theorem search_run_one_table :
    ∃ res log', (VectorSearch.search (V := Nat)
        ⟨fun t => if t = "docs" then some (.embeddingTable ⟨["m"]⟩) else none,
          ⟨[("m", ⟨fun _ => .ok [7]⟩)], by decide⟩⟩
        ⟨fun _ => none, fun _ => [], fun _ => ["body"], fun _ => .ok []⟩
        HashMap.empty toString "q" ["docs"] (.topN 3)).run [] = .ok (res, log') := by
  refine VectorSearch.search_run _ _ (fun _ => "m") (fun _ => 7) HashMap.empty
    (fun t ht => ?_) (fun t ht => ?_) ?_ (fun t _ => ?_) []
  · obtain rfl := List.mem_singleton.mp ht
    exact ⟨_, rfl, rfl⟩
  · obtain rfl := List.mem_singleton.mp ht
    exact ⟨_, [], rfl, rfl⟩
  · rfl
  · exact ⟨"body", [], [], rfl, rfl, rfl⟩

end VectorSearch

end SpiceAi.Embeddings
