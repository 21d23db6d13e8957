import SpiceAi.HashMap

/-!
# Embeddings for a vector search

`VectorSearch.calculateEmbeddingsPerTable` is `VectorSearch::calculate_embeddings_per_table`. It
finds the embedding models each table uses (`findRelevantEmbeddingModels`), embeds the query with
each model it finds (`embed`), and returns for each table the embeddings of its models. The
DataFusion tables, the embedding models and `EmbeddingTable` are not in src/: a `VectorSearch` is
any of them.

The state of a call is the list of models it has run, in order. Read
`calculateEmbeddingsPerTable_run` first: when every table resolves to an embedding table and every
model answers, the call returns each table's embeddings, and the models it has run are, up to
order, each distinct table's models in turn. So a model that several tables use runs once for
each of them, as the last theorem shows at two tables of one model.
-/

namespace SpiceAi.Embeddings

/-- A table's name, as `TableReference` displays it. -/
abbrev TableReference := String

/-- The type `ModelKey`: an embedding model's name. -/
abbrev ModelKey := String

/-- The errors of the functions modelled here, each with the message of its source. -/
inductive Error where
  | dataSourceNotFound (dataSource : String)
  | noEmbeddingColumns (dataSource : String)
  | embeddingModelNotFound (modelName : String)
  | embeddingError (source : String)
  deriving DecidableEq

/-- The message of an error, as its `snafu(display)` attribute gives it. -/
def Error.message : Error → String
  | .dataSourceNotFound dataSource => "Data source " ++ dataSource ++ " does not exist"
  | .noEmbeddingColumns dataSource =>
    "Data source " ++ dataSource ++ " does not contain any embedding columns"
  | .embeddingModelNotFound modelName => "Embedding model " ++ modelName ++ " not found"
  | .embeddingError source => "Error embedding input text: " ++ source

/-- An `EmbeddingTable`, by the models it uses (`get_embedding_models_used`). -/
structure EmbeddingTable where
  modelsUsed : List ModelKey

/-- A table of DataFusion, by what `get_embedding_table` looks for in it. -/
inductive TableProvider where
  | embeddingTable (table : EmbeddingTable)
  | acceleratedTable (federated : TableProvider)
  | other

/-- The function `get_embedding_table`: an `EmbeddingTable`, or an `AcceleratedTable` whose
federated table is one. -/
def getEmbeddingTable : TableProvider → Option EmbeddingTable
  | .embeddingTable table => some table
  | .acceleratedTable (.embeddingTable table) => some table
  | _ => none

/-- An embedding model: the embeddings of an input, or the model's error. `V` is an embedding
vector, `Vec<f32>`. -/
structure EmbeddingModel (V : Type) where
  embed : String → Except String (List V)

/-- The repository's `VectorSearch`, with what the functions modelled here read: the tables of
`df` by name, and the store of embedding models. -/
structure VectorSearch (V : Type) where
  df : TableReference → Option TableProvider
  embeddings : HashMap ModelKey (EmbeddingModel V)

/-- A call of the vector search. It returns a value or an error, and its state is the list of the
models it has run. -/
abbrev Search (α : Type) := StateT (List ModelKey) (Except Error) α

/-- The context `.boxed().context(EmbeddingSnafu)`: an error becomes an `EmbeddingError` whose
source is that error. -/
def embeddingContext {α : Type} (x : Search α) : Search α :=
  fun models => (x models).mapError fun e => .embeddingError e.message

namespace VectorSearch

variable {V : Type} (self : VectorSearch V)

/-- The method `VectorSearch::find_relevant_embedding_models`. -/
def findRelevantEmbeddingModels (dataSources : List TableReference) :
    Search (HashMap TableReference (List ModelKey)) :=
  dataSources.foldlM (fun embeddingsToRun dataSource => do
    let some table := self.df dataSource | throw (.dataSourceNotFound dataSource)
    let some embeddingTable := getEmbeddingTable table | throw (.noEmbeddingColumns dataSource)
    pure (embeddingsToRun.insert dataSource embeddingTable.modelsUsed)) HashMap.empty

/-- The method `VectorSearch::embed`: the model of the name in the store runs on the input, and
its first embedding is returned. -/
def embed (input : String) (embeddingModel : String) : Search V := do
  let some model := self.embeddings.entries.findSome?
      (fun e => if e.1 = embeddingModel then some e.2 else none)
    | throw (.embeddingModelNotFound embeddingModel)
  modify (· ++ [embeddingModel])
  match model.embed input with
  | .error e => throw (.embeddingError e)
  | .ok embeddings =>
    match embeddings.head? with
    | some embedding => pure embedding
    | none => throw (.embeddingError ("No embeddings returned for input text from " ++ embeddingModel))

/-- The method `VectorSearch::calculate_embeddings_per_table`. The query is embedded with each
model of each table, in the order the map's values iterate, and each table gets the embeddings of
its models. -/
def calculateEmbeddingsPerTable (query : String) (dataSources : List TableReference) :
    Search (HashMap TableReference (List V)) := do
  let embeddingsToRun ← self.findRelevantEmbeddingModels dataSources
  let embeddedInputs ← embeddingsToRun.values.flatten.foldlM (fun embeddedInputs model => do
    let result ← embeddingContext (self.embed query model)
    pure (embeddedInputs.insert model result)) HashMap.empty
  pure (embeddingsToRun.mapValues fun modelNames => modelNames.filterMap embeddedInputs.get)

/-! ## Running a search -/

section Run

variable {α β : Type} {x : Search α} {f : α → Search β} {s s' : List ModelKey} {a : α}

theorem bind_run_of_ok (h : x.run s = .ok (a, s')) : (x >>= f).run s = (f a).run s' := by
  simp only [StateT.run_bind, h]
  rfl

theorem embeddingContext_run_of_ok (h : x.run s = .ok (a, s')) :
    (embeddingContext x).run s = .ok (a, s') := by
  show (x.run s).mapError _ = _
  rw [h]
  rfl

end Run

section Spec

variable (query : String) (models : TableReference → List ModelKey) (vec : ModelKey → V)

/-- A model of the store that answers runs once, and its first embedding is returned. -/
theorem embed_run {m : ModelKey} {model : EmbeddingModel V} {vs : List V}
    (hget : self.embeddings.get m = some model) (hembed : model.embed query = .ok (vec m :: vs))
    (log : List ModelKey) : (self.embed query m).run log = .ok (vec m, log ++ [m]) := by
  simp only [embed, HashMap.findSome_eq_get, hget, hembed]
  rfl

/-- When every table resolves to an embedding table, the models to run are each table's models. -/
theorem findRelevantEmbeddingModels_run (dataSources : List TableReference)
    (hres : ∀ t ∈ dataSources, ∃ table, self.df t = some table ∧
      getEmbeddingTable table = some ⟨models t⟩) (log : List ModelKey) :
    (self.findRelevantEmbeddingModels dataSources).run log =
      .ok (HashMap.insertAll models HashMap.empty dataSources, log) := by
  unfold findRelevantEmbeddingModels
  generalize HashMap.empty = acc
  induction dataSources generalizing acc with
  | nil => rfl
  | cons t ts ih =>
    obtain ⟨table, hdf, htable⟩ := hres t (.head _)
    simp only [List.foldlM_cons, hdf, htable, pure_bind]
    exact ih (fun t' ht' => hres t' (.tail _ ht')) _

/-- The loop of `calculate_embeddings_per_table` runs each model of the list, in order. -/
theorem embedAll_run : ∀ (l : List ModelKey) (acc : HashMap ModelKey V) (log : List ModelKey),
    (∀ m ∈ l, ∃ model vs, self.embeddings.get m = some model ∧ model.embed query = .ok (vec m :: vs)) →
    (l.foldlM (fun embeddedInputs model => do
        let result ← embeddingContext (self.embed query model)
        pure (embeddedInputs.insert model result)) acc : Search (HashMap ModelKey V)).run log =
      .ok (HashMap.insertAll vec acc l, log ++ l)
  | [], _, log, _ => by simp only [List.append_nil]; rfl
  | m :: l, acc, log, hl => by
    obtain ⟨model, vs, hget, hembed⟩ := hl m (.head _)
    simp only [List.foldlM_cons, bind_assoc, pure_bind,
      bind_run_of_ok (embeddingContext_run_of_ok (embed_run self query vec hget hembed log))]
    rw [embedAll_run l _ _ fun m' hm' => hl m' (.tail _ hm'), List.append_assoc]
    rfl

/-- When every table resolves to an embedding table and every model answers, the embeddings are
computed: each table gets its models' embeddings, in order, and the models run are those of the
map from each table to its models, one after another. -/
theorem calculateEmbeddingsPerTable_eq (dataSources : List TableReference)
    (hres : ∀ t ∈ dataSources, ∃ table, self.df t = some table ∧
      getEmbeddingTable table = some ⟨models t⟩)
    (hmodels : ∀ t ∈ dataSources, ∀ m ∈ models t,
      ∃ model vs, self.embeddings.get m = some model ∧ model.embed query = .ok (vec m :: vs))
    (log : List ModelKey) :
    ∃ result, (self.calculateEmbeddingsPerTable query dataSources).run log =
        .ok (result, log ++ (HashMap.insertAll models HashMap.empty dataSources).values.flatten) ∧
      ∀ t, result.get t = if t ∈ dataSources then some ((models t).map vec) else none := by
  let embeddingsToRun := HashMap.insertAll models HashMap.empty dataSources
  let embeddedInputs := HashMap.insertAll vec HashMap.empty embeddingsToRun.values.flatten
  have hmem : ∀ m, m ∈ embeddingsToRun.values.flatten ↔ ∃ t ∈ dataSources, m ∈ models t :=
    fun m => by
      rw [(HashMap.values_insertAll models dataSources).flatten.mem_iff]
      simp
  refine ⟨embeddingsToRun.mapValues fun modelNames => modelNames.filterMap embeddedInputs.get,
    ?_, fun t => ?_⟩
  · rw [calculateEmbeddingsPerTable,
      bind_run_of_ok (findRelevantEmbeddingModels_run self models _ hres log),
      bind_run_of_ok (embedAll_run self query vec _ _ log fun m hm => ?_)]
    · rfl
    · obtain ⟨t, ht, hm⟩ := (hmem m).mp hm
      exact hmodels t ht m hm
  · rw [HashMap.get_mapValues, HashMap.get_insertAll]
    split
    · rename_i ht
      refine congrArg some (List.filterMap_eq_map_iff_forall_eq_some.mpr fun m hm => ?_)
      rw [HashMap.get_insertAll, if_pos ((hmem m).mpr ⟨t, ht, hm⟩)]
    · rfl

/-- When every table resolves to an embedding table and every model answers, the search returns
each table's embeddings, in the order of its models; and the models it runs are, up to order, the
models of each distinct table in turn. -/
theorem calculateEmbeddingsPerTable_run (dataSources : List TableReference)
    (hres : ∀ t ∈ dataSources, ∃ table, self.df t = some table ∧
      getEmbeddingTable table = some ⟨models t⟩)
    (hmodels : ∀ t ∈ dataSources, ∀ m ∈ models t,
      ∃ model vs, self.embeddings.get m = some model ∧ model.embed query = .ok (vec m :: vs))
    (log : List ModelKey) :
    ∃ result inferences, (self.calculateEmbeddingsPerTable query dataSources).run log =
        .ok (result, log ++ inferences) ∧
      inferences.Perm (dataSources.dedup.flatMap models) ∧
      ∀ t, result.get t = if t ∈ dataSources then some ((models t).map vec) else none := by
  obtain ⟨result, hrun, hget⟩ :=
    self.calculateEmbeddingsPerTable_eq query models vec dataSources hres hmodels log
  exact ⟨result, _, hrun, (HashMap.values_insertAll models dataSources).flatten, hget⟩

end Spec

end VectorSearch

/-- One table of one model that answers: the model runs once and the table gets its embedding. -/
theorem calculate_embeddings_one_table :
    ∃ result inferences, (VectorSearch.calculateEmbeddingsPerTable (V := Nat)
        ⟨fun t => if t = "a" then some (.embeddingTable ⟨["m"]⟩) else none,
          ⟨[("m", ⟨fun _ => .ok [1]⟩)], by decide⟩⟩ "q" ["a"]).run [] =
        .ok (result, [] ++ inferences) ∧
      inferences.Perm (["a"].dedup.flatMap fun _ => ["m"]) ∧
      ∀ t, result.get t = if t ∈ ["a"] then some (["m"].map fun _ => 1) else none :=
  VectorSearch.calculateEmbeddingsPerTable_run _ "q" (fun _ => ["m"]) (fun _ => 1) ["a"]
    (fun t ht => by
      obtain rfl := List.mem_singleton.mp ht
      exact ⟨_, rfl, rfl⟩)
    (fun _ _ m hm => by
      obtain rfl := List.mem_singleton.mp hm
      exact ⟨_, [], rfl, rfl⟩) []

/-- Two tables of one model: the model runs once for each table, not once for the search. -/
theorem shared_embedding_model_runs_twice :
    ∃ result, (VectorSearch.calculateEmbeddingsPerTable
        ⟨fun t => if t = "a" ∨ t = "b" then some (.embeddingTable ⟨["m"]⟩) else none,
          ⟨[("m", ⟨fun _ => .ok [[1]]⟩)], by decide⟩⟩ "q" ["a", "b"]).run [] =
        .ok (result, ["m", "m"]) ∧
      result.get "a" = some [[1]] ∧ result.get "b" = some [[1]] :=
  ⟨_, rfl, rfl, rfl⟩

end SpiceAi.Embeddings
