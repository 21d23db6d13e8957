import SpiceAi.Snowflake.SchemaCast

/-!
# The Snowflake connection

`SnowflakeConnection` reads a table's schema (`getSchema`, `get_schema`) and runs a query as a
stream of record batches (`queryArrow`, `query_arrow`), casting every batch by
`snowflake_schema_cast`. The Snowflake API is not in src/: a `SnowflakeApi` is any answer to the
two calls the connection makes. A stream is the list of what polling it gives, element after
element; a stream that never ends is outside the model.

`query_arrow` polls the cast stream once to learn the schema it declares, then chains the batch
it took back in front of the rest. Read `queryArrow_schema`: when the API's batches share one
schema, the schema the returned stream declares is every batch's, because the schema of a cast
batch depends on the input batch's schema alone (`snowflakeSchemaCast_schema`).
-/

namespace SpiceAi.Snowflake

open Arrow

/-- The answer of `SnowflakeApi::exec`: arrow batches, JSON, or nothing. -/
inductive QueryResult where
  | arrow (recordBatches : List RecordBatch)
  | json (json : String)
  | empty

/-- The two calls of the Snowflake API that the connection makes: `exec`, and `exec_streamed`,
whose stream yields batches or arrow errors. An error is its text. -/
structure SnowflakeApi where
  exec : String → Except String QueryResult
  execStreamed : String → Except String (List (Except String RecordBatch))

/-- An error of the cast stream, an `ArrowError`: the API stream's own, or a cast's error boxed as
`ArrowError::ExternalError`. -/
inductive StreamError where
  | api (message : String)
  | externalError (source : Error)

/-- DataFusion's `DataFusionError::Execution`, by the error whose text it holds. -/
inductive DataFusionError where
  | execution (source : StreamError)

/-- The function `to_execution_error`. -/
def toExecutionError (e : StreamError) : DataFusionError :=
  .execution e

/-- The variants of the repository's Snowflake `Error` that `query_arrow` returns. -/
inductive QueryError where
  /-- Message "Error executing query: {source}" -/
  | snowflakeQueryError (source : String)
  /-- Message "Error executing query: {source}" -/
  | snowflakeArrowError (source : StreamError)

/-- The connection pool's error `UnableToGetSchema`, by its source: the API's error, the cast's,
or a message. -/
inductive UnableToGetSchema where
  | api (source : String)
  | cast (source : Error)
  | message (text : String)

/-- The closure of `stream.map`: a batch of the API's stream, cast, with the cast's error boxed. -/
def castBatch : Except String RecordBatch → Except (Exit StreamError) RecordBatch
  | .error e => .error (.err (.api e))
  | .ok batch => withContext .externalError (snowflakeSchemaCast batch)

/-- The method `query_arrow`: the schema the returned `RecordBatchStreamAdapter` declares, and its
stream. The first element of the cast stream is polled here; each later one is polled by the
stream's reader, so a panic in it is an element of the stream, met when it is read. -/
def queryArrow (api : SnowflakeApi) (sql : String) :
    Except (Exit QueryError) (List Field × List (Except (Exit DataFusionError) RecordBatch)) := do
  let stream ← (api.execStreamed sql).mapError fun e => .err (.snowflakeQueryError e)
  let transformedStream := stream.map castBatch
  match transformedStream with
  | [] => pure ([], [])
  | firstBatch :: rest =>
    let batch ← withContext .snowflakeArrowError firstBatch
    let schema := batch.schema
    pure (schema, (.ok batch :: rest).map (withContext toExecutionError))

/-- The query `get_schema` runs on a table. -/
def schemaSql (table : String) : String :=
  "SELECT * FROM " ++ table ++ " limit 1"

/-- The method `get_schema`. `table` is the table reference as `to_quoted_string` prints it. The
first batch is `record_batches[0]`, which panics when there is none. -/
def getSchema (api : SnowflakeApi) (table : String) :
    Except (Exit UnableToGetSchema) (List Field) := do
  let res ← (api.exec (schemaSql table)).mapError fun e => .err (.api e)
  match res with
  | .arrow recordBatches =>
    let recordBatch ← withContext .cast (snowflakeSchemaCast (← index recordBatches 0))
    pure recordBatch.schema
  | .empty => throw (.err (.message "Empty response"))
  | .json _ => throw (.err (.message "Unexpected response"))

/-! ## The stream -/

section Stream

variable {api : SnowflakeApi} {sql : String}

theorem castBatch_eq_ok {r : Except String RecordBatch} {b : RecordBatch} :
    castBatch r = .ok b ↔ ∃ b₀, r = .ok b₀ ∧ snowflakeSchemaCast b₀ = .ok b := by
  cases r with
  | error e => exact ⟨nofun, fun ⟨_, h, _⟩ => nomatch h⟩
  | ok b₀ => simp [castBatch]

/-- A returned `query_arrow` has cast the API's stream batch by batch, and declares the schema of
its first batch, or none for an empty stream. -/
theorem queryArrow_ok {schema : List Field} {out : List (Except (Exit DataFusionError) RecordBatch)}
    (h : queryArrow api sql = .ok (schema, out)) :
    ∃ stream, api.execStreamed sql = .ok stream ∧
      out = stream.map (fun r => withContext toExecutionError (castBatch r)) ∧
      (stream = [] ∧ schema = [] ∨
        ∃ first rest batch, stream = first :: rest ∧ castBatch first = .ok batch ∧
          schema = batch.schema) := by
  obtain ⟨stream, hs, h⟩ := bind_eq_ok.mp h
  refine ⟨stream, mapError_eq_ok.mp hs, ?_⟩
  rcases stream with _ | ⟨first, rest⟩
  · cases h
    exact ⟨rfl, .inl ⟨rfl, rfl⟩⟩
  · obtain ⟨batch, hb, h⟩ := bind_eq_ok.mp h
    cases h
    have hfirst := withContext_eq_ok.mp hb
    exact ⟨by simp [hfirst], .inr ⟨first, rest, batch, rfl, hfirst, rfl⟩⟩

/-- When the API's batches share one schema, every batch of the stream `query_arrow` returns has
the schema the stream declares. -/
theorem queryArrow_schema {stream : List (Except String RecordBatch)} {schema : List Field}
    {out : List (Except (Exit DataFusionError) RecordBatch)}
    (hstream : api.execStreamed sql = .ok stream)
    (hsame : ∀ b b', .ok b ∈ stream → .ok b' ∈ stream → b.schema = b'.schema)
    (h : queryArrow api sql = .ok (schema, out)) :
    ∀ b, .ok b ∈ out → b.schema = schema := by
  obtain ⟨stream', hs, rfl, hschema⟩ := queryArrow_ok h
  obtain rfl : stream' = stream := Except.ok.inj (hs.symm.trans hstream)
  intro b hb
  obtain ⟨r, hr, hrb⟩ := List.mem_map.mp hb
  obtain ⟨b₀, rfl, hb₀⟩ := castBatch_eq_ok.mp (withContext_eq_ok.mp hrb)
  rcases hschema with ⟨rfl, -⟩ | ⟨first, rest, batch, rfl, hfirst, rfl⟩
  · cases hr
  · obtain ⟨f₀, rfl, hf₀⟩ := castBatch_eq_ok.mp hfirst
    rw [snowflakeSchemaCast_schema hb₀, snowflakeSchemaCast_schema hf₀, hsame b₀ f₀ hr (.head _)]

/-- Two batches of one schema: every batch of the stream has the schema it declares. -/
theorem queryArrow_schema_two_batches :
    ∃ (b : RecordBatch) (schema : List Field) (out : List (Except (Exit DataFusionError) RecordBatch)),
      queryArrow ⟨fun _ => .ok .empty, fun _ => .ok [.ok b, .ok b]⟩ "q" = .ok (schema, out) ∧
      ∀ b', .ok b' ∈ out → b'.schema = schema := by
  let b : RecordBatch := ⟨[Field.new "id" .int32 true], [.leaf .int32 [some (.int 7)]], 1, rfl,
    by decide, by decide, by decide, by decide⟩
  obtain ⟨schema, out, h⟩ : ∃ schema out,
      queryArrow ⟨fun _ => .ok .empty, fun _ => .ok [.ok b, .ok b]⟩ "q" = .ok (schema, out) :=
    ⟨_, _, rfl⟩
  refine ⟨b, schema, out, h, queryArrow_schema rfl (fun b₁ b₂ h₁ h₂ => ?_) h⟩
  simp only [List.mem_cons, Except.ok.injEq, List.mem_singleton, or_self, List.not_mem_nil,
    or_false] at h₁ h₂
  rw [h₁, h₂]

end Stream

end SpiceAi.Snowflake
