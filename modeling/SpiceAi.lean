import SpiceAi.Rust
import SpiceAi.Loops
import SpiceAi.Arrow.DataType
import SpiceAi.Arrow.Array
import SpiceAi.Postgres.Numeric
import SpiceAi.Postgres.NumericLaws
import SpiceAi.Postgres.Types
import SpiceAi.Postgres.RowsToArrow
import SpiceAi.Postgres.Columns
import SpiceAi.Postgres.Arms
import SpiceAi.Postgres.RowsToArrowLaws
import SpiceAi.Postgres.Mapper
import SpiceAi.Postgres.Alignment
import SpiceAi.Snowflake.SchemaCast
import SpiceAi.Sqlite.Sql
import SpiceAi.Sqlite.Provisioner
import SpiceAi.HashMap
import SpiceAi.Sqlite.Transaction
import SpiceAi.Sqlite.Factory
import SpiceAi.Embeddings.VectorSearch
import SpiceAi.Embeddings.Search
import SpiceAi.Snowflake.Connection
