import SqlCatalog.Command.Line
/-!
# Help texts
-/
namespace SqlCatalog.Command

/-- The text of a topic, as lines. -/
def Topic.lines : Topic → List String
  | root =>
    ["namedq - compile, check and run `:name` SQL catalogs",
     "",
     "USAGE:",
     "  namedq <COMMAND> [OPTIONS]",
     "",
     "COMMANDS:",
     "  compile       Print compiled SQL and parameter names",
     "  check         Compile every statement under every dialect",
     "  drivers       List known drivers and their placeholder dialect",
     "  run           Execute a statement against a SQLite database",
     "",
     "Run `namedq <command> --help` for more."]
  | compile =>
    ["USAGE:",
     "  namedq compile --catalog <FILE> [OPTIONS] [STATEMENT...]",
     "",
     "OPTIONS:",
     "  --catalog <FILE>      Catalog file (TOML)",
     "  --driver <NAME>       Resolve the dialect from a driver name",
     "  --style <STYLE>       Dialect: question, dollar, named, at, unknown",
     "  -h, --help            Print help",
     "",
     "Without --driver/--style the catalog's own `bind_style`/`driver` is used.",
     "Without STATEMENT every statement is printed."]
  | check =>
    ["USAGE:",
     "  namedq check --catalog <FILE>",
     "",
     "OPTIONS:",
     "  --catalog <FILE>      Catalog file (TOML)",
     "  -h, --help            Print help"]
  | drivers =>
    ["USAGE:",
     "  namedq drivers",
     "",
     "Unlisted drivers use `?` placeholders."]
  | run =>
    ["USAGE:",
     "  namedq run --catalog <FILE> --database <PATH> [--schema <FILE>] <STATEMENT> [key=value...]",
     "",
     "OPTIONS:",
     "  --catalog <FILE>      Catalog file (TOML)",
     "  --database <PATH>     SQLite database file (created if missing)",
     "  --schema <FILE>       SQL script applied before the statement",
     "  -h, --help            Print help",
     "",
     "Values: integers bind as integers, `null` as NULL, anything else as text.",
     "SELECT/WITH/PRAGMA/VALUES statements print rows; others print the affected-row count."]

/-- The text of a topic. -/
def Topic.text (t : Topic) : String := String.join (t.lines.map (· ++ "\n"))

end SqlCatalog.Command
