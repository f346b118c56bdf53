import SqlCatalog.Template.Scanner
/-!
# Compiled templates

`Template.compile` runs the scanner over a template: the placeholders of a
dialect stand where the parameters stood, and their names are recorded.
Parameters are numbered from 1 in source order; every occurrence has a number of
its own, also where a name repeats.
-/
namespace SqlCatalog

/-- A template compiled for one dialect. -/
structure Compiled where
  /-- The SQL for the driver. -/
  sql : String
  /-- The parameter names, one for each placeholder. -/
  names : List String
deriving DecidableEq, Inhabited

namespace Template

/-- What a scanner has compiled. -/
def Scanner.compiled (s : Scanner) : Compiled := ⟨s.sql, s.names⟩

/-- Compile a template for a dialect. -/
def compile (template : String) (d : Dialect) : Except Failure Compiled :=
  let chars := template.toList
  (Scanner.run d (chars.length - 1) 0 none chars .start).map Scanner.compiled

end Template

end SqlCatalog
