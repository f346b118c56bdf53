import SqlCatalog.Dialect
import SqlCatalog.Failure
import SqlCatalog.Text.Letter
/-!
# Scanning templates

A template is SQL text with `:name` parameters. `::` stands for one `:`, and
`:=` for itself. The scanner goes through a template once and writes the SQL for
a dialect on its way. It looks at one character at a time, knows the one before
it and whether it is the last, and never goes back. The only failure is a `:`
right after a non-empty name, reported with its character index.
-/
namespace SqlCatalog.Template

/-- A letter, an ASCII digit, `_` or `.`. -/
def isNameChar (c : Char) : Bool :=
  Text.isLetter c || c.isDigit || c == '_' || c == '.'

/-- Where the scanner stands. -/
inductive ScanState
  | outside
  /-- After a `:`. -/
  | inName
deriving DecidableEq

/-- A scanner on its way. -/
structure Scanner where
  state : ScanState
  /-- The SQL so far. -/
  sql : String
  /-- The names of the parameters so far. -/
  names : List String
  /-- The name that is being read. -/
  name : String
  /-- The number of the next placeholder, where the dialect numbers them. -/
  next : Nat

namespace Scanner

def start : Scanner := ⟨.outside, "", [], "", 1⟩

/-- Write the placeholder for the name that was read. -/
def writePlaceholder (d : Dialect) (s : Scanner) : Scanner :=
  match d with
  | .named => { s with sql := s.sql.push ':' ++ s.name }
  | .question | .unknown => { s with sql := s.sql.push '?' }
  | .dollar => { s with sql := s.sql ++ "$" ++ toString s.next, next := s.next + 1 }
  | .atSign => { s with sql := s.sql ++ "@p" ++ toString s.next, next := s.next + 1 }

/-- The end of a name: its placeholder goes to the SQL, the name to the names. -/
def endName (d : Dialect) (s : Scanner) : Scanner :=
  { s.writePlaceholder d with
    state := .outside
    names := s.names ++ [s.name]
    name := "" }

/-- Read the character `c` at index `i`, with the character before it. `last` is
the index of the last character.

A name ends at the first character that cannot stand in one; that character is
literal text, and the name may be empty there. A `:` with nothing after it
stands for nothing. -/
def step (d : Dialect) (last i : Nat) (before : Option Char) (c : Char) (s : Scanner) :
    Except Failure Scanner :=
  match s.state with
  | .outside =>
    if c = ':' then .ok { s with state := .inName, name := "" }
    else .ok { s with sql := s.sql.push c }
  | .inName =>
    if c = ':' then
      if before = some ':' then .ok { s with state := .outside, sql := s.sql.push ':' }
      else .error (.malformedTemplate i)
    else if c = '=' ∧ s.name = "" then
      .ok { s with state := .outside, sql := s.sql ++ ":=" }
    else if isNameChar c ∧ i ≠ last then .ok { s with name := s.name.push c }
    else if isNameChar c ∧ i = last then .ok ({ s with name := s.name.push c }.endName d)
    else
      let s := s.endName d
      .ok { s with sql := s.sql.push c }

/-- Read the rest of a template, which starts at index `i`. -/
def run (d : Dialect) (last : Nat) :
    Nat → Option Char → List Char → Scanner → Except Failure Scanner
  | _, _, [], s => .ok s
  | i, before, c :: rest, s =>
    match s.step d last i before c with
    | .ok s => run d last (i + 1) (some c) rest s
    | .error e => .error e

end Scanner

end SqlCatalog.Template
