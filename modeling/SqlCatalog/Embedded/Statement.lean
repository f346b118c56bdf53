/-!
# Statements of the embedded database

The embedded database knows one table, `t (id INTEGER PRIMARY KEY, k, v)`, and a
few statements over it, besides `SELECT` of parameters. A text is split into
tokens; key words count up to ASCII case, and comments and blanks not at all.
Placeholders are `?` or named, and a statement is known by what it says apart
from their names.
-/
namespace SqlCatalog.Embedded

/-- What a statement does. -/
inductive Statement
  /-- One row of the parameters, or no row at all. -/
  | echo (columns : List String) (answers : Bool)
  | createTable
  /-- All rows by id. -/
  | all
  | byId
  | clear
  | delete
  | insert
  | update
deriving DecidableEq

/-- A token. -/
inductive Token
  | word (s : String)
  | quoted (s : String)
  /-- One without a name is `?`; a name keeps the mark before it. -/
  | placeholder (name : Option String)
  | mark (c : Char)
deriving DecidableEq

namespace Token

/-- A character that goes on with a word or a name. -/
def isWordChar (c : Char) : Bool := c.isAlphanum || c == '_' || c == '$' || 128 ≤ c.toNat

/-- A mark before the name of a parameter. -/
def isSigil (c : Char) : Bool := c == '$' || c == ':' || c == '@'

/-- The token of a mark. -/
def ofMark (c : Char) : Token := if c = '?' then placeholder none else mark c

/-- The token of a run of word characters, which a sigil may start. A sigil alone
is a mark. -/
def ofRun : List Char → Token
  | [c] => if isSigil c then mark c else word (String.ofList [c])
  | cs =>
    if cs.head?.any isSigil then placeholder (some (String.ofList cs)) else word (String.ofList cs)

/-- The state of the lexer: between tokens, or in something that was begun. What
was read of it is kept backwards. -/
inductive LexState
  | between
  | comment
  | mark (c : Char)
  | run (read : List Char)
  | quoted (read : List Char)
  /-- Behind a quote that ends the text unless another one follows. -/
  | closed (read : List Char)

namespace LexState

/-- The state behind the first character of something. -/
def start (c : Char) : LexState :=
  if isWordChar c || isSigil c then run [c]
  else if c = '"' then quoted []
  else if c.isWhitespace || c == '\x0c' then between
  else mark c

/-- The state behind a character that belongs to what was begun. -/
def extend? : LexState → Char → Option LexState
  | between, _ => none
  | comment, c => some (if c = '\n' then between else comment)
  | mark m, c => if m = '-' ∧ c = '-' then some comment else none
  | run read, c => if isWordChar c then some (run (c :: read)) else none
  | quoted read, c => some (if c = '"' then closed read else quoted (c :: read))
  | closed read, c => if c = '"' then some (quoted ('"' :: read)) else none

/-- The token that is complete where nothing more belongs to it. -/
def token? : LexState → Option Token
  | between | comment | quoted _ => none
  | mark c => some (ofMark c)
  | run read => some (ofRun read.reverse)
  | closed read => some (Token.quoted (String.ofList read.reverse))

end LexState

/-- Split a text into tokens; `none` if a quote is left open. -/
def scan : LexState → List Char → Option (List Token)
  | .quoted _, [] => none
  | state, [] => some state.token?.toList
  | state, c :: rest =>
    match state.extend? c with
    | some next => scan next rest
    | none => (scan (.start c) rest).map (state.token?.toList ++ ·)

/-- Words without regard to case, and placeholders without their names. -/
def fold : Token → Token
  | .word s => .word (s.map Char.toLower)
  | .placeholder _ => .placeholder none
  | t => t

/-- The name of a placeholder, if the token is one. -/
def placeholder? : Token → Option (Option String)
  | .placeholder name => some name
  | _ => none

end Token

/-- A statement as it is written: what it does, and the parameter that each of
its placeholders stands for. -/
structure Parsed where
  statement : Statement
  slots : List Nat
deriving DecidableEq

namespace Parsed

/-- How many parameters a statement takes. -/
def paramCount (p : Parsed) : Nat := p.slots.foldl (fun n slot => max n (slot + 1)) 0

/-- What stands for the placeholders, given the parameters. -/
def fill {α : Type} (p : Parsed) (params : List α) : List α :=
  p.slots.filterMap (params[·]?)

end Parsed

namespace Statement

/-- The tokens of a text, words in lower case. -/
def tokens (sql : String) : Option (List Token) :=
  (Token.scan .between sql.toList).map (·.map Token.fold)

/-- The columns of `? AS a, ? AS b, ...`, and what follows them. The names are
taken from `named`, which has the same tokens with their case kept. -/
def columns : List Token → List Token → Option (List String × List Token)
  | .placeholder _ :: .word "as" :: .word _ :: rest, _ :: _ :: .word name :: named
  | .placeholder _ :: .word "as" :: .quoted _ :: rest, _ :: _ :: .quoted name :: named =>
    match rest, named with
    | .mark ',' :: rest, _ :: named => do
      let (names, rest) ← columns rest named
      some (name :: names, rest)
    | rest, _ => some ([name], rest)
  | _, _ => none

/-- A `SELECT ? AS a, ...`, perhaps under a condition that never holds. -/
def echo? (folded named : List Token) : Option Statement :=
  match folded, named with
  | .word "select" :: folded, _ :: named => do
    let (names, rest) ← columns folded named
    match rest with
    | [] => some (.echo names true)
    | [.word "where", .word "1", .mark '=', .word "0"] => some (.echo names false)
    | _ => none
  | _, _ => none

/-- The statements over the table, as tokens. -/
def onTable : List (String × Statement) :=
  [("create table t (id integer primary key, k, v)", createTable),
   ("select id, k, v from t order by id", all),
   ("select k, v from t where id = ?", byId),
   ("delete from t", clear),
   ("delete from t where id = ?", delete),
   ("insert into t (k, v) values (?, ?)", insert),
   ("update t set v = ? where id = ?", update)]

/-- The parameter of each placeholder, behind those in `known`. Every `?` is a
parameter of its own, and a name is the same one wherever it stands. -/
def slots (known : List (Option String)) : List (Option String) → List Nat
  | [] => []
  | name :: rest =>
    match if name = none then none else known.idxOf? name with
    | some slot => slot :: slots known rest
    | none => known.length :: slots (known ++ [name]) rest

/-- Read one statement. -/
def parse (sql : String) : Option Parsed := do
  let named ← Token.scan .between sql.toList
  let folded := named.map Token.fold
  let statement ← match onTable.find? (fun e => tokens e.1 == some folded) with
    | some e => some e.2
    | none => echo? folded named
  some ⟨statement, slots [] (named.filterMap Token.placeholder?)⟩

/-- The columns of the rows that a statement answers with. -/
def columnNames : Statement → List String
  | echo names _ => names
  | all => ["id", "k", "v"]
  | byId => ["k", "v"]
  | _ => []

/-- How many placeholders a statement has. -/
def placeholderCount : Statement → Nat
  | echo names _ => names.length
  | byId | delete => 1
  | insert | update => 2
  | createTable | all | clear => 0

/-- A statement with a parameter for each placeholder, in their order. -/
def positional (s : Statement) : Parsed := ⟨s, List.range s.placeholderCount⟩

end Statement

end SqlCatalog.Embedded
