import SqlCatalog.Toml.Token
/-!
# Expressions of TOML

The structure of a document before its keys and values are read: which tokens
are keys, which are values, and how arrays and inline tables are nested.
`Expression.ofTokens?` fails where tokens stand in no order that a document
allows. A part of a key or a value that is not there is no such fault: the gap
is kept, for the one who reads keys and values to find.

The functions on values take a bound on their recursion that the number of
tokens covers, and the number of arrays and inline tables that may still be
opened.
-/
namespace SqlCatalog.Toml

/-- A part of a key as it is written. -/
inductive Part
  /-- Nothing, as in `a..b`. -/
  | missing
  | bare (text : List Char)
  | quoted (text : List Char)

/-- A value as it is written. -/
inductive Term
  /-- Nothing, as in `a =`. -/
  | missing
  /-- A number, a date or a word. -/
  | scalar (text : List Char)
  | quoted (text : List Char)
  | array (items : List Term)
  | inlineTable (assignments : List (List Part × Term))
deriving Inhabited

/-- What a line of a document says. -/
inductive Expression
  /-- An assignment, `key = value`. -/
  | assign (key : List Part) (value : Term)
  /-- A header, `[key]`. -/
  | header (key : List Part)
  /-- A header of an array of tables, `[[key]]`. -/
  | element (key : List Part)

namespace Expression

/-- How deeply arrays and inline tables may be nested. -/
def maxDepth : Nat := 80

def skipBlanks (ts : List Token) : List Token := ts.dropWhile Token.isBlank

def skipLayout (ts : List Token) : List Token := ts.dropWhile Token.isLayout

/-- What must follow an expression: the end of its line. -/
def endLine (ts : List Token) : Option (List Token) :=
  match skipBlanks ts with
  | [] => some []
  | .newline :: rest => some rest
  | _ => none

/-! ## Keys -/

/-- A token that a key can hold. -/
def isKeyToken : Token → Bool
  | .dot | .space | .tab | .quoted _ | .atom _ => true
  | _ => false

def part? : Token → Option Part
  | .atom text => some (.bare text)
  | .quoted text => some (.quoted text)
  | _ => none

/-- Parts with a dot between each two of them. -/
def parts? : List Token → Option (List Part)
  | [] => some [.missing]
  | .dot :: rest => (parts? rest).map (.missing :: ·)
  | [t] => (part? t).map ([·])
  | t :: .dot :: rest => do
    let part ← part? t
    let parts ← parts? rest
    some (part :: parts)
  | _ => none

/-- A key with the blanks around it, and what follows. -/
def key? (ts : List Token) : Option (List Part × List Token) :=
  (parts? ((ts.takeWhile isKeyToken).filter (!·.isBlank))).map fun parts =>
    (parts, ts.dropWhile isKeyToken)

/-- Is the last part of a key missing? -/
def breaksOff (key : List Part) : Bool :=
  match key.getLast? with
  | some .missing => true
  | _ => false

/-! ## Values -/

/-- The text of atoms and dots up to the next other token, behind what was `read`
and the `blanks` after that, both backwards. Blanks belong to the text before an
atom, as between a date and its time, and to nothing elsewhere. -/
def scalarText (read blanks : List Char) : List Token → List Char × List Token
  | .space :: rest => scalarText read (' ' :: blanks) rest
  | .tab :: rest => scalarText read ('\t' :: blanks) rest
  | .atom text :: rest => scalarText (text.reverse ++ blanks ++ read) [] rest
  | .dot :: rest =>
    if blanks = [] then scalarText ('.' :: read) [] rest else (read.reverse, .dot :: rest)
  | rest => (read.reverse, rest)

/-- A value that is neither quoted nor bracketed, and what follows it. -/
def scalar? (ts : List Token) : Option (Term × List Token) :=
  match scalarText [] [] ts with
  | ([], _) => none
  | (text, rest) => some (.scalar text, rest)

mutual

/-- Find a value. -/
def value? : Nat → Nat → List Token → Option (Term × List Token)
  | 0, _, _ => none
  | fuel + 1, depth, ts =>
    match ts with
    | .openBracket :: rest =>
      if depth = 0 then none else do
        let (items, rest) ← items? fuel (depth - 1) rest
        some (.array items, rest)
    | .openBrace :: rest =>
      if depth = 0 then none else do
        let (assignments, rest) ← assignments? fuel (depth - 1) rest
        some (.inlineTable assignments, rest)
    | .quoted text :: rest => some (.quoted text, rest)
    | ts => scalar? ts

/-- Find the items of an array up to its closing bracket. -/
def items? : Nat → Nat → List Token → Option (List Term × List Token)
  | 0, _, _ => none
  | fuel + 1, depth, ts =>
    match skipLayout ts with
    | .closeBracket :: rest => some ([], rest)
    | ts => do
      let (item, rest) ← value? fuel depth ts
      match skipLayout rest with
      | .comma :: rest => do
        let (items, rest) ← items? fuel depth rest
        some (item :: items, rest)
      | .closeBracket :: rest => some ([item], rest)
      | _ => none

/-- Find the assignments of an inline table up to its closing brace. Lines may
end anywhere but inside a key. Only the last value can be missing, with its
equals sign or without. -/
def assignments? : Nat → Nat → List Token → Option (List (List Part × Term) × List Token)
  | 0, _, _ => none
  | fuel + 1, depth, ts =>
    match skipLayout ts with
    | .closeBrace :: rest => some ([], rest)
    | ts => do
      let (key, rest) ← key? ts
      match skipLayout rest with
      | .closeBrace :: rest => some ([(key, .missing)], rest)
      | .equals :: rest =>
        match skipLayout rest with
        | .closeBrace :: rest => some ([(key, .missing)], rest)
        | ts => do
          let (value, rest) ← value? fuel depth ts
          match skipLayout rest with
          | .comma :: rest => do
            let (more, rest) ← assignments? fuel depth rest
            some ((key, value) :: more, rest)
          | .closeBrace :: rest => some ([(key, value)], rest)
          | _ => none
      | _ => none

end

/-! ## Lines -/

/-- The end of a header's line without the brackets that close it. Behind a key
that breaks off, the rest of the line counts as part of that gap. -/
def abandonHeader? (key : List Part) (ts : List Token) : Option (List Token) :=
  if breaksOff key then some (ts.dropWhile (· != .newline)) else none

/-- The value of an assignment that ends with its line. -/
def assigned? (fuel : Nat) (ts : List Token) : Option (Term × List Token) :=
  match skipBlanks ts with
  | [] => some (.missing, [])
  | .newline :: rest => some (.missing, .newline :: rest)
  | ts => value? fuel maxDepth ts

/-- Find an expression and the end of its line, and what follows. -/
def line? (fuel : Nat) : List Token → Option (Expression × List Token)
  | .openBracket :: .openBracket :: ts => do
    let (key, rest) ← key? ts
    let rest ← match rest with
      | .closeBracket :: .closeBracket :: rest => endLine rest
      | .closeBracket :: _ => none
      | rest => abandonHeader? key rest
    some (.element key, rest)
  | .openBracket :: ts => do
    let (key, rest) ← key? ts
    let rest ← match rest with
      | .closeBracket :: rest => endLine rest
      | rest => abandonHeader? key rest
    some (.header key, rest)
  | ts => do
    let (key, rest) ← key? ts
    match rest with
    | .equals :: rest => do
      let (value, rest) ← assigned? fuel rest
      (endLine rest).map fun rest => (.assign key value, rest)
    | _ => none

/-- Find the expressions up to the end. -/
def lines? : Nat → List Token → Option (List Expression)
  | 0, _ => none
  | fuel + 1, ts =>
    match skipLayout ts with
    | [] => some []
    | ts => do
      let (line, rest) ← line? fuel ts
      let lines ← lines? fuel rest
      some (line :: lines)

/-- The expressions of a document. -/
def ofTokens? (ts : List Token) : Option (List Expression) := lines? (2 * ts.length + 2) ts

end Expression

end SqlCatalog.Toml
