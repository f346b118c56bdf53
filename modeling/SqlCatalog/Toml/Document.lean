import SqlCatalog.Toml.Expression
import SqlCatalog.Toml.Number
/-!
# Reading TOML

`parse` reads a document of TOML 1.1 into the entries of its root table. A text
is checked three times over, and the first fault found decides: its tokens and
their structure; then, from top to bottom, what its keys and values say and
whether a key is free; last, whether its numbers have a value.
-/
namespace SqlCatalog.Toml

/-- Why a text is not a document. -/
inductive Fault
  | malformed
  /-- A key has more than `maxParts` parts. -/
  | tooDeep
deriving DecidableEq

/-- A result that is missing where the text is malformed. -/
def orMalformed {α : Type} : Option α → Except Fault α
  | some a => .ok a
  | none => .error .malformed

/-! ## Keys -/

/-- How many parts a key may have. -/
def maxParts : Nat := 80

def isBareKeyChar (c : Char) : Bool := c.isAlphanum || c == '_' || c == '-'

/-- What a part of a key says. A quoted one is of one line. -/
def Part.text? : Part → Option String
  | .missing => none
  | .bare text => if text.all isBareKeyChar then some (String.ofList text) else none
  | .quoted text =>
    match Quoting.line? text with
    | some (s, []) => some s
    | _ => none

/-- The parents and the last part of a key. -/
def keyOf (parts : List Part) : Except Fault (List String × String) :=
  match parts.mapM Part.text? with
  | none => .error .malformed
  | some texts =>
    if maxParts < texts.length then .error .tooDeep
    else .ok (texts.dropLast, texts.getLast?.getD "")

/-! ## Values -/

/-- A value that is neither quoted nor bracketed. -/
def scalarOf? (text : List Char) : Option Node :=
  if text = "true".toList then some (.boolean true)
  else if text = "false".toList then some (.boolean false)
  else match Moment.read? text with
    | some m => some (.moment m)
    | none => Number.read? text

/-- A quoted text of any kind. -/
def quotedOf? (text : List Char) : Option Node :=
  match Quoting.text? text with
  | some (s, []) => some (.text s)
  | _ => none

mutual

/-- What a value says. -/
def Term.node : Term → Except Fault Node
  | .missing => .error .malformed
  | .scalar text => orMalformed (scalarOf? text)
  | .quoted text => orMalformed (quotedOf? text)
  | .array items => (nodes items).map .array
  | .inlineTable assignments => (membersFrom [] assignments).map (.table .inlined)

/-- What the items of an array say. -/
def nodes : List Term → Except Fault (List Node)
  | [] => .ok []
  | item :: rest => do
    let node ← item.node
    let rest ← nodes rest
    .ok (node :: rest)

/-- Add the assignments of an inline table to `members`. -/
def membersFrom (members : Members) : List (List Part × Term) → Except Fault Members
  | [] => .ok members
  | (parts, value) :: rest => do
    let (parents, key) ← keyOf parts
    let node ← value.node
    let members ← orMalformed (assign .inlined parents key node members)
    membersFrom members rest

end

/-! ## Documents -/

/-- Read expressions from top to bottom. `document` holds the tables above the
open one, which goes there before the key of the next header is read. -/
def assemble (document : Members) (current : OpenTable) : List Expression → Except Fault Members
  | [] => orMalformed (current.file document)
  | .assign parts value :: rest => do
    let (parents, key) ← keyOf parts
    let node ← value.node
    let entries ← orMalformed (assign .header parents key node current.entries)
    assemble document { current with entries } rest
  | .header parts :: rest => do
    let document ← orMalformed (current.file document)
    let (parents, key) ← keyOf parts
    let next ← orMalformed (OpenTable.ofHeader? parents key document)
    assemble document next rest
  | .element parts :: rest => do
    let document ← orMalformed (current.file document)
    let (parents, key) ← keyOf parts
    assemble document (.ofElement parents key) rest

/-- A byte order mark at the start is no part of a document. -/
def skipMark : List Char → List Char
  | '\ufeff' :: rest => rest
  | cs => cs

/-- The root table of a document. -/
def parse (document : String) : Except Fault Members := do
  let tokens ← orMalformed (Token.split (skipMark document.toList))
  let expressions ← orMalformed (Expression.ofTokens? tokens)
  let members ← assemble [] .root expressions
  if membersValid members then .ok members else .error .malformed

end SqlCatalog.Toml
