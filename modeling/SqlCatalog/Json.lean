import SqlCatalog.Decimal.Layout
/-!
# JSON values

JSON documents as cell values, and their compact text: no blanks, members in
key order. Only what a JSON string cannot hold raw is escaped.

The compact text is that of a JSON library, written out after its documented format;
that `render` agrees with it is an assumption wherever the bytes of a document count.
-/
namespace SqlCatalog

/-- A JSON document. The members of an object are listed by increasing key. -/
inductive Json
  | null
  | bool (b : Bool)
  | int (n : Int)
  | float (x : Binary64)
  | text (s : String)
  | array (items : List Json)
  | object (members : List (String × Json))
deriving Inhabited

namespace Json

/-- Floats keep a decimal; from `1e+16` on and below `0.00001` they are written
with an exponent, and of two shortest candidates at equal distance the even one
is taken. -/
def number : Layout where
  positional := fun e => -5 ≤ e && e < 16
  fraction := true
  tie := .even
  notANumber := "null"
  infinity := "null"

/-- A character inside a JSON string. -/
def escapeChar (c : Char) : List Char :=
  if c = '"' then ['\\', '"']
  else if c = '\\' then ['\\', '\\']
  else if c = '\x08' then ['\\', 'b']
  else if c = '\x0c' then ['\\', 'f']
  else if c = '\n' then ['\\', 'n']
  else if c = '\r' then ['\\', 'r']
  else if c = '\t' then ['\\', 't']
  else if c.toNat < 0x20 then
    ['\\', 'u', '0', '0', Nat.digitChar (c.toNat / 16), Nat.digitChar (c.toNat % 16)]
  else [c]

def quote (s : String) : List Char := '"' :: (s.toList.flatMap escapeChar ++ ['"'])

mutual

/-- The compact text of a document. -/
def write : Json → List Char
  | null => "null".toList
  | bool b => (if b then "true" else "false").toList
  | int n => (toString n).toList
  | float x => (number.write x).toList
  | text s => quote s
  | array items => '[' :: (writeItems items ++ [']'])
  | object members => '\x7b' :: (writeMembers members ++ ['\x7d'])

/-- Items with commas between them. -/
def writeItems : List Json → List Char
  | [] => []
  | [j] => write j
  | j :: rest => write j ++ ',' :: writeItems rest

/-- Members with commas between them. -/
def writeMembers : List (String × Json) → List Char
  | [] => []
  | [(k, j)] => quote k ++ ':' :: write j
  | (k, j) :: rest => quote k ++ ':' :: write j ++ ',' :: writeMembers rest

end

/-- The compact text of a document. -/
def render (j : Json) : String := String.ofList j.write

end Json

end SqlCatalog
