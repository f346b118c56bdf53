import SqlCatalog.Embedded.Database
import SqlCatalog.Toml.Document
/-!
# Databases as text

How a database is kept in a file: a TOML document with one element of `row` for
each row. A missing cell is null; reals and blobs are inline tables, a real as
its bits.
-/
namespace SqlCatalog.Embedded.Archive

/-! ## Writing -/

/-- A character of a quoted text. -/
def escapeChar (c : Char) : List Char :=
  if c = '"' then ['\\', '"']
  else if c = '\\' then ['\\', '\\']
  else if c.toNat < 0x20 ∨ c = '\x7f' then
    ['\\', 'x', Nat.digitChar (c.toNat / 16), Nat.digitChar (c.toNat % 16)]
  else [c]

def quote (s : String) : String :=
  String.ofList ('"' :: (s.toList.flatMap escapeChar ++ ['"']))

/-- The value of a cell; null has none. -/
def cellText : Cell → Option String
  | .null => none
  | .integer n => some (toString n.toInt)
  | .real x => some ("\x7breal = " ++ toString x.bits.toNat ++ "\x7d")
  | .text b => some (quote (Text.lossy b))
  | .blob b =>
    some ("\x7bblob = [" ++ ", ".intercalate (b.map (fun x => toString x.toNat)) ++ "]\x7d")

/-- The line of a cell. -/
def cellLine (key : String) (c : Cell) : String :=
  match cellText c with
  | some text => key ++ " = " ++ text ++ "\n"
  | none => ""

def entryText (e : Entry) : String :=
  "\n[[row]]\nid = " ++ toString e.id ++ "\n" ++ cellLine "k" e.k ++ cellLine "v" e.v

/-- A database as text. -/
def write (d : Database) : String :=
  match d.contents with
  | .blank | .foreign => ""
  | .table entries => "created = true\n" ++ String.join (entries.map entryText)

/-! ## Reading -/

def byte? : Toml.Node → Option UInt8
  | .integer n => if 0 ≤ n ∧ n < 256 then some n.toNat.toUInt8 else none
  | _ => none

/-- The cell that a value writes. -/
def cell? : Toml.Node → Option Cell
  | .integer n =>
    if Int64.minValue.toInt ≤ n ∧ n ≤ Int64.maxValue.toInt then some (.integer (Int64.ofInt n))
    else none
  | .text s => some (.text (Text.utf8 s))
  | .table _ [("real", .integer n)] =>
    if 0 ≤ n ∧ n < UInt64.size then some (.real ⟨n.toNat.toUInt64⟩) else none
  | .table _ [("blob", .array items)] => (items.mapM byte?).map .blob
  | _ => none

/-- The cell at a key. -/
def cellAt? (key : String) (members : Toml.Members) : Option Cell :=
  match Entries.find? key members with
  | none => some .null
  | some node => cell? node

def entry? (members : Toml.Members) : Option Entry := do
  let id ← match Entries.find? "id" members with
    | some (.integer n) => some n
    | _ => none
  let k ← cellAt? "k" members
  let v ← cellAt? "v" members
  some ⟨id, k, v⟩

/-- The database that a text writes. -/
def read? (text : String) : Option Database := do
  let members ← (Toml.parse text).toOption
  match Entries.find? "created" members, Entries.find? "row" members with
  | none, none => some .empty
  | some _, none => some .created
  | some _, some (.tables last earlier) => do
    let entries ← (last :: earlier).reverse.mapM entry?
    some { Database.created with contents := .table entries }
  | _, _ => none

end SqlCatalog.Embedded.Archive
