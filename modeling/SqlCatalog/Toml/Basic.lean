import SqlCatalog.Binary.Binary64
import SqlCatalog.KeyMap
import SqlCatalog.Toml.Moment
/-!
# TOML documents

The value of a TOML document, and how its tables grow. A table remembers how it
came to be, since that decides what may still be added to it: an inline table is
closed, a table with a header of its own takes no second header and no dotted
keys from outside, and a table made by dotted keys takes no header.

Assignments gather in the table that is open. `OpenTable.file` puts it into the
document once the next header, or the end, is reached.
-/
namespace SqlCatalog.Toml

/-- How a table came to be. -/
inductive Origin
  /-- By its own header, or the root. -/
  | header
  /-- On the way to a table further down that has a header. -/
  | implied
  /-- By dotted keys. -/
  | dotted
  | inlined
deriving DecidableEq

/-- A value of a document. -/
inductive Node
  | text (s : String)
  | integer (n : Int)
  | float (x : Binary64)
  | boolean (b : Bool)
  | moment (m : Moment)
  /-- What is written like a number but has no value: it is out of range, or its
  digits are not all of its base. -/
  | invalidNumber
  | array (items : List Node)
  /-- An array of tables built by headers, never empty: its last table, which is
  the one that can still grow, and the ones before it, latest first. -/
  | tables (last : List (String × Node)) (earlier : List (List (String × Node)))
  | table (origin : Origin) (entries : List (String × Node))
deriving Inhabited

/-- The entries of a table. -/
abbrev Members := List (String × Node)

/-! ## Numbers without a value -/

mutual

/-- Do all numbers in this value have one? -/
def Node.isValid : Node → Bool
  | .invalidNumber => false
  | .array items => itemsValid items
  | .tables last earlier => membersValid last && tablesValid earlier
  | .table _ entries => membersValid entries
  | _ => true

def itemsValid : List Node → Bool
  | [] => true
  | item :: rest => item.isValid && itemsValid rest

def membersValid : List (String × Node) → Bool
  | [] => true
  | (_, node) :: rest => node.isValid && membersValid rest

def tablesValid : List (List (String × Node)) → Bool
  | [] => true
  | entries :: rest => membersValid entries && tablesValid rest

end

/-! ## Reaching tables -/

/-- Change the table that is reached along `path`, making the tables that are
missing on the way. Values and inline tables are not entered, and dotted keys do
not enter a table that has a header. -/
def alter (dotted : Bool) (change : Origin → Members → Option Members) :
    Origin → List String → Members → Option Members
  | origin, [], members => change origin members
  | _, key :: path, members =>
    match Entries.find? key members with
    | none => do
      let origin := if dotted then .dotted else .implied
      let inner ← alter dotted change origin path []
      some (Entries.insert key (.table origin inner) members)
    | some (.table origin inner) =>
      if origin = .inlined ∨ (dotted ∧ origin = .header) then none else do
        let inner ← alter dotted change origin path inner
        some (Entries.insert key (.table origin inner) members)
    | some (.tables last earlier) => do
      let last ← alter dotted change .header path last
      some (Entries.insert key (.tables last earlier) members)
    | some _ => none

/-- The table that headers reach along `path`; a missing one is empty. -/
def behind : List String → Members → Option Members
  | [], members => some members
  | key :: path, members =>
    match Entries.find? key members with
    | none => some []
    | some (.table origin inner) => if origin = .inlined then none else behind path inner
    | some (.tables last _) => behind path last
    | some _ => none

/-- Set a key that is not there yet. Behind parents it goes only into a table
made by dotted keys. -/
def assign (origin : Origin) (parents : List String) (key : String) (value : Node)
    (members : Members) : Option Members :=
  alter true (fun origin inner =>
    if (origin = .dotted) = parents.isEmpty then none
    else if (Entries.find? key inner).isSome then none
    else some (Entries.insert key value inner)) origin parents members

/-! ## The open table -/

/-- Where the open table belongs. -/
inductive Place
  | root
  /-- Behind these parents, under a header of its own. -/
  | table (parents : List String) (key : String)
  /-- At the end of an array of tables. -/
  | element (parents : List String) (key : String)

/-- The table that assignments go to. -/
structure OpenTable where
  place : Place
  entries : Members

namespace OpenTable

/-- The root table, which is open first. -/
def root : OpenTable := ⟨.root, []⟩

/-- Open the table of a header. Only a table that was implied so far can be
there already, and it keeps its entries. -/
def ofHeader? (parents : List String) (key : String) (document : Members) : Option OpenTable := do
  let siblings ← behind parents document
  match Entries.find? key siblings with
  | none => some ⟨.table parents key, []⟩
  | some (.table .implied entries) => some ⟨.table parents key, entries⟩
  | some _ => none

/-- Open the next table of an array of tables. -/
def ofElement (parents : List String) (key : String) : OpenTable := ⟨.element parents key, []⟩

/-- Put the table into its document. Whether an array of tables can be where the
table belongs shows only now. -/
def file (t : OpenTable) (document : Members) : Option Members :=
  match t.place with
  | .root => some t.entries
  | .table parents key =>
    alter false (fun _ inner => some (Entries.insert key (.table .header t.entries) inner))
      .header parents document
  | .element parents key =>
    alter false (fun _ inner =>
      match Entries.find? key inner with
      | none => some (Entries.insert key (.tables t.entries []) inner)
      | some (.tables last earlier) =>
        some (Entries.insert key (.tables t.entries (last :: earlier)) inner)
      | some _ => none) .header parents document

end OpenTable

end SqlCatalog.Toml
