/-!
# Parameter types of a Postgres server

The type that a server expects for a parameter: one of its built-in types, or a
type that is defined in the database. A defined type is never a built-in one,
whatever its name.

Which types take text, and which of them behind a version byte, is settled by the
text encoder of the client library and not by this project: `isTextual` and
`isVersioned` are its documented sets of types, and stand here as an assumption.
-/
namespace SqlCatalog.Wire

/-- The built-in types; `other` stands for those without a constructor of their own. -/
inductive Builtin
  | bool
  | bytea
  | char
  | name
  | int8
  | int2
  | int4
  | text
  | oid
  | json
  | xml
  | float4
  | float8
  | unknown
  | inet
  | int4Array
  | textArray
  | bpchar
  | varchar
  | date
  | timestamptz
  | numeric
  | void
  | uuid
  | jsonb
  | other (oid : Nat) (label : String)
deriving DecidableEq

/-- The types with a constructor of their own, each with its object id and its name. -/
def Builtin.catalog : List (Builtin × Nat × String) :=
  [(.bool, 16, "bool"), (.bytea, 17, "bytea"), (.char, 18, "char"), (.name, 19, "name"),
   (.int8, 20, "int8"), (.int2, 21, "int2"), (.int4, 23, "int4"), (.text, 25, "text"),
   (.oid, 26, "oid"), (.json, 114, "json"), (.xml, 142, "xml"), (.float4, 700, "float4"),
   (.float8, 701, "float8"), (.unknown, 705, "unknown"), (.inet, 869, "inet"),
   (.int4Array, 1007, "_int4"), (.textArray, 1009, "_text"), (.bpchar, 1042, "bpchar"),
   (.varchar, 1043, "varchar"), (.date, 1082, "date"), (.timestamptz, 1184, "timestamptz"),
   (.numeric, 1700, "numeric"), (.void, 2278, "void"), (.uuid, 2950, "uuid"),
   (.jsonb, 3802, "jsonb")]

/-- The name of a built-in type. -/
def Builtin.typeName : Builtin → String
  | other _ label => label
  | b => ((catalog.lookup b).map (·.2)).getD ""

/-- The type of the catalog with an object id. -/
def Builtin.ofOid? (oid : Nat) : Option Builtin :=
  (catalog.find? (fun e => e.2.1 == oid)).map (·.1)

/-- The type of a parameter. -/
inductive ParamType
  | builtin (b : Builtin)
  /-- Defined in the database. -/
  | defined (name : String) (oid : Nat) (schema : String)
deriving DecidableEq

namespace ParamType

def name : ParamType → String
  | builtin b => b.typeName
  | defined name _ _ => name

/-- The name, behind its schema where that is not searched by default. -/
def display : ParamType → String
  | builtin b => b.typeName
  | defined name _ schema =>
    if schema = "public" ∨ schema = "pg_catalog" then name else s!"{schema}.{name}"

/-- Types whose text comes behind a version byte. -/
def isVersioned (t : ParamType) : Bool :=
  t.name == "ltree" || t.name == "lquery" || t.name == "ltxtquery"

/-- Types that take text. -/
def isTextual (t : ParamType) : Bool :=
  t == .builtin .text || t == .builtin .varchar || t == .builtin .bpchar ||
    t == .builtin .name || t == .builtin .unknown || t.name == "citext" || t.isVersioned

end ParamType

end SqlCatalog.Wire
