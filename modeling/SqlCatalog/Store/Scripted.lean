import SqlCatalog.Store.Basic
/-!
# Scripted stores

A store that answers by a script and records its calls. Row `i` of a query is
the number `i` followed by the parameters.
-/
namespace SqlCatalog

/-- A call that reached the store. -/
structure Call where
  kind : CallKind
  sql : String
  params : List Value

/-- What a scripted store answers. -/
structure Script where
  driver : String
  /-- Reject every statement that contains this text. -/
  rejected : Option String
  /-- The number of rows of a query. -/
  rows : Nat
  /-- The row that fails in place of being read. -/
  failingRow : Option Nat

namespace Script

/-- Does `text` occur in `s`? -/
def occursIn (text : List Char) : List Char → Bool
  | [] => text.isEmpty
  | c :: s => text.isPrefixOf (c :: s) || occursIn text s

/-- Why a statement is rejected, if it is. -/
def rejection (s : Script) (sql : String) : Option Failure :=
  match s.rejected with
  | some text =>
    if occursIn text.toList sql.toList then some (.store s!"rejected: {text}") else none
  | none => none

/-- Row `i` of a query. -/
def row (s : Script) (params : List Value) (i : Nat) : Except Failure (List Value) :=
  if s.failingRow = some i then .error (.store s!"row {i} failed")
  else .ok (.int (Int64.ofNat i) :: params)

def query (s : Script) (sql : String) (params : List Value) (calls : List Call) :
    Except Failure (Cursor (List Value)) × List Call :=
  let calls := calls ++ [⟨.query, sql, params⟩]
  match s.rejection sql with
  | some e => (.error e, calls)
  | none => (.ok ⟨(List.range s.rows).map (s.row params)⟩, calls)

def execute (s : Script) (sql : String) (params : List Value) (calls : List Call) :
    Except Failure Nat × List Call :=
  let calls := calls ++ [⟨.execute, sql, params⟩]
  match s.rejection sql with
  | some e => (.error e, calls)
  | none => (.ok params.length, calls)

/-- The store that follows a script. Its state is the calls so far. -/
def store (s : Script) : Store (List Call) (List Value) where
  driver := s.driver
  query := s.query
  execute := s.execute

end Script

end SqlCatalog
