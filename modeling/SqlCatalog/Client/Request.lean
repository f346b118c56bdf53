import SqlCatalog.Client.Basic
/-!
# Requests

A run of a client as data: requests in order, each with its reply and the events
that it logged. Cursors stay open from request to request, in numbered slots.
-/
namespace SqlCatalog

/-- Something asked of a client. -/
inductive Request
  | prepare (id : String)
  | bindCall (id : String) (args : List Value)
  /-- Open a cursor in a slot, in place of the one that is there. -/
  | query (id : String) (args : List Value) (slot : Nat)
  | next (slot : Nat)
  /-- Read all that is left of a cursor; this empties its slot. -/
  | collect (slot : Nat)
  | close (slot : Nat)
  | execute (id : String) (args : List Value)
  | fetchAll (id : String) (args : List Value)
  | fetchFirst (id : String) (args : List Value)
  | validate
  | clearCache

/-- The answer to a request. -/
inductive Reply (ρ : Type)
  | prepared (p : Prepared)
  | bound (p : Prepared) (params : List Value)
  | opened
  | row (r : ρ)
  | finished
  | noCursor
  | closed
  | rows (rs : List ρ)
  | first (r : Option ρ)
  | affected (n : Nat)
  | valid
  | cleared
  | failed (e : Failure)

/-- A session with its open cursors, by slot. -/
structure Desk (σ ρ : Type) where
  session : Session σ
  cursors : List (Nat × Cursor ρ)

namespace Desk

variable {σ ρ : Type}

def cursor? (d : Desk σ ρ) (slot : Nat) : Option (Cursor ρ) := d.cursors.lookup slot

/-- Empty a slot. -/
def release (d : Desk σ ρ) (slot : Nat) : Desk σ ρ :=
  { d with cursors := d.cursors.filter (fun e => e.1 != slot) }

def place (d : Desk σ ρ) (slot : Nat) (c : Cursor ρ) : Desk σ ρ :=
  { d with cursors := (slot, c) :: (d.release slot).cursors }

end Desk

namespace Reply

variable {α ρ : Type}

/-- The reply for a result. -/
def ofResult (f : α → Reply ρ) : Except Failure α → Reply ρ
  | .ok a => f a
  | .error e => .failed e

end Reply

namespace Client

variable {σ ρ : Type}

/-- A new desk over a state of the store. -/
def openDesk (c : Client σ ρ) (state : σ) : Desk σ ρ := ⟨c.start state, []⟩

/-- Answer one request. `elapsed` is the time that a call of the store takes, in
milliseconds. -/
def answer (c : Client σ ρ) (elapsed : Nat) (d : Desk σ ρ) :
    Request → Reply ρ × List Event × Desk σ ρ
  | .prepare id =>
    let (result, session) := c.prepare id d.session
    (.ofResult .prepared result, [], { d with session })
  | .bindCall id args =>
    let (result, session) := c.bindCall id args d.session
    (.ofResult (fun r => .bound r.1 r.2) result, [], { d with session })
  | .query id args slot =>
    let (result, events, session) := c.query elapsed id args d.session
    match result with
    | .ok cursor => (.opened, events, { d with session }.place slot cursor)
    | .error e => (.failed e, events, { d with session })
  | .next slot =>
    match d.cursor? slot with
    | none => (.noCursor, [], d)
    | some cursor =>
      let (result, cursor) := cursor.next
      let reply := match result with
        | none => .finished
        | some r => .ofResult .row r
      (reply, [], d.place slot cursor)
  | .collect slot =>
    match d.cursor? slot with
    | none => (.noCursor, [], d)
    | some cursor => (.ofResult .rows cursor.collect, [], d.release slot)
  | .close slot =>
    match d.cursor? slot with
    | none => (.noCursor, [], d)
    | some _ => (.closed, [], d.release slot)
  | .execute id args =>
    let (result, events, session) := c.execute elapsed id args d.session
    (.ofResult .affected result, events, { d with session })
  | .fetchAll id args =>
    let (result, events, session) := c.fetchAll elapsed id args d.session
    (.ofResult .rows result, events, { d with session })
  | .fetchFirst id args =>
    let (result, events, session) := c.fetchFirst elapsed id args d.session
    (.ofResult .first result, events, { d with session })
  | .validate =>
    let (result, events) := c.validate
    (.ofResult (fun _ => .valid) result, events, d)
  | .clearCache => (.cleared, [], { d with session := clearCache d.session })

/-- Answer requests in order, each with the time of its call. -/
def answerAll (c : Client σ ρ) (d : Desk σ ρ) :
    List (Nat × Request) → List (Reply ρ × List Event) × Desk σ ρ
  | [] => ([], d)
  | (elapsed, r) :: rest =>
    let (reply, events, d) := c.answer elapsed d r
    let (more, d) := c.answerAll d rest
    ((reply, events) :: more, d)

end Client

end SqlCatalog
