import SqlCatalog.KeyMap
/-!
# Least recently used

A cache of a fixed capacity with its keys in order of use. A key is used when
it is looked up with success or inserted; the key whose last use is longest ago
goes first. An entry is never replaced while it is in the cache: inserting a
key that is present returns what is there.
-/
namespace SqlCatalog

/-- At most `capacity` entries; `order` lists their keys, the least recently
used first. -/
structure Cache (α : Type) where
  capacity : Nat
  table : KeyMap α
  order : List String

namespace Cache

variable {α : Type}

def new (capacity : Nat) : Cache α := ⟨capacity, KeyMap.empty, []⟩

/-- Make `key` the most recently used one, if it is in the order. -/
def touch (key : String) (order : List String) : List String :=
  if key ∈ order then order.erase key ++ [key] else order

/-- Drop entries from the front of the order while there are more than
`capacity`. -/
def evict (capacity : Nat) : KeyMap α → List String → KeyMap α × List String
  | table, [] => (table, [])
  | table, oldest :: order =>
    if capacity < table.size then evict capacity (table.erase oldest) order
    else (table, oldest :: order)

/-- Keep at most `capacity` entries; a cache without capacity keeps none. -/
def evictIfNeeded (capacity : Nat) (table : KeyMap α) (order : List String) :
    KeyMap α × List String :=
  if capacity = 0 then (KeyMap.empty, []) else evict capacity table order

/-- Look a key up and use it. -/
def get (c : Cache α) (key : String) : Option α × Cache α :=
  match c.table.find? key with
  | some x => (some x, { c with order := touch key c.order })
  | none => (none, c)

/-- Put `x` at a key that is not in the cache; answers what is at the key then. -/
def insertIfAbsent (c : Cache α) (key : String) (x : α) : α × Cache α :=
  match c.table.find? key with
  | some old => (old, { c with order := touch key c.order })
  | none =>
    let (table, order) := evictIfNeeded c.capacity (c.table.insert key x) (c.order ++ [key])
    (x, { c with table, order })

/-- Drop every entry. -/
def clear (c : Cache α) : Cache α := new c.capacity

end Cache

end SqlCatalog
