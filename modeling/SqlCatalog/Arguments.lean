import SqlCatalog.Failure
import SqlCatalog.KeyMap
import SqlCatalog.Value.Basic
/-!
# Arguments

Callers pass a flat list that alternates keys and values. `bind` pairs it up
into a map from names to values and `project` orders the values by placeholder
name. The last value given for a name counts.
-/
namespace SqlCatalog

/-- Values by parameter name. -/
abbrev Arguments := KeyMap Value

namespace Arguments

/-- Add the pairs of a flat list to a map. A pair whose key is not text is
dropped, value and all. -/
def addPairs (bound : Arguments) : List Value → Arguments
  | .text key :: value :: rest => addPairs (bound.insert key value) rest
  | _ :: _ :: rest => addPairs bound rest
  | _ => bound

/-- Pair up a flat list of keys and values. -/
def bind (args : List Value) : Except Failure Arguments :=
  if args.length % 2 = 1 then .error (.oddArgumentCount args.length)
  else .ok (addPairs KeyMap.empty args)

/-- The values by placeholder name; names without a value give null. -/
def project (names : List String) (bound : Arguments) : List Value :=
  names.map (fun name => (bound.find? name).getD .null)

theorem bind_of_odd {args : List Value} (h : args.length % 2 = 1) :
    bind args = .error (.oddArgumentCount args.length) := if_pos h

theorem bind_of_even {args : List Value} (h : args.length % 2 = 0) :
    bind args = .ok (addPairs KeyMap.empty args) := if_neg (by omega)

theorem length_project (names : List String) (bound : Arguments) :
    (project names bound).length = names.length := by simp [project]

end Arguments

end SqlCatalog
