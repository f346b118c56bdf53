import SqlCatalog.Arguments
import SqlCatalog.Proofs.KeyMap
/-!
# The order of arguments

The map of a flat list is made of its pairs with text keys in order
(`addPairs_eq_ofList`). A name looks at the pairs that have it as their key and at
no others, so what counts for given names is the order among the pairs of each
of them: lists that differ in nothing else project alike
(`project_eq_of_rearranged`).
-/
namespace SqlCatalog.Arguments

/-- A flat list as pairs of keys and values. -/
def pairs : List Value → List (Value × Value)
  | key :: value :: rest => (key, value) :: pairs rest
  | _ => []

/-- A pair under the name that its key gives. -/
def named? : Value × Value → Option (String × Value)
  | (.text name, value) => some (name, value)
  | _ => none

/-- The pairs of a flat list whose key is text. -/
def namedPairs (args : List Value) : List (String × Value) := (pairs args).filterMap named?

/-- The pairs whose key is one of these names. -/
def relevant (names : List String) (args : List Value) : List (String × Value) :=
  (namedPairs args).filter (fun p => p.1 ∈ names)

/-- A permutation that leaves the pairs of each key in their order. -/
structure Rearranged (xs ys : List (String × Value)) : Prop where
  perm : xs.Perm ys
  order : ∀ name, xs.filter (fun p => p.1 = name) = ys.filter (fun p => p.1 = name)

theorem addPairs_eq_foldl (bound : Arguments) (args : List Value) :
    addPairs bound args = (namedPairs args).foldl (fun m p => m.insert p.1 p.2) bound := by
  induction args using pairs.induct generalizing bound with
  | case1 key value rest ih =>
    cases key with
    | text name => exact ih (bound.insert name value)
    | _ => exact ih bound
  | case2 args hshort =>
    rcases args with _ | ⟨k, _ | ⟨v, rest⟩⟩
    · rfl
    · cases k <;> rfl
    · exact (hshort k v rest rfl).elim

theorem addPairs_eq_ofList (args : List Value) :
    addPairs KeyMap.empty args = KeyMap.ofList (namedPairs args) := by
  rw [KeyMap.ofList_eq_foldl, addPairs_eq_foldl]

/-- Pairs with other keys are of no account to a name. -/
theorem filter_relevant {names : List String} {name : String} (h : name ∈ names)
    (args : List Value) :
    (relevant names args).filter (fun p => p.1 = name) =
      (namedPairs args).filter (fun p => p.1 = name) := by
  rw [relevant, List.filter_filter]
  refine List.filter_congr fun p _ => ?_
  by_cases hp : p.1 = name
  · simp [hp, h]
  · simp [hp]

theorem find?_eq_of_rearranged {names : List String} {args₁ args₂ : List Value}
    (h : Rearranged (relevant names args₁) (relevant names args₂)) {name : String}
    (hname : name ∈ names) :
    (addPairs KeyMap.empty args₁).find? name = (addPairs KeyMap.empty args₂).find? name := by
  rw [addPairs_eq_ofList, addPairs_eq_ofList, KeyMap.find?_ofList, KeyMap.find?_ofList,
    ← filter_relevant hname, ← filter_relevant hname, h.order]

theorem project_eq_of_rearranged {names : List String} {args₁ args₂ : List Value}
    (h : Rearranged (relevant names args₁) (relevant names args₂)) :
    project names (addPairs KeyMap.empty args₁) = project names (addPairs KeyMap.empty args₂) := by
  refine List.map_congr_left fun name hname => ?_
  rw [find?_eq_of_rearranged h hname]

end SqlCatalog.Arguments
