import Mathlib.Data.Set.Card
import SqlCatalog.Arguments
import SqlCatalog.Proofs.KeyMap
/-!
# Which argument a name gets

Of a flat list `args`, the pair `j` is `args[2 * j]` with `args[2 * j + 1]`, whatever
stands before it: a key that is not text drops its pair and shifts no other. So a
name gets the value of the last pair that has it as its key (`Given`), and the map
of the arguments is told by the places of the list alone (`find?_addPairs`). An
even list always binds, and projecting puts what each name is given in its place
(`bind_project_last_pair`).
-/
namespace SqlCatalog.Arguments

variable {args : List Value} {name : String}

/-! ## By place -/

/-- The pair `j` has this name as its key. -/
def KeyAt (args : List Value) (name : String) (j : Nat) : Prop := args[2 * j]? = some (.text name)

/-- The pair `j` is the last with this name as its key. -/
structure LastAt (args : List Value) (name : String) (j : Nat) : Prop where
  key : KeyAt args name j
  greatest : ∀ i, KeyAt args name i → i ≤ j

/-- What a flat list gives for a name. -/
inductive Given (args : List Value) (name : String) : Value → Prop
  | last (j : Nat) (v : Value) (h : LastAt args name j) (value : args[2 * j + 1]? = some v) :
      Given args name v
  | absent (h : ∀ j, ¬KeyAt args name j) : Given args name .null

theorem LastAt.unique {i j : Nat} (hi : LastAt args name i) (hj : LastAt args name j) : i = j :=
  Nat.le_antisymm (hj.greatest i hi.key) (hi.greatest j hj.key)

theorem Given.unique {v w : Value} (hv : Given args name v) (hw : Given args name w) : v = w := by
  cases hv with
  | last i v hi hvi =>
    cases hw with
    | last j w hj hwj =>
      rw [hi.unique hj, hwj] at hvi
      exact (Option.some.inj hvi).symm
    | absent h => exact absurd hi.key (h i)
  | absent h =>
    cases hw with
    | last j w hj hwj => exact absurd hj.key (h j)
    | absent => rfl

/-! ## One pair in front -/

section Cons

variable {k v : Value} {rest : List Value}

theorem keyAt_zero : KeyAt (k :: v :: rest) name 0 ↔ k = .text name := by
  simp [KeyAt]

theorem keyAt_succ {j : Nat} : KeyAt (k :: v :: rest) name (j + 1) ↔ KeyAt rest name j := by
  rw [KeyAt, KeyAt, Nat.mul_add, Nat.mul_one, List.getElem?_cons_succ, List.getElem?_cons_succ]

/-- The last pair of the rest is the last pair of all. -/
theorem LastAt.cons {j : Nat} (h : LastAt rest name j) : LastAt (k :: v :: rest) name (j + 1) := by
  refine ⟨keyAt_succ.2 h.key, fun i hi => ?_⟩
  cases i with
  | zero => exact Nat.zero_le _
  | succ i => exact Nat.succ_le_succ (h.greatest i (keyAt_succ.1 hi))

theorem lastAt_zero (h : ∀ j, ¬KeyAt rest name j) : LastAt (.text name :: v :: rest) name 0 := by
  refine ⟨keyAt_zero.2 rfl, fun i hi => ?_⟩
  cases i with
  | zero => exact Nat.le_refl 0
  | succ i => exact absurd (keyAt_succ.1 hi) (h i)

theorem not_keyAt_cons (hk : k ≠ .text name) (h : ∀ j, ¬KeyAt rest name j) (j : Nat) :
    ¬KeyAt (k :: v :: rest) name j := by
  cases j with
  | zero => exact fun hj => hk (keyAt_zero.1 hj)
  | succ j => exact fun hj => h j (keyAt_succ.1 hj)

end Cons

/-! ## Look-ups -/

/-- Adding the pairs of an even list: a name has the value of its last pair, or
what it had before. -/
theorem find?_addPairs (bound : Arguments) (args : List Value) (heven : args.length % 2 = 0)
    (name : String) :
    (∃ j, LastAt args name j ∧ ∃ v, args[2 * j + 1]? = some v ∧
        (addPairs bound args).find? name = some v) ∨
      ((∀ j, ¬KeyAt args name j) ∧ (addPairs bound args).find? name = bound.find? name) := by
  -- the pairs of the rest count before the first one, which has gone into `bound`
  induction bound, args using addPairs.induct with
  | case1 bound key value rest ih =>
    have heven' : rest.length % 2 = 0 := by simp only [List.length_cons] at heven; omega
    rw [addPairs]
    rcases ih heven' with ⟨j, hj, v, hv, hfind⟩ | ⟨hnone, hfind⟩
    · exact .inl ⟨j + 1, hj.cons, v, hv, hfind⟩
    · rw [hfind, KeyMap.find?_insert]
      by_cases hname : name = key
      · rw [if_pos hname]
        exact .inl ⟨0, hname ▸ lastAt_zero (hname ▸ hnone), value, rfl, rfl⟩
      · rw [if_neg hname]
        refine .inr ⟨not_keyAt_cons (fun h => hname ?_) hnone, rfl⟩
        cases h
        rfl
  | case2 bound key value rest hkey ih =>
    have heven' : rest.length % 2 = 0 := by simp only [List.length_cons] at heven; omega
    rw [addPairs]
    · rcases ih heven' with ⟨j, hj, v, hv, hfind⟩ | ⟨hnone, hfind⟩
      · exact .inl ⟨j + 1, hj.cons, v, hv, hfind⟩
      · exact .inr ⟨not_keyAt_cons (hkey name) hnone, hfind⟩
    · exact hkey
  | case3 args bound _ hshort =>
    obtain rfl : args = [] := by
      rcases args with _ | ⟨k, _ | ⟨v, rest⟩⟩
      · rfl
      · simp at heven
      · exact (hshort k v rest rfl).elim
    exact .inr ⟨fun j => by simp [KeyAt], rfl⟩

theorem contains_addPairs_iff (heven : args.length % 2 = 0) (name : String) :
    (addPairs KeyMap.empty args).contains name ↔ ∃ j, KeyAt args name j := by
  rw [KeyMap.contains]
  rcases find?_addPairs KeyMap.empty args heven name with ⟨j, hj, v, -, hfind⟩ | ⟨hnone, hfind⟩
  · rw [hfind]
    exact iff_of_true rfl ⟨j, hj.key⟩
  · rw [hfind]
    exact iff_of_false (by simp) fun ⟨j, hj⟩ => hnone j hj

theorem given_addPairs (heven : args.length % 2 = 0) (name : String) :
    Given args name (((addPairs KeyMap.empty args).find? name).getD .null) := by
  rcases find?_addPairs KeyMap.empty args heven name with ⟨j, hj, v, hv, hfind⟩ | ⟨hnone, hfind⟩
  · rw [hfind]
    exact .last j v hj hv
  · rw [hfind]
    exact .absent hnone

/-! ## Binding and projecting -/

/-- A list binds unless its length is odd. Bound and projected, it has one value
for each name, and the value is given by the last pair with that name as its key,
or is null if no pair has it. The keys of the map are the text keys of the
pairs, each once. -/
theorem bind_project_last_pair (args : List Value) (names : List String) :
    (∀ e, bind args = .error e ↔ args.length % 2 = 1 ∧ e = .oddArgumentCount args.length) ∧
      (args.length % 2 = 0 → ∃ bound, bind args = .ok bound ∧
        (project names bound).length = names.length ∧
        (∀ (i : Nat) name, names[i]? = some name →
          ∀ v, (project names bound)[i]? = some v ↔ Given args name v) ∧
        (∀ key, bound.contains key ↔ ∃ j, args[2 * j]? = some (.text key)) ∧
        bound.size = {key | ∃ j, args[2 * j]? = some (.text key)}.ncard) := by
  refine ⟨fun e => ?_, fun heven => ⟨_, bind_of_even heven, length_project _ _,
    fun i name hname v => ?_, contains_addPairs_iff heven, ?_⟩⟩
  · rcases Nat.mod_two_eq_zero_or_one args.length with heven | hodd
    · simp [bind_of_even heven, heven]
    · simp [bind_of_odd hodd, hodd, eq_comm]
  · have hentry : (project names (addPairs KeyMap.empty args))[i]? =
        some (((addPairs KeyMap.empty args).find? name).getD .null) := by
      rw [project, List.getElem?_map, hname, Option.map_some]
    have hgiven := given_addPairs heven name
    rw [hentry, Option.some_inj]
    exact ⟨fun h => h ▸ hgiven, fun h => hgiven.unique h⟩
  · have hkeys : {key | ∃ j, args[2 * j]? = some (.text key)} =
        ((addPairs KeyMap.empty args).keys.toFinset : Set String) := by
      ext key
      rw [List.coe_toFinset, Set.mem_ofPred_eq, Set.mem_ofPred_eq, KeyMap.mem_keys_iff]
      exact (contains_addPairs_iff heven key).symm
    rw [hkeys, Set.ncard_coe_finset, List.toFinset_card_of_nodup (KeyMap.nodup_keys _),
      KeyMap.length_keys]

/-- A pair without a text key drops out, `a` is given twice, and the last value is
no key. -/
theorem bind_project_last_pair_dropped :
    let args : List Value := [.int 1, .text "b", .text "a", .null, .text "b", .int 2, .text "a",
      .text "b"]
    args.length % 2 = 0 ∧ ∃ bound, bind args = .ok bound ∧
      (project ["b", "c", "a"] bound)[0]? = some (.int 2) := by
  intro args
  have heven : args.length % 2 = 0 := by simp [args]
  obtain ⟨bound, hok, -, hvalue, -⟩ := (bind_project_last_pair args ["b", "c", "a"]).2 heven
  have hlast : LastAt args "b" 2 := by
    refine ⟨rfl, fun i hi => ?_⟩
    rcases i with _ | _ | _ | _ | i
    · simp
    · simp
    · simp
    · simp [KeyAt, args] at hi
    · simp [KeyAt, args, Nat.mul_add] at hi
  exact ⟨heven, bound, hok, (hvalue 0 "b" rfl _).2 (.last 2 _ hlast rfl)⟩

end SqlCatalog.Arguments
