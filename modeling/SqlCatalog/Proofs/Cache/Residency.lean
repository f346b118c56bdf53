import Mathlib.Data.List.Induction
import SqlCatalog.Proofs.Cache.Recency
/-!
# Which keys a cache holds

A cache that is used from new on, by any operations in any order: `replay` is
the cache after them with the record of what each was answered, the latest
first. What the cache holds can be read off that record. A key is in exactly if
it was inserted since the last clearing and fewer than `n` other keys were used
since its own last use, where a look-up that misses is no use
(`replay_resident_iff`). What is at a key is what the insertion brought that
began its stay (`replay_find?_iff`).
-/
namespace SqlCatalog.Cache

variable {α : Type}

/-! ## Runs -/

/-- Something done to a cache. -/
inductive Operation (α : Type)
  | get (key : String)
  | insert (key : String) (x : α)
  | clear

/-- The answer to an operation, and the cache after it. -/
def perform (c : Cache α) : Operation α → Option α × Cache α
  | .get key => c.get key
  | .insert key x => (some (c.insertIfAbsent key x).1, (c.insertIfAbsent key x).2)
  | .clear => (none, c.clear)

/-- Operations with their answers, the latest first. -/
abbrev Record (α : Type) := List (Operation α × Option α)

/-- One operation more. -/
def extend (r : Cache α × Record α) (op : Operation α) : Cache α × Record α :=
  ((r.1.perform op).2, (op, (r.1.perform op).1) :: r.2)

/-- A new cache after these operations, and their record. -/
def replay (n : Nat) (ops : List (Operation α)) : Cache α × Record α :=
  ops.foldl extend (new n, [])

theorem replay_concat (n : Nat) (ops : List (Operation α)) (op : Operation α) :
    replay n (ops ++ [op]) = extend (replay n ops) op :=
  List.foldl_concat ..

/-! ## Reading a record -/

/-- The key that an operation used: one that was inserted, or looked up with success. -/
def used : Operation α × Option α → Option String
  | (.insert key _, _) => some key
  | (.get key, some _) => some key
  | (.get _, none) => none
  | (.clear, _) => none

def isClear : Operation α × Option α → Bool
  | (.clear, _) => true
  | _ => false

/-- Was the key inserted since the last clearing? -/
def InsertedSinceClear (k : String) (h : Record α) : Prop :=
  ∃ x a, (Operation.insert k x, a) ∈ h.takeWhile (fun e => !isClear e)

/-- The keys used since the last use of `k`. -/
def usedSince (k : String) (h : Record α) : List String :=
  (h.takeWhile (fun e => used e ≠ some k)).filterMap used

/-- The keys used since the last clearing, the latest first. -/
def uses (h : Record α) : List String :=
  (h.takeWhile (fun e => !isClear e)).filterMap used

theorem uses_clear (a : Option α) (h : Record α) : uses ((.clear, a) :: h) = [] := rfl

theorem uses_of_some {e : Operation α × Option α} {k : String} (he : used e = some k)
    (h : Record α) : uses (e :: h) = k :: uses h := by
  obtain ⟨op, a⟩ := e
  cases op with
  | clear => cases he
  | get j =>
    cases a with
    | none => cases he
    | some x => cases he; rfl
  | insert j x => cases he; rfl

theorem uses_get_none (k : String) (h : Record α) : uses ((.get k, none) :: h) = uses h := rfl

theorem usedSince_of_eq {e : Operation α × Option α} {k : String} (he : used e = some k)
    (h : Record α) : usedSince k (e :: h) = [] := by
  simp [usedSince, he]

theorem usedSince_of_ne {e : Operation α × Option α} {j k : String} (he : used e = some j)
    (hj : j ≠ k) (h : Record α) : usedSince k (e :: h) = j :: usedSince k h := by
  simp [usedSince, he, hj]

theorem usedSince_of_none {e : Operation α × Option α} {k : String} (he : used e = none)
    (h : Record α) : usedSince k (e :: h) = usedSince k h := by
  simp [usedSince, he]

/-- A key used since the last clearing has its last use there, so the uses since
then are all in view. -/
theorem takeWhile_uses {k : String} {h : Record α} (hk : k ∈ uses h) :
    (uses h).takeWhile (· ≠ k) = usedSince k h := by
  induction h with
  | nil => rfl
  | cons e h ih =>
    cases hu : used e with
    | some j =>
      rw [uses_of_some hu] at hk ⊢
      by_cases hj : j = k
      · rw [usedSince_of_eq (hj ▸ hu)]
        simp [hj]
      · have hmem : k ∈ uses h := (List.mem_cons.1 hk).resolve_left (Ne.symm hj)
        rw [usedSince_of_ne hu hj, ← ih hmem]
        simp [hj]
    | none =>
      rw [usedSince_of_none hu]
      obtain ⟨op, a⟩ := e
      cases op with
      | clear => simp [uses_clear] at hk
      | insert j x => cases hu
      | get j =>
        cases a with
        | some x => cases hu
        | none => exact ih hk

/-- An insertion since the last clearing is a use. -/
theorem mem_uses_of_inserted {k : String} {h : Record α} (hk : InsertedSinceClear k h) :
    k ∈ uses h := by
  obtain ⟨x, a, hmem⟩ := hk
  exact List.mem_filterMap.2 ⟨_, hmem, rfl⟩

theorem InsertedSinceClear.cons {k : String} {h : Record α} (hk : InsertedSinceClear k h)
    {e : Operation α × Option α} (he : isClear e = false) : InsertedSinceClear k (e :: h) := by
  obtain ⟨x, a, hmem⟩ := hk
  refine ⟨x, a, ?_⟩
  rw [List.takeWhile_cons, if_pos (by simp [he])]
  exact List.mem_cons_of_mem _ hmem

theorem insertedSinceClear_self (k : String) (x : α) (a : Option α) (h : Record α) :
    InsertedSinceClear k ((.insert k x, a) :: h) :=
  ⟨x, a, by simp [isClear]⟩

/-! ## What a run keeps -/

/-- A cache of capacity `n` and its record fit together. -/
structure Recorded (n : Nat) (r : Cache α × Record α) : Prop where
  capacity : r.1.capacity = n
  follows : r.1.Follows (uses r.2)
  inserted : ∀ k ∈ uses r.2, InsertedSinceClear k r.2

theorem Recorded.extend {n : Nat} {r : Cache α × Record α} (hr : Recorded n r)
    (op : Operation α) : Recorded n (extend r op) := by
  obtain ⟨c, h⟩ := r
  obtain ⟨hcap, hfol, hins⟩ := hr
  cases op with
  | clear => exact ⟨hcap, .clear c, fun k hk => by simp [Cache.extend, uses_clear] at hk⟩
  | insert k x =>
    have huse : uses ((Operation.insert k x, some (c.insertIfAbsent k x).1) :: h) = k :: uses h :=
      uses_of_some rfl h
    refine ⟨(capacity_insertIfAbsent c k x).trans hcap, ?_, fun j hj => ?_⟩
    · exact huse ▸ hfol.insertIfAbsent k x
    · rcases List.mem_cons.1 (huse ▸ hj) with rfl | hj
      · exact insertedSinceClear_self j x _ h
      · exact (hins j hj).cons rfl
  | get k =>
    have hget := hfol.get k
    have hans : (c.get k).1 = c.table.find? k := fst_get c k
    cases hk : c.table.find? k with
    | none =>
      rw [hk] at hget hans
      have huse : uses ((Operation.get k, (c.get k).1) :: h) = uses h := by
        rw [hans, uses_get_none]
      exact ⟨(capacity_get c k).trans hcap, huse ▸ hget, fun j hj => (hins j (huse ▸ hj)).cons rfl⟩
    | some x =>
      rw [hk] at hget hans
      have huse : uses ((Operation.get k, (c.get k).1) :: h) = k :: uses h := by
        rw [hans]; exact uses_of_some rfl h
      have hmem : k ∈ uses h := (hfol.resident_iff.1 (by rw [hk]; rfl)).1
      refine ⟨(capacity_get c k).trans hcap, huse ▸ hget, fun j hj => ?_⟩
      rcases List.mem_cons.1 (huse ▸ hj) with rfl | hj
      · exact (hins j hmem).cons rfl
      · exact (hins j hj).cons rfl

theorem recorded_replay (n : Nat) (ops : List (Operation α)) : Recorded n (replay n ops) := by
  induction ops using List.reverseRecOn with
  | nil => exact ⟨rfl, .new n, fun k hk => absurd hk (by simp [replay, uses])⟩
  | append_singleton ops op ih => rw [replay_concat]; exact ih.extend op

/-- Is the key in the cache after these operations? -/
def Resident (n : Nat) (k : String) (ops : List (Operation α)) : Prop :=
  k ∈ (replay n ops).1.table.keys

theorem resident_iff_isSome {n : Nat} {k : String} {ops : List (Operation α)} :
    Resident n k ops ↔ ((replay n ops).1.table.find? k).isSome :=
  KeyMap.mem_keys_iff

theorem resident_of_find? {n : Nat} {k : String} {x : α} {ops : List (Operation α)}
    (h : (replay n ops).1.table.find? k = some x) : Resident n k ops :=
  resident_iff_isSome.2 (by rw [h]; rfl)

/-- The keys in the cache, by the record alone. -/
theorem replay_resident_iff (n : Nat) (ops : List (Operation α)) (k : String) :
    Resident n k ops ↔
      InsertedSinceClear k (replay n ops).2 ∧
        (usedSince k (replay n ops).2).toFinset.card < n := by
  obtain ⟨hcap, hfol, hins⟩ := recorded_replay n ops
  rw [resident_iff_isSome, hfol.resident_iff, hcap]
  constructor
  · rintro ⟨hk, hcard⟩
    exact ⟨hins k hk, takeWhile_uses hk ▸ hcard⟩
  · rintro ⟨hk, hcard⟩
    have hmem := mem_uses_of_inserted hk
    exact ⟨hmem, (takeWhile_uses hmem).symm ▸ hcard⟩

/-! ## What is at a key -/

/-- An entry after an operation was there before, or is new at a key that had none. -/
theorem find?_of_perform {c : Cache α} {op : Operation α} {k : String} {x : α}
    (h : (c.perform op).2.table.find? k = some x) :
    c.table.find? k = some x ∨ (op = .insert k x ∧ c.table.find? k = none) := by
  cases op with
  | clear => cases h
  | get j => exact .inl (by rwa [perform, table_get] at h)
  | insert j y =>
    rcases find?_of_insertIfAbsent h with h | ⟨rfl, rfl, hnone⟩
    · exact .inl h
    · exact .inr ⟨rfl, hnone⟩

/-- The last of these operations to bring `k` in, where it was not, inserted
`x`, and `k` has not been out of the cache since. -/
def Brought (n : Nat) (k : String) (x : α) (ops : List (Operation α)) : Prop :=
  ∃ before since, ops = before ++ .insert k x :: since ∧ ¬Resident n k before ∧
    ∀ s, s <+: since → Resident n k (before ++ .insert k x :: s)

theorem brought_of_find? {n : Nat} {k : String} {x : α} {ops : List (Operation α)}
    (h : (replay n ops).1.table.find? k = some x) : Brought n k x ops := by
  induction ops using List.reverseRecOn with
  | nil => cases h
  | append_singleton ops op ih =>
    have hnow : Resident n k (ops ++ [op]) := resident_of_find? h
    rw [replay_concat] at h
    rcases find?_of_perform h with hold | ⟨rfl, hnone⟩
    · obtain ⟨before, since, rfl, hout, hstay⟩ := ih hold
      refine ⟨before, since ++ [op], by simp, hout, fun s hs => ?_⟩
      rcases List.prefix_concat_iff.1 hs with rfl | hs
      · simpa using hnow
      · exact hstay s hs
    · refine ⟨ops, [], rfl, by simp [resident_iff_isSome, hnone], fun s hs => ?_⟩
      rw [List.prefix_nil.1 hs]
      exact hnow

theorem find?_of_brought {n : Nat} {k : String} {x : α} {ops : List (Operation α)}
    (h : Brought n k x ops) : (replay n ops).1.table.find? k = some x := by
  obtain ⟨before, since, rfl, hout, hstay⟩ := h
  -- the first step brings `k` in with `x`, and each later one finds it there
  induction since using List.reverseRecOn with
  | nil =>
    have hin := hstay [] List.prefix_rfl
    rw [resident_iff_isSome] at hin
    obtain ⟨y, hy⟩ := Option.isSome_iff_exists.1 hin
    rw [replay_concat] at hy ⊢
    rcases find?_of_perform hy with hold | ⟨he, -⟩
    · exact absurd (resident_of_find? hold) hout
    · cases he; exact hy
  | append_singleton since op ih =>
    have hold := ih fun s hs => hstay s (hs.trans (List.prefix_append _ _))
    have hin := hstay (since ++ [op]) List.prefix_rfl
    rw [resident_iff_isSome] at hin
    obtain ⟨y, hy⟩ := Option.isSome_iff_exists.1 hin
    have hsplit : before ++ Operation.insert k x :: (since ++ [op]) =
        before ++ Operation.insert k x :: since ++ [op] := by simp
    rw [hsplit, replay_concat] at hy ⊢
    rcases find?_of_perform hy with hsame | ⟨-, hnone⟩
    · rw [hy, ← hsame, hold]
    · rw [hold] at hnone; cases hnone

theorem replay_find?_iff {n : Nat} {k : String} {x : α} {ops : List (Operation α)} :
    (replay n ops).1.table.find? k = some x ↔ Brought n k x ops :=
  ⟨brought_of_find?, find?_of_brought⟩

/-- A cache of capacity `n` after any operations: its queue lists the keys of its
table once each, at most `n` of them; the record tells which keys these are; a
look-up answers with what the insertion brought that began the stay of the key,
and so does an insertion unless it begins one itself. -/
theorem replay_is_lru (n : Nat) (ops : List (Operation α)) :
    let c := (replay n ops).1
    let h := (replay n ops).2
    (c.order.Nodup ∧ (∀ k, k ∈ c.order ↔ Resident n k ops) ∧ c.order.length ≤ n ∧
        c.table.size ≤ n) ∧
      (∀ k, Resident n k ops ↔ InsertedSinceClear k h ∧ (usedSince k h).toFinset.card < n) ∧
      (∀ k, ¬Resident 0 k ops) ∧
      (∀ k, (c.get k).1.isSome ↔ Resident n k ops) ∧
      (∀ k x, (c.get k).1 = some x ↔ Brought n k x ops) ∧
      ∀ k y, (c.insertIfAbsent k y).1 = (c.get k).1.getD y := by
  intro c h
  obtain ⟨hcap, hfol, -⟩ := recorded_replay n ops
  refine ⟨⟨hfol.nodup_order, fun k => ?_, ?_, ?_⟩, replay_resident_iff n ops, fun k => ?_,
    fun k => ?_, fun k x => ?_, fun k y => ?_⟩
  · rw [hfol.keys, resident_iff_isSome]
  · exact hfol.length_order_le.trans_eq hcap
  · exact hfol.size_le.trans_eq hcap
  · rw [replay_resident_iff]
    exact fun hk => absurd hk.2 (Nat.not_lt_zero _)
  · rw [fst_get, resident_iff_isSome]
  · rw [fst_get, replay_find?_iff]
  · rw [fst_get, fst_insertIfAbsent]

/-- Looking `a` up keeps it, and `b` goes for `c`; a miss of `b` changes nothing. -/
example : (replay 2 [.insert "a" 0, .insert "b" 1, .get "a", .insert "c" 2, .get "b"]).1.order =
    ["a", "c"] := by decide

end SqlCatalog.Cache
