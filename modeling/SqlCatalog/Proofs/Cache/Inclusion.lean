import SqlCatalog.Proofs.Cache.Residency
/-!
# Larger caches

Two caches of different capacity, used alike from new on. What they were used
for differs: a look-up may miss in the smaller one and move a key in the larger
one only. Still the keys of the smaller one are in the larger one, in the same
order (`Included`), so what hits in the smaller one hits in the larger one too
(`larger_keeps_hits`).

For an induction the order alone says too little. While the smaller cache has
room left, it has dropped nothing, and the two hold the same (`Included.exact`);
once it is full, each key that comes in costs it one, and the larger cache at
most one.
-/
namespace SqlCatalog.Cache

variable {α : Type}

/-! ## Orders of use -/

/-- The order after a use of `k`: `k` goes to the end, and what is too much for
`n` keys goes from the front. -/
def afterUse (n : Nat) (k : String) (order : List String) : List String :=
  (order.erase k ++ [k]).drop ((order.erase k ++ [k]).length - n)

theorem length_moved_of_mem {k : String} {order : List String} (h : k ∈ order) :
    (order.erase k ++ [k]).length = order.length := by
  have hpos : 0 < order.length := List.length_pos_of_mem h
  rw [List.length_append, List.length_erase_of_mem h, List.length_singleton]
  omega

theorem length_moved_of_not_mem {k : String} {order : List String} (h : k ∉ order) :
    (order.erase k ++ [k]).length = order.length + 1 := by
  rw [List.erase_of_not_mem h, List.length_append, List.length_singleton]

/-- To move a key that is there costs none. -/
theorem afterUse_of_mem {n : Nat} {k : String} {order : List String} (h : k ∈ order)
    (hn : order.length ≤ n) : afterUse n k order = order.erase k ++ [k] := by
  rw [afterUse, length_moved_of_mem h, Nat.sub_eq_zero_of_le hn, List.drop_zero]

theorem length_afterUse (n : Nat) (k : String) (order : List String) :
    (afterUse n k order).length = min n (order.erase k ++ [k]).length := by
  rw [afterUse, List.length_drop]
  omega

namespace Follows

variable {c : Cache α} {log : List String}

theorem touch_eq_afterUse (h : c.Follows log) {k : String} (hk : k ∈ c.order) :
    touch k c.order = afterUse c.capacity k c.order := by
  rw [touch, if_pos hk, afterUse_of_mem hk h.length_order_le]

/-- A look-up uses a key that is there. -/
theorem order_get (h : c.Follows log) (k : String) :
    (c.get k).2.order = if k ∈ c.order then afterUse c.capacity k c.order else c.order := by
  unfold Cache.get
  cases hk : c.table.find? k with
  | none =>
    have hout : k ∉ c.order := fun hmem => by simpa [hk] using (h.keys k).1 hmem
    rw [if_neg hout]
  | some x =>
    have hin : k ∈ c.order := (h.keys k).2 (by rw [hk]; rfl)
    rw [if_pos hin]
    exact h.touch_eq_afterUse hin

/-- An insertion uses its key, whether it was there or not. -/
theorem order_insertIfAbsent (h : c.Follows log) (k : String) (x : α) :
    (c.insertIfAbsent k x).2.order = afterUse c.capacity k c.order := by
  have hnew := (h.insertIfAbsent k x).order_eq
  rw [capacity_insertIfAbsent] at hnew
  by_cases hk : k ∈ c.order
  · obtain ⟨old, hold⟩ := Option.isSome_iff_exists.1 ((h.keys k).1 hk)
    unfold Cache.insertIfAbsent
    rw [hold]
    exact h.touch_eq_afterUse hk
  · have hcut : k ∉ (recent log).take c.capacity := fun hmem => hk (h.mem_order.2 hmem)
    have hmoved : c.order.erase k ++ [k] = (k :: (recent log).take c.capacity).reverse := by
      rw [List.erase_of_not_mem hk, List.reverse_cons, h.order_eq]
    rw [hnew, afterUse, hmoved, drop_reverse_sub, append_take_recent hcut]

end Follows

/-! ## One order in another -/

/-- The order of a cache with room for `m` keys, and the order of a larger one. -/
structure Included (m : Nat) (small large : List String) : Prop where
  sublist : small.Sublist large
  exact : small.length < m → small = large

namespace Included

variable {m n : Nat} {small large : List String}

/-- Both use a key. -/
theorem used_by_both (h : Included m small large) (hmn : m ≤ n) (hsmall : small.length ≤ m)
    (hlarge : large.length ≤ n) (k : String) :
    Included m (afterUse m k small) (afterUse n k large) := by
  have hmoved : (small.erase k ++ [k]).Sublist (large.erase k ++ [k]) :=
    (h.sublist.erase k).append_right [k]
  by_cases hfull : small.length < m
  · -- nothing goes in either order, and both were the same
    obtain rfl := h.exact hfull
    have hlen : (small.erase k ++ [k]).length ≤ m := by
      rw [List.length_append, List.length_singleton]
      have := List.length_erase_le (a := k) (l := small)
      omega
    have heq : afterUse m k small = afterUse n k small := by
      rw [afterUse, afterUse, Nat.sub_eq_zero_of_le hlen, Nat.sub_eq_zero_of_le (hlen.trans hmn)]
    exact ⟨heq ▸ .refl _, fun _ => heq⟩
  · -- the larger order loses no more keys than the smaller one
    have hcut : (large.erase k ++ [k]).length - n ≤ (small.erase k ++ [k]).length - m := by
      by_cases hk : k ∈ large
      · rw [length_moved_of_mem hk]
        omega
      · have hk' : k ∉ small := fun hmem => hk (h.sublist.subset hmem)
        rw [length_moved_of_not_mem hk, length_moved_of_not_mem hk']
        omega
    refine ⟨(List.drop_sublist_drop_left _ hcut).trans (hmoved.drop _), fun hlt => ?_⟩
    have hle : small.length ≤ (small.erase k ++ [k]).length := by
      by_cases hk : k ∈ small
      · rw [length_moved_of_mem hk]
      · rw [length_moved_of_not_mem hk]
        omega
    rw [length_afterUse] at hlt
    omega

/-- Only the larger one has the key. -/
theorem used_by_larger (h : Included m small large) (hlarge : large.length ≤ n) {k : String}
    (hin : k ∈ large) (hout : k ∉ small) : Included m small (afterUse n k large) := by
  rw [afterUse_of_mem hin hlarge]
  refine ⟨?_, fun hlt => absurd (h.exact hlt ▸ hin) hout⟩
  calc small
    _ = small.erase k := (List.erase_of_not_mem hout).symm
    List.Sublist _ (large.erase k) := h.sublist.erase k
    List.Sublist _ (large.erase k ++ [k]) := List.sublist_append_left _ _

/-- Any operation. -/
theorem perform {c d : Cache α} {log log' : List String} (hc : c.Follows log)
    (hd : d.Follows log') (hcap : c.capacity ≤ d.capacity)
    (h : Included c.capacity c.order d.order) (op : Operation α) :
    Included c.capacity (c.perform op).2.order (d.perform op).2.order := by
  cases op with
  | clear => exact ⟨.refl _, fun _ => rfl⟩
  | insert k x =>
    simp only [Cache.perform, hc.order_insertIfAbsent, hd.order_insertIfAbsent]
    exact h.used_by_both hcap hc.length_order_le hd.length_order_le k
  | get k =>
    simp only [Cache.perform, hc.order_get, hd.order_get]
    by_cases hin : k ∈ d.order
    · by_cases hin' : k ∈ c.order
      · rw [if_pos hin', if_pos hin]
        exact h.used_by_both hcap hc.length_order_le hd.length_order_le k
      · rw [if_neg hin', if_pos hin]
        exact h.used_by_larger hd.length_order_le hin hin'
    · have hout : k ∉ c.order := fun hmem => hin (h.sublist.subset hmem)
      rw [if_neg hout, if_neg hin]
      exact h

end Included

/-! ## Runs -/

theorem included_replay {m n : Nat} (h : m ≤ n) (ops : List (Operation α)) :
    Included m (replay m ops).1.order (replay n ops).1.order := by
  induction ops using List.reverseRecOn with
  | nil => exact ⟨.refl _, fun _ => rfl⟩
  | append_singleton ops op ih =>
    have hsmall := recorded_replay m ops
    have hlarge := recorded_replay n ops
    have hstep := Included.perform hsmall.follows hlarge.follows
      (by rw [hsmall.capacity, hlarge.capacity]; exact h) (by rw [hsmall.capacity]; exact ih) op
    rw [hsmall.capacity] at hstep
    rw [replay_concat, replay_concat]
    exact hstep

theorem mem_order_replay {n : Nat} {k : String} {ops : List (Operation α)} :
    k ∈ (replay n ops).1.order ↔ Resident n k ops := by
  rw [(recorded_replay n ops).follows.keys, resident_iff_isSome]

/-- Two new caches of capacities `m ≤ n` after the same operations: what is in
the first is in the second, the second has it in the same order of use, and a
look-up that hits in the first hits in the second. -/
theorem larger_keeps_hits {m n : Nat} (h : m ≤ n) (ops : List (Operation α)) :
    (∀ k, Resident m k ops → Resident n k ops) ∧
      ((∀ c k, k ∈ (replay c ops).1.order ↔ Resident c k ops) ∧
        (replay m ops).1.order.Sublist (replay n ops).1.order) ∧
      ∀ k, ((replay m ops).1.get k).1.isSome → ((replay n ops).1.get k).1.isSome := by
  have hincl := included_replay h ops
  have hmem : ∀ k, Resident m k ops → Resident n k ops := fun k hk =>
    mem_order_replay.1 (hincl.sublist.subset (mem_order_replay.2 hk))
  refine ⟨hmem, ⟨fun c k => mem_order_replay, hincl.sublist⟩, fun k hk => ?_⟩
  rw [fst_get, ← resident_iff_isSome] at hk ⊢
  exact hmem k hk

/-- The look-up of `a` misses in the smaller cache, so it moves `a` in the larger one only. -/
theorem larger_keeps_hits_after_miss :
    let ops : List (Operation Nat) :=
      [.insert "a" 0, .insert "b" 1, .insert "c" 2, .get "a", .insert "d" 3]
    2 ≤ 3 ∧ (replay 2 ops).1.order = ["c", "d"] ∧ (replay 3 ops).1.order = ["c", "a", "d"] ∧
      (replay 2 ops).1.order.Sublist (replay 3 ops).1.order := by
  intro ops
  exact ⟨by decide, by decide, by decide, (larger_keeps_hits (by decide) ops).2.1.2⟩

end SqlCatalog.Cache
