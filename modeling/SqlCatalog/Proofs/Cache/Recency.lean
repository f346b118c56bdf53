import Mathlib.Data.Finset.Card
import Mathlib.Data.List.Nodup
import SqlCatalog.Cache
import SqlCatalog.Proofs.KeyMap
/-!
# Caches by recency

`recent` lists the keys of a log of uses by last use, the latest first. The
contents of a cache are told by the log alone: `Follows` says that its keys are
the first `capacity` of that list. Every operation keeps it (`Follows.get`,
`Follows.insertIfAbsent`, `Follows.clear`), whichever keys were evicted before.

A key stands behind the keys used since its last use and no others, so it is in
the cache exactly if fewer than `capacity` other keys were used since then
(`Follows.resident_iff`).
-/
namespace SqlCatalog.Cache

/-! ## Keys by last use -/

/-- The keys of a log, which has the latest use first, without repetition. -/
def recent : List String → List String
  | [] => []
  | k :: log => k :: (recent log).erase k

theorem nodup_recent (log : List String) : (recent log).Nodup := by
  induction log with
  | nil => exact List.nodup_nil
  | cons k log ih => exact List.nodup_cons.2 ⟨ih.not_mem_erase, ih.erase k⟩

theorem mem_recent {log : List String} {k : String} : k ∈ recent log ↔ k ∈ log := by
  induction log with
  | nil => exact Iff.rfl
  | cons j log ih =>
    by_cases hk : k = j
    · simp [recent, hk]
    · simp [recent, hk, List.mem_erase_of_ne hk, ih]

/-- Erasing another key and taking what stands before `k` commute. -/
theorem takeWhile_erase {j k : String} (h : j ≠ k) (l : List String) :
    (l.erase j).takeWhile (· ≠ k) = (l.takeWhile (· ≠ k)).erase j := by
  induction l with
  | nil => rfl
  | cons x l ih =>
    by_cases hx : x = j
    · subst hx
      simp [h]
    · by_cases hk : x = k
      · subst hk
        simp [List.erase_cons_tail, hx]
      · simpa [List.erase_cons_tail, hx, hk] using ih

/-- The keys before `k` are those used since the last use of `k`. -/
theorem toFinset_takeWhile_recent (k : String) (log : List String) :
    ((recent log).takeWhile (· ≠ k)).toFinset = (log.takeWhile (· ≠ k)).toFinset := by
  induction log with
  | nil => rfl
  | cons j log ih =>
    by_cases hj : j = k
    · simp [recent, hj]
    · have hnodup : ((recent log).takeWhile (· ≠ k)).Nodup :=
        (List.takeWhile_sublist _).nodup (nodup_recent log)
      simp only [recent, List.takeWhile_cons, ne_eq, hj, not_false_eq_true, decide_true, if_true,
        List.toFinset_cons]
      rw [takeWhile_erase hj, ← ih]
      ext x
      by_cases hx : x = j
      · simp [hx]
      · simp [hx, List.mem_erase_of_ne hx]

theorem mem_take_iff {k : String} {n : Nat} {l : List String} :
    k ∈ l.take n ↔ k ∈ l ∧ (l.takeWhile (· ≠ k)).length < n := by
  induction l generalizing n with
  | nil => simp
  | cons x l ih =>
    cases n with
    | zero => simp
    | succ n =>
      by_cases hx : x = k
      · simp [hx]
      · simp [hx, Ne.symm hx, ih]

/-- The place of a key, counted from the latest: how many others were used since. -/
theorem mem_take_recent_iff {k : String} {n : Nat} {log : List String} :
    k ∈ (recent log).take n ↔ k ∈ log ∧ (log.takeWhile (· ≠ k)).toFinset.card < n := by
  have hnodup : ((recent log).takeWhile (· ≠ k)).Nodup :=
    (List.takeWhile_sublist _).nodup (nodup_recent log)
  rw [mem_take_iff, mem_recent, ← toFinset_takeWhile_recent, List.toFinset_card_of_nodup hnodup]

/-! ## Cutting the list off -/

/-- To erase a key behind the cut leaves what is before the cut. -/
theorem take_erase_of_not_mem {k : String} {n : Nat} {l : List String} (h : k ∉ l.take n) :
    (l.erase k).take n = l.take n := by
  induction l generalizing n with
  | nil => rfl
  | cons x l ih =>
    cases n with
    | zero => rfl
    | succ n =>
      simp only [List.take_succ_cons, List.mem_cons, not_or] at h
      rw [List.erase_cons_tail (by simpa using Ne.symm h.1), List.take_succ_cons, ih h.2,
        List.take_succ_cons]

theorem erase_take_of_mem {k : String} {n : Nat} {l : List String} (h : k ∈ l.take (n + 1)) :
    (l.take (n + 1)).erase k = (l.erase k).take n := by
  induction l generalizing n with
  | nil => simp at h
  | cons x l ih =>
    by_cases hx : x = k
    · simp [hx]
    · cases n with
      | zero => simp [Ne.symm hx] at h
      | succ n =>
        have hl : k ∈ l.take (n + 1) := by simpa [Ne.symm hx] using h
        rw [List.take_succ_cons, List.erase_cons_tail (by simpa using hx), ih hl,
          List.erase_cons_tail (by simpa using hx), List.take_succ_cons]

theorem reverse_erase {l : List String} (h : l.Nodup) (k : String) :
    l.reverse.erase k = (l.erase k).reverse := by
  rw [(List.nodup_reverse.2 h).erase_eq_filter, h.erase_eq_filter, List.filter_reverse]

/-- A key before the cut moves to the front. -/
theorem touch_take_recent {k : String} {n : Nat} {log : List String}
    (h : k ∈ (recent log).take n) :
    touch k ((recent log).take n).reverse = ((recent (k :: log)).take n).reverse := by
  cases n with
  | zero => simp at h
  | succ n =>
    have hnodup : ((recent log).take (n + 1)).Nodup :=
      (List.take_sublist _ _).nodup (nodup_recent log)
    rw [touch, if_pos (List.mem_reverse.2 h), reverse_erase hnodup,
      erase_take_of_mem h, recent, List.take_succ_cons,
      List.reverse_cons]

/-- A key behind the cut moves to the front, and what falls behind the cut goes. -/
theorem append_take_recent {k : String} {n : Nat} {log : List String}
    (h : k ∉ (recent log).take n) :
    (k :: (recent log).take n).take n = (recent (k :: log)).take n := by
  cases n with
  | zero => rfl
  | succ n =>
    have hn : k ∉ (recent log).take n := fun hk =>
      h ((List.take_sublist_take_left (Nat.le_succ n)).subset hk)
    rw [recent, List.take_succ_cons, List.take_succ_cons, List.take_take,
      Nat.min_eq_left (Nat.le_succ n), take_erase_of_not_mem hn]

/-- The last `n` of a list that is read backwards. -/
theorem drop_reverse_sub (n : Nat) (l : List String) :
    l.reverse.drop (l.reverse.length - n) = (l.take n).reverse := by
  rw [List.drop_reverse, List.length_reverse]
  congr 1
  exact List.take_eq_take_iff.2 (by omega)

/-! ## Eviction -/

variable {α : Type}

/-- Eviction brings nothing in. -/
theorem find?_of_evict {n : Nat} {table : KeyMap α} {order : List String} {k : String} {x : α}
    (h : (evict n table order).1.find? k = some x) : table.find? k = some x := by
  induction order generalizing table with
  | nil => exact h
  | cons oldest order ih =>
    rw [evict] at h
    split at h
    · have := ih h
      rw [KeyMap.find?_erase] at this
      split at this
      · cases this
      · exact this
    · exact h

theorem find?_of_evictIfNeeded {n : Nat} {table : KeyMap α} {order : List String} {k : String}
    {x : α} (h : (evictIfNeeded n table order).1.find? k = some x) : table.find? k = some x := by
  unfold evictIfNeeded at h
  split at h
  · cases h
  · exact find?_of_evict h

/-! ## Answers and entries -/

theorem fst_get (c : Cache α) (k : String) : (c.get k).1 = c.table.find? k := by
  unfold get
  cases h : c.table.find? k <;> rfl

theorem table_get (c : Cache α) (k : String) : (c.get k).2.table = c.table := by
  unfold get
  cases h : c.table.find? k <;> rfl

/-- A look-up that finds nothing leaves no trace. -/
theorem get_of_none {c : Cache α} {k : String} (h : c.table.find? k = none) :
    c.get k = (none, c) := by
  unfold get
  rw [h]

theorem fst_insertIfAbsent (c : Cache α) (k : String) (x : α) :
    (c.insertIfAbsent k x).1 = (c.table.find? k).getD x := by
  unfold insertIfAbsent
  cases h : c.table.find? k <;> rfl

/-- An entry after an insertion was there before, or it is the one put in at a
key that had none. -/
theorem find?_of_insertIfAbsent {c : Cache α} {k j : String} {x y : α}
    (h : (c.insertIfAbsent k x).2.table.find? j = some y) :
    c.table.find? j = some y ∨ (j = k ∧ y = x ∧ c.table.find? k = none) := by
  unfold insertIfAbsent at h
  cases hk : c.table.find? k with
  | some old => exact .inl (by simpa [hk] using h)
  | none =>
    rw [hk] at h
    have hins : (c.table.insert k x).find? j = some y := find?_of_evictIfNeeded h
    rw [KeyMap.find?_insert] at hins
    by_cases hj : j = k
    · rw [if_pos hj] at hins
      exact .inr ⟨hj, (Option.some.inj hins).symm, rfl⟩
    · rw [if_neg hj] at hins
      exact .inl hins

@[simp] theorem capacity_get (c : Cache α) (k : String) : (c.get k).2.capacity = c.capacity := by
  unfold get
  cases h : c.table.find? k <;> rfl

@[simp] theorem capacity_insertIfAbsent (c : Cache α) (k : String) (x : α) :
    (c.insertIfAbsent k x).2.capacity = c.capacity := by
  unfold insertIfAbsent
  cases h : c.table.find? k <;> rfl

/-! ## The invariant -/

/-- Eviction leaves the `n` keys used last, with what they had. -/
theorem evict_spec (n : Nat) (table : KeyMap α) (order : List String) (hnodup : order.Nodup)
    (hkeys : ∀ k, k ∈ order ↔ (table.find? k).isSome) :
    (evict n table order).2 = order.drop (order.length - n) ∧
      ∀ k, (evict n table order).1.find? k =
        if k ∈ order.drop (order.length - n) then table.find? k else none := by
  -- the table and its queue shrink together, so the keys of the rest are those of the smaller table
  induction order generalizing table with
  | nil =>
    refine ⟨by simp [evict], fun k => ?_⟩
    have : table.find? k = none := by simpa using hkeys k
    simp [evict, this]
  | cons oldest order ih =>
    obtain ⟨hfresh, hnodup'⟩ := List.nodup_cons.1 hnodup
    have hsize : table.size = order.length + 1 := KeyMap.size_eq_length hnodup hkeys
    by_cases hlt : n < table.size
    · have hkeys' : ∀ k, k ∈ order ↔ ((table.erase oldest).find? k).isSome := by
        intro k
        by_cases hk : k = oldest
        · simp [hk, hfresh, KeyMap.find?_erase_self]
        · rw [KeyMap.find?_erase_ne _ hk, ← hkeys k, List.mem_cons, or_iff_right hk]
      obtain ⟨hsnd, hfst⟩ := ih (table.erase oldest) hnodup' hkeys'
      have hdrop : (oldest :: order).drop ((oldest :: order).length - n) =
          order.drop (order.length - n) := by
        rw [List.length_cons, show order.length + 1 - n = order.length - n + 1 by omega,
          List.drop_succ_cons]
      rw [evict, if_pos hlt, hdrop]
      refine ⟨hsnd, fun k => ?_⟩
      rw [hfst k]
      by_cases hk : k ∈ order.drop (order.length - n)
      · have hne : k ≠ oldest := fun e => hfresh (e ▸ List.mem_of_mem_drop hk)
        rw [if_pos hk, if_pos hk, KeyMap.find?_erase_ne _ hne]
      · rw [if_neg hk, if_neg hk]
    · have hdrop : (oldest :: order).drop ((oldest :: order).length - n) = oldest :: order := by
        rw [show (oldest :: order).length - n = 0 by simp only [List.length_cons]; omega,
          List.drop_zero]
      rw [evict, if_neg hlt, hdrop]
      refine ⟨rfl, fun k => ?_⟩
      by_cases hk : k ∈ oldest :: order
      · rw [if_pos hk]
      · rw [if_neg hk]
        simpa using fun h => hk ((hkeys k).2 h)

/-- A cache without capacity is emptied at once, to the same effect. -/
theorem evictIfNeeded_spec (n : Nat) (table : KeyMap α) (order : List String)
    (hnodup : order.Nodup) (hkeys : ∀ k, k ∈ order ↔ (table.find? k).isSome) :
    (evictIfNeeded n table order).2 = order.drop (order.length - n) ∧
      ∀ k, (evictIfNeeded n table order).1.find? k =
        if k ∈ order.drop (order.length - n) then table.find? k else none := by
  by_cases hn : n = 0
  · subst hn
    simp [evictIfNeeded]
  · rw [evictIfNeeded, if_neg hn]
    exact evict_spec n table order hnodup hkeys

/-- The cache holds the `capacity` keys of the log that were used last, in
order of use. -/
structure Follows (c : Cache α) (log : List String) : Prop where
  order_eq : c.order = ((recent log).take c.capacity).reverse
  keys : ∀ k, k ∈ c.order ↔ (c.table.find? k).isSome

namespace Follows

variable {c : Cache α} {log : List String}

theorem new (n : Nat) : Follows (new n : Cache α) [] :=
  ⟨by simp [Cache.new, recent], fun k => by simp [Cache.new]⟩

theorem mem_order (h : c.Follows log) {k : String} :
    k ∈ c.order ↔ k ∈ (recent log).take c.capacity := by
  rw [h.order_eq, List.mem_reverse]

theorem nodup_order (h : c.Follows log) : c.order.Nodup := by
  rw [h.order_eq]
  exact List.nodup_reverse.2 ((List.take_sublist _ _).nodup (nodup_recent log))

theorem length_order_le (h : c.Follows log) : c.order.length ≤ c.capacity := by
  rw [h.order_eq, List.length_reverse]
  exact List.length_take_le _ _

theorem size_le (h : c.Follows log) : c.table.size ≤ c.capacity :=
  (KeyMap.size_eq_length h.nodup_order h.keys).trans_le h.length_order_le

/-- A key is in the cache exactly if it is in the log and fewer than `capacity`
other keys were used since its last use. -/
theorem resident_iff (h : c.Follows log) {k : String} :
    (c.table.find? k).isSome ↔
      k ∈ log ∧ (log.takeWhile (· ≠ k)).toFinset.card < c.capacity := by
  rw [← h.keys, h.mem_order, mem_take_recent_iff]

/-- A look-up that misses is no use. -/
theorem get (h : c.Follows log) (k : String) :
    (c.get k).2.Follows (if (c.table.find? k).isSome then k :: log else log) := by
  unfold Cache.get
  cases hk : c.table.find? k with
  | none => exact h
  | some x =>
    have hmem : k ∈ c.order := (h.keys k).2 (by rw [hk]; rfl)
    refine ⟨?_, fun j => ?_⟩
    · rw [Option.isSome_some, if_pos rfl]
      exact (congrArg (touch k) h.order_eq).trans (touch_take_recent (h.mem_order.1 hmem))
    · rw [← h.keys j]
      by_cases hj : j = k
      · simp [touch, hj, hmem]
      · simp [touch, hmem, hj, List.mem_erase_of_ne hj]

/-- Whether or not the key was there, putting it in uses it. -/
theorem insertIfAbsent (h : c.Follows log) (k : String) (x : α) :
    (c.insertIfAbsent k x).2.Follows (k :: log) := by
  have hget := h.get k
  unfold Cache.get at hget
  unfold Cache.insertIfAbsent
  cases hk : c.table.find? k with
  | some old => simpa [hk] using hget
  | none =>
    have hfresh : k ∉ c.order := fun hmem => by simpa [hk] using (h.keys k).1 hmem
    have hnodup : (c.order ++ [k]).Nodup := by
      refine List.nodup_append.2 ⟨h.nodup_order, List.nodup_singleton k, ?_⟩
      rintro j hj _ hk' rfl
      exact hfresh (List.mem_singleton.1 hk' ▸ hj)
    have hkeys : ∀ j, j ∈ c.order ++ [k] ↔ ((c.table.insert k x).find? j).isSome := by
      intro j
      by_cases hj : j = k
      · simp [hj, KeyMap.find?_insert_self]
      · simp [hj, KeyMap.find?_insert_ne _ hj, h.keys j]
    obtain ⟨hsnd, hfst⟩ :=
      evictIfNeeded_spec c.capacity (c.table.insert k x) (c.order ++ [k]) hnodup hkeys
    have horder : c.order ++ [k] = (k :: (recent log).take c.capacity).reverse := by
      rw [List.reverse_cons, h.order_eq]
    refine ⟨?_, fun j => ?_⟩
    · calc (evictIfNeeded c.capacity (c.table.insert k x) (c.order ++ [k])).2
        _ = (c.order ++ [k]).drop ((c.order ++ [k]).length - c.capacity) := hsnd
        _ = ((k :: (recent log).take c.capacity).take c.capacity).reverse := by
          rw [horder, drop_reverse_sub]
        _ = ((recent (k :: log)).take c.capacity).reverse := by
          rw [append_take_recent fun hmem => hfresh (h.mem_order.2 hmem)]
    · show j ∈ (evictIfNeeded _ _ _).2 ↔ ((evictIfNeeded _ _ _).1.find? j).isSome
      rw [hsnd, hfst j]
      by_cases hj : j ∈ (c.order ++ [k]).drop ((c.order ++ [k]).length - c.capacity)
      · rw [if_pos hj]
        exact iff_of_true hj ((hkeys j).1 (List.mem_of_mem_drop hj))
      · rw [if_neg hj]
        exact iff_of_false hj (by simp)

theorem clear (c : Cache α) : c.clear.Follows [] := .new _

end Follows

end SqlCatalog.Cache
