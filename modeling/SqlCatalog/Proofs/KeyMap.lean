import Mathlib.Data.List.Induction
import SqlCatalog.KeyMap
/-!
# Laws of maps keyed by text

Look-ups after an erasure, and the keys of a map: each key is listed once, and a
key is listed exactly if its look-up answers (`mem_keys_iff`). Two lists without
repetition that hold the same keys have one length, so the size of a map can be
read off any such list (`size_eq_length`). A map made of a list has the last
pair of each key (`find?_ofList`), because sorting moves no pair past another one
with its key; so it is the map that the pairs make one by one (`ofList_eq_foldl`).
-/
namespace SqlCatalog

variable {α : Type}

namespace Entries

theorem find?_erase_self (k : String) (l : List (String × α)) : find? k (erase k l) = none := by
  induction l with
  | nil => rfl
  | cons e l ih =>
    obtain ⟨k', x⟩ := e
    by_cases hk : k' = k
    · simpa [erase, hk] using ih
    · simpa [erase, hk, find?, Ne.symm hk] using ih

theorem find?_erase_ne {k k' : String} (h : k' ≠ k) (l : List (String × α)) :
    find? k' (erase k l) = find? k' l := by
  induction l with
  | nil => rfl
  | cons e l ih =>
    obtain ⟨j, x⟩ := e
    by_cases hj : j = k
    · subst hj
      simpa [erase, find?, h] using ih
    · by_cases hk : k' = j
      · simp [erase, hj, find?, hk]
      · simpa [erase, hj, find?, hk] using ih

theorem isSome_find?_iff {k : String} {l : List (String × α)} :
    (find? k l).isSome ↔ k ∈ l.map Prod.fst := by
  induction l with
  | nil => simp [find?]
  | cons e l ih =>
    by_cases hk : k = e.1
    · simp [find?, hk]
    · simp [find?, hk, ih]

theorem mem_of_find? {k : String} {x : α} {l : List (String × α)} (h : find? k l = some x) :
    (k, x) ∈ l := by
  induction l with
  | nil => cases h
  | cons e l ih =>
    obtain ⟨j, y⟩ := e
    rw [find?] at h
    split at h
    · rename_i hk
      cases h
      rw [hk]
      exact List.mem_cons_self
    · exact List.mem_cons_of_mem _ (ih h)

theorem Sorted.find?_of_mem {k : String} {x : α} {l : List (String × α)} (h : Sorted l)
    (hmem : (k, x) ∈ l) : find? k l = some x := by
  induction l with
  | nil => cases hmem
  | cons e l ih =>
    obtain ⟨hlt, htl⟩ := List.pairwise_cons.1 h
    rcases List.mem_cons.1 hmem with rfl | hmem
    · rw [find?, if_pos rfl]
    · have hk : k ≠ e.1 := fun heq => String.lt_irrefl k (by
        have := hlt _ hmem; rwa [← heq] at this)
      rw [find?, if_neg hk, ih htl hmem]

theorem Sorted.nodup_keys {l : List (String × α)} (h : Sorted l) : (l.map Prod.fst).Nodup := by
  induction l with
  | nil => exact List.nodup_nil
  | cons e l ih =>
    obtain ⟨hlt, htl⟩ := List.pairwise_cons.1 h
    refine List.nodup_cons.2 ⟨fun he => ?_, ih htl⟩
    obtain ⟨e', he', heq⟩ := List.mem_map.1 he
    exact String.lt_irrefl e.1 (by have := hlt e' he'; rwa [heq] at this)

/-- Sorting moves no pair past another one with its key. -/
theorem filter_place (e : String × α) (l : List (String × α)) (k : String) :
    (place e l).filter (fun b => b.1 = k) = (e :: l).filter (fun b => b.1 = k) := by
  induction l with
  | nil => rfl
  | cons a l ih =>
    rw [place]
    split
    · rfl
    · rename_i hea
      have hne : a.1 ≠ e.1 := fun h => hea (h ▸ String.le_refl _)
      rw [List.filter_cons, ih]
      by_cases ha : a.1 = k
      · simp [ha, show e.1 ≠ k from fun h => hne (ha.trans h.symm)]
      · simp [List.filter_cons, ha]

theorem filter_sortByKey (pairs : List (String × α)) (k : String) :
    (sortByKey pairs).filter (fun e => e.1 = k) = pairs.filter (fun e => e.1 = k) := by
  induction pairs with
  | nil => rfl
  | cons e pairs ih =>
    rw [sortByKey, List.foldr_cons, filter_place, List.filter_cons, List.filter_cons, ← ih]
    rfl

/-- Behind greater keys there is no pair of a key. -/
theorem filter_eq_nil_of_lt {l : List (String × α)} {k : String} (h : ∀ e ∈ l, k < e.1) :
    l.filter (fun e => e.1 = k) = [] := by
  apply List.filter_eq_nil_iff.2
  intro e he heq
  have hlt := h e he
  rw [of_decide_eq_true heq] at hlt
  exact String.lt_irrefl k hlt

theorem find?_lastOfRuns {l : List (String × α)} (h : l.Pairwise (fun a b => a.1 ≤ b.1))
    (k : String) :
    find? k (lastOfRuns l) = (l.filter (fun e => e.1 = k)).getLast?.map Prod.snd := by
  fun_induction lastOfRuns l with
  | case1 a b rest hab ih =>
    rw [ih h.of_cons]
    by_cases hk : b.1 = k
    · simp [hab, hk]
    · simp [hab, hk]
  | case2 a b rest hne ih =>
    obtain ⟨hle, htl⟩ := List.pairwise_cons.1 h
    rw [find?, ih htl]
    by_cases hk : k = a.1
    · have hab : a.1 < b.1 := Std.lt_of_le_of_ne (hle b List.mem_cons_self) hne
      have hlt : ∀ e ∈ b :: rest, a.1 < e.1 := by
        intro e he
        rcases List.mem_cons.1 he with rfl | he
        · exact hab
        · exact Std.lt_of_lt_of_le hab ((List.pairwise_cons.1 htl).1 e he)
      rw [if_pos hk, hk, List.filter_cons, filter_eq_nil_of_lt hlt]
      simp
    · have hcons : (a :: b :: rest).filter (fun e => e.1 = k) =
          (b :: rest).filter (fun e => e.1 = k) :=
        List.filter_cons_of_neg (by simpa using Ne.symm hk)
      rw [if_neg hk, hcons]
  | case3 l hshort =>
    rcases l with _ | ⟨a, _ | ⟨b, rest⟩⟩
    · rfl
    · by_cases hk : k = a.1
      · simp [find?, hk]
      · simp [find?, hk, Ne.symm hk]
    · exact absurd rfl (hshort a b rest)

end Entries

namespace KeyMap

@[simp] theorem find?_empty (k : String) : (empty : KeyMap α).find? k = none := rfl

theorem find?_erase_self (m : KeyMap α) (k : String) : (m.erase k).find? k = none :=
  Entries.find?_erase_self k m.entries

theorem find?_erase_ne (m : KeyMap α) {k k' : String} (h : k' ≠ k) :
    (m.erase k).find? k' = m.find? k' := Entries.find?_erase_ne h m.entries

theorem find?_insert (m : KeyMap α) (k k' : String) (x : α) :
    (m.insert k x).find? k' = if k' = k then some x else m.find? k' := by
  by_cases h : k' = k
  · rw [if_pos h, h, find?_insert_self]
  · rw [if_neg h, find?_insert_ne m h]

theorem find?_erase (m : KeyMap α) (k k' : String) :
    (m.erase k).find? k' = if k' = k then none else m.find? k' := by
  by_cases h : k' = k
  · rw [if_pos h, h, find?_erase_self]
  · rw [if_neg h, find?_erase_ne m h]

theorem mem_keys_iff {m : KeyMap α} {k : String} : k ∈ m.keys ↔ (m.find? k).isSome :=
  Entries.isSome_find?_iff.symm

/-- The entries are the look-ups that answer. -/
theorem mem_entries_iff {m : KeyMap α} {k : String} {x : α} :
    (k, x) ∈ m.entries ↔ m.find? k = some x :=
  ⟨m.sorted.find?_of_mem, Entries.mem_of_find?⟩

theorem nodup_keys (m : KeyMap α) : m.keys.Nodup := m.sorted.nodup_keys

theorem length_keys (m : KeyMap α) : m.keys.length = m.size := List.length_map _

/-- Any list of the keys without repetition has the length of the map. -/
theorem size_eq_length {m : KeyMap α} {l : List String} (hl : l.Nodup)
    (h : ∀ k, k ∈ l ↔ (m.find? k).isSome) : m.size = l.length := by
  have hperm : m.keys.Perm l :=
    (List.perm_ext_iff_of_nodup m.nodup_keys hl).2 fun k => mem_keys_iff.trans (h k).symm
  rw [← m.length_keys, hperm.length_eq]

/-- A key has the value of its last pair. -/
theorem find?_ofList (l : List (String × α)) (k : String) :
    (ofList l).find? k = (l.filter (fun e => e.1 = k)).getLast?.map Prod.snd := by
  rw [find?, ofList, ← Entries.filter_sortByKey l k]
  exact Entries.find?_lastOfRuns (Entries.pairwise_sortByKey l) k

theorem ofList_concat (l : List (String × α)) (e : String × α) :
    ofList (l ++ [e]) = (ofList l).insert e.1 e.2 := by
  refine ext_find? fun k => ?_
  rw [find?_insert, find?_ofList, find?_ofList, List.filter_append]
  by_cases hk : e.1 = k
  · simp [hk]
  · simp [hk, Ne.symm hk]

/-- Pairs taken all at once make the map that they make one after the other. -/
theorem ofList_eq_foldl (l : List (String × α)) :
    ofList l = l.foldl (fun m e => m.insert e.1 e.2) empty := by
  induction l using List.reverseRecOn with
  | nil => rfl
  | append_singleton l e ih =>
    rw [ofList_concat, ih, List.foldl_append, List.foldl_cons, List.foldl_nil]

end KeyMap

end SqlCatalog
