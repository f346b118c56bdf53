/-!
# Maps keyed by text

A finite map from text to `α`, kept as its list of entries in strictly
increasing key order. Text is compared by code point, which is also the order
of its UTF-8 bytes, so two maps with the same look-ups are the same list
(`KeyMap.ext_find?`).

The list operations live in `Entries` and need no invariant: a look-up after an
insertion is settled by the keys alone (`find?_insert_self`,
`find?_insert_ne`). `KeyMap` adds the order as a field. A whole list of pairs is
sorted at once, and of the pairs with one key the last one stays (`collect`).
-/
namespace SqlCatalog

variable {α : Type}

/-! ## Lists of entries -/

namespace Entries

/-- The value at `k`. -/
def find? (k : String) : List (String × α) → Option α
  | [] => none
  | (k', x) :: rest => if k = k' then some x else find? k rest

/-- Put `x` at `k`: in key order, in place of an entry with the same key. -/
def insert (k : String) (x : α) : List (String × α) → List (String × α)
  | [] => [(k, x)]
  | (k', x') :: rest =>
    if k < k' then (k, x) :: (k', x') :: rest
    else if k = k' then (k, x) :: rest
    else (k', x') :: insert k x rest

/-- Drop the entry at `k`, if there is one. -/
def erase (k : String) (l : List (String × α)) : List (String × α) :=
  l.filter (fun e => e.1 ≠ k)

/-- Put a pair in front of the first one whose key is not smaller. -/
def place (e : String × α) : List (String × α) → List (String × α)
  | [] => [e]
  | b :: rest => if e.1 ≤ b.1 then e :: b :: rest else b :: place e rest

/-- Pairs by key; those with one key stay in their order. -/
def sortByKey (pairs : List (String × α)) : List (String × α) := pairs.foldr place []

/-- The last pair of each run of pairs with one key. -/
def lastOfRuns : List (String × α) → List (String × α)
  | a :: b :: rest => if a.1 = b.1 then lastOfRuns (b :: rest) else a :: lastOfRuns (b :: rest)
  | short => short

/-- The entries that pairs make, of which the last one of each key counts. -/
def collect (pairs : List (String × α)) : List (String × α) := lastOfRuns (sortByKey pairs)

/-- Strictly increasing by key, so that no key occurs twice. -/
def Sorted (l : List (String × α)) : Prop := l.Pairwise (fun a b => a.1 < b.1)

theorem sorted_nil : Sorted ([] : List (String × α)) := List.Pairwise.nil

theorem mem_insert {k : String} {x : α} {e : String × α} {l : List (String × α)}
    (h : e ∈ insert k x l) : e = (k, x) ∨ e ∈ l := by
  induction l with
  | nil => simpa [insert] using h
  | cons hd tl ih =>
    obtain ⟨k', x'⟩ := hd
    simp only [insert] at h
    split at h
    · simpa using h
    · split at h
      · rcases List.mem_cons.1 h with h | h
        · exact .inl h
        · exact .inr (List.mem_cons_of_mem _ h)
      · rcases List.mem_cons.1 h with h | h
        · exact .inr (h ▸ List.mem_cons_self)
        · exact (ih h).imp id (List.mem_cons_of_mem _)

theorem find?_insert_self (k : String) (x : α) (l : List (String × α)) :
    find? k (insert k x l) = some x := by
  induction l with
  | nil => simp [insert, find?]
  | cons hd tl ih =>
    simp only [insert]
    split
    · simp [find?]
    · split
      · simp [find?]
      · simp [find?, *]

theorem find?_insert_ne {k k' : String} (h : k' ≠ k) (x : α) (l : List (String × α)) :
    find? k' (insert k x l) = find? k' l := by
  induction l with
  | nil => simp [insert, find?, h]
  | cons hd tl ih =>
    simp only [insert]
    split
    · simp [find?, h]
    · split
      · rename_i hk; subst hk; simp [find?, h]
      · simp [find?, ih]

theorem Sorted.insert {l : List (String × α)} (h : Sorted l) (k : String) (x : α) :
    Sorted (insert k x l) := by
  induction l with
  | nil => simp [Sorted, Entries.insert]
  | cons hd tl ih =>
    obtain ⟨hlt, htl⟩ := List.pairwise_cons.1 h
    simp only [Entries.insert]
    split
    · rename_i hk
      refine List.pairwise_cons.2 ⟨fun e he => ?_, h⟩
      rcases List.mem_cons.1 he with rfl | he
      · exact hk
      · exact String.lt_trans hk (hlt e he)
    · split
      · rename_i hk; subst hk
        exact List.pairwise_cons.2 ⟨hlt, htl⟩
      · rename_i hlt' hne
        refine List.pairwise_cons.2 ⟨fun e he => ?_, ih htl⟩
        rcases mem_insert he with rfl | he
        · exact Std.lt_of_le_of_ne (String.not_lt.1 hlt') (Ne.symm hne)
        · exact hlt e he

theorem Sorted.erase {l : List (String × α)} (h : Sorted l) (k : String) :
    Sorted (erase k l) :=
  List.Pairwise.sublist List.filter_sublist h

theorem mem_place {b e : String × α} {l : List (String × α)} (h : b ∈ place e l) :
    b = e ∨ b ∈ l := by
  induction l with
  | nil => simpa [place] using h
  | cons a l ih =>
    rw [place] at h
    split at h
    · simpa using h
    · rcases List.mem_cons.1 h with rfl | h
      · exact .inr List.mem_cons_self
      · exact (ih h).imp id (List.mem_cons_of_mem _)

theorem pairwise_place {l : List (String × α)} (h : l.Pairwise (fun a b => a.1 ≤ b.1))
    (e : String × α) : (place e l).Pairwise (fun a b => a.1 ≤ b.1) := by
  induction l with
  | nil => exact List.pairwise_singleton _ e
  | cons a l ih =>
    obtain ⟨hle, htl⟩ := List.pairwise_cons.1 h
    rw [place]
    split
    · rename_i hea
      refine List.pairwise_cons.2 ⟨fun b hb => ?_, h⟩
      rcases List.mem_cons.1 hb with rfl | hb
      · exact hea
      · exact String.le_trans hea (hle b hb)
    · rename_i hea
      refine List.pairwise_cons.2 ⟨fun b hb => ?_, ih htl⟩
      rcases mem_place hb with rfl | hb
      · exact (String.le_total a.1 b.1).resolve_right hea
      · exact hle b hb

theorem pairwise_sortByKey (pairs : List (String × α)) :
    (sortByKey pairs).Pairwise (fun a b => a.1 ≤ b.1) := by
  induction pairs with
  | nil => exact List.Pairwise.nil
  | cons e pairs ih => exact pairwise_place ih e

theorem mem_lastOfRuns {e : String × α} {l : List (String × α)} (h : e ∈ lastOfRuns l) :
    e ∈ l := by
  fun_induction lastOfRuns l with
  | case1 a b rest _ ih => exact List.mem_cons_of_mem a (ih h)
  | case2 a b rest _ ih =>
    rcases List.mem_cons.1 h with rfl | h
    · exact List.mem_cons_self
    · exact List.mem_cons_of_mem a (ih h)
  | case3 => exact h

theorem sorted_lastOfRuns {l : List (String × α)} (h : l.Pairwise (fun a b => a.1 ≤ b.1)) :
    Sorted (lastOfRuns l) := by
  fun_induction lastOfRuns l with
  | case1 a b rest _ ih => exact ih h.of_cons
  | case2 a b rest hne ih =>
    obtain ⟨hle, htl⟩ := List.pairwise_cons.1 h
    refine List.pairwise_cons.2 ⟨fun e he => ?_, ih htl⟩
    have hab : a.1 < b.1 := Std.lt_of_le_of_ne (hle b List.mem_cons_self) hne
    rcases List.mem_cons.1 (mem_lastOfRuns he) with rfl | he
    · exact hab
    · exact Std.lt_of_lt_of_le hab ((List.pairwise_cons.1 htl).1 e he)
  | case3 l hshort =>
    rcases l with _ | ⟨a, _ | ⟨b, rest⟩⟩
    · exact sorted_nil
    · exact List.pairwise_singleton _ a
    · exact absurd rfl (hshort a b rest)

theorem sorted_collect (pairs : List (String × α)) : Sorted (collect pairs) :=
  sorted_lastOfRuns (pairwise_sortByKey pairs)

theorem find?_eq_none_of_lt {k : String} {l : List (String × α)} (h : ∀ e ∈ l, k < e.1) :
    find? k l = none := by
  induction l with
  | nil => rfl
  | cons hd tl ih =>
    have hk : k ≠ hd.1 := fun e => String.lt_irrefl k (by
      have := h hd List.mem_cons_self; rwa [← e] at this)
    simp only [find?, hk, if_false]
    exact ih fun e he => h e (List.mem_cons_of_mem _ he)

/-- Two ordered lists that answer every look-up alike are equal. -/
theorem Sorted.ext_find? {l₁ l₂ : List (String × α)} (h₁ : Sorted l₁) (h₂ : Sorted l₂)
    (h : ∀ k, find? k l₁ = find? k l₂) : l₁ = l₂ := by
  induction l₁ generalizing l₂ with
  | nil =>
    cases l₂ with
    | nil => rfl
    | cons b bs => have := h b.1; simp [find?] at this
  | cons a as ih =>
    obtain ⟨ha, has⟩ := List.pairwise_cons.1 h₁
    cases l₂ with
    | nil => have := h a.1; simp [find?] at this
    | cons b bs =>
      obtain ⟨hb, hbs⟩ := List.pairwise_cons.1 h₂
      have hab : a.1 = b.1 := by
        rcases Std.lt_trichotomy a.1 b.1 with hlt | heq | hgt
        · have h1 := h a.1
          rw [find?_eq_none_of_lt (l := b :: bs)] at h1
          · simp [find?] at h1
          · intro e he
            rcases List.mem_cons.1 he with rfl | he
            · exact hlt
            · exact String.lt_trans hlt (hb e he)
        · exact heq
        · have h1 := h b.1
          rw [find?_eq_none_of_lt (l := a :: as)] at h1
          · simp [find?] at h1
          · intro e he
            rcases List.mem_cons.1 he with rfl | he
            · exact hgt
            · exact String.lt_trans hgt (ha e he)
      have hv : a.2 = b.2 := by have := h a.1; simpa [find?, hab] using this
      have htl : as = bs := by
        refine ih has hbs fun k => ?_
        by_cases hk : k = a.1
        · subst hk
          rw [find?_eq_none_of_lt ha, find?_eq_none_of_lt (hab ▸ hb)]
        · have := h k
          simpa [find?, hk, hab ▸ hk] using this
      rw [htl, Prod.ext hab hv]

end Entries

/-! ## The map -/

/-- A finite map from text to `α`, listed in key order. -/
structure KeyMap (α : Type) where
  /-- The entries, by increasing key. -/
  entries : List (String × α)
  sorted : Entries.Sorted entries

namespace KeyMap

def empty : KeyMap α := ⟨[], Entries.sorted_nil⟩

instance : Inhabited (KeyMap α) := ⟨empty⟩

def find? (m : KeyMap α) (k : String) : Option α := Entries.find? k m.entries

def contains (m : KeyMap α) (k : String) : Bool := (m.find? k).isSome

/-- Add or replace the entry at `k`. -/
def insert (m : KeyMap α) (k : String) (x : α) : KeyMap α :=
  ⟨Entries.insert k x m.entries, m.sorted.insert k x⟩

def erase (m : KeyMap α) (k : String) : KeyMap α :=
  ⟨Entries.erase k m.entries, m.sorted.erase k⟩

def size (m : KeyMap α) : Nat := m.entries.length

def isEmpty (m : KeyMap α) : Bool := m.entries.isEmpty

def keys (m : KeyMap α) : List String := m.entries.map Prod.fst

/-- Later pairs replace earlier ones with the same key. -/
def ofList (pairs : List (String × α)) : KeyMap α :=
  ⟨Entries.collect pairs, Entries.sorted_collect pairs⟩

theorem find?_insert_self (m : KeyMap α) (k : String) (x : α) :
    (m.insert k x).find? k = some x := Entries.find?_insert_self k x m.entries

theorem find?_insert_ne (m : KeyMap α) {k k' : String} (h : k' ≠ k) (x : α) :
    (m.insert k x).find? k' = m.find? k' := Entries.find?_insert_ne h x m.entries

/-- A map is its look-ups. -/
theorem ext_find? {m₁ m₂ : KeyMap α} (h : ∀ k, m₁.find? k = m₂.find? k) : m₁ = m₂ := by
  obtain ⟨l₁, h₁⟩ := m₁
  obtain ⟨l₂, h₂⟩ := m₂
  have := h₁.ext_find? h₂ h
  subst this; rfl

end KeyMap

end SqlCatalog
