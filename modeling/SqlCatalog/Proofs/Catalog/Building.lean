import Mathlib.Data.List.Dedup
import SqlCatalog.Catalog.Basic
import SqlCatalog.Proofs.KeyMap
import SqlCatalog.Proofs.Text.ByteOrder
/-!
# How a catalog is built

A catalog is collected from a list of pairs, and statements are added to it one by
one. Whatever the mixture, it is the catalog of the pairs in the order in which they
were added (`build_eq_ofList`): of each id the last template counts, and the ids are
listed by their UTF-8 bytes, each once (`build_is_sorted_map`).
-/
namespace SqlCatalog.Catalog

variable {added : List (String × String)} {id template : String}

/-! ## Last pairs -/

/-- The last of these pairs with this id has this template. -/
def LastAdded (added : List (String × String)) (id template : String) : Prop :=
  ∃ before after, added = before ++ (id, template) :: after ∧ ∀ e ∈ after, e.1 ≠ id

theorem not_lastAdded_nil : ¬LastAdded [] id template := by
  rintro ⟨before, after, h, -⟩
  simp at h

/-- One more pair counts for its own id and for no other one. -/
theorem lastAdded_concat {e : String × String} :
    LastAdded (added ++ [e]) id template ↔
      if id = e.1 then e.2 = template else LastAdded added id template := by
  constructor
  · rintro ⟨before, after, h, hafter⟩
    rcases List.eq_nil_or_concat after with rfl | ⟨after, last, rfl⟩
    · obtain ⟨-, hlast⟩ := List.append_inj' h rfl
      obtain rfl := List.singleton_inj.1 hlast
      simp
    · have hsplit : added ++ [e] = (before ++ (id, template) :: after) ++ [last] := by
        simpa using h
      obtain ⟨rfl, hlast⟩ := List.append_inj' hsplit rfl
      obtain rfl := List.singleton_inj.1 hlast
      rw [if_neg fun hid => hafter e (by simp) hid.symm]
      exact ⟨before, after, rfl, fun x hx => hafter x (by simp [hx])⟩
  · intro h
    split at h
    · rename_i hid
      exact ⟨added, [], by rw [hid, ← h], by simp⟩
    · rename_i hid
      obtain ⟨before, after, rfl, hafter⟩ := h
      refine ⟨before, after ++ [e], by simp, fun x hx => ?_⟩
      rcases List.mem_append.1 hx with hx | hx
      · exact hafter x hx
      · rw [List.mem_singleton.1 hx]
        exact Ne.symm hid

theorem find?_ofList_eq_some_iff :
    (KeyMap.ofList added).find? id = some template ↔ LastAdded added id template := by
  induction added using List.reverseRecOn with
  | nil => simp [not_lastAdded_nil, KeyMap.find?_ofList]
  | append_singleton added e ih =>
    rw [KeyMap.ofList_concat, KeyMap.find?_insert, lastAdded_concat, ← ih]
    by_cases h : id = e.1 <;> simp [h]

theorem find?_ofList_eq_none_iff :
    (KeyMap.ofList added).find? id = none ↔ ∀ e ∈ added, e.1 ≠ id := by
  simp [KeyMap.find?_ofList]

/-! ## Steps -/

/-- A step of building a catalog. -/
inductive Step
  /-- Added in place, for the template that it replaces. -/
  | put (id template : String)
  /-- Added in a chain of calls. -/
  | adding (id template : String)

/-- The pair that a step adds. -/
def Step.pair : Step → String × String
  | put id template | adding id template => (id, template)

def Step.apply (c : Catalog) : Step → Catalog
  | put id template => (c.put id template).2
  | adding id template => c.adding id template

/-- The catalog of a list of pairs after some steps. -/
def build (pairs : List (String × String)) (steps : List Step) : Catalog :=
  steps.foldl Step.apply (KeyMap.ofList pairs)

/-- All pairs, in the order in which they are added. -/
def allPairs (pairs : List (String × String)) (steps : List Step) : List (String × String) :=
  pairs ++ steps.map Step.pair

theorem apply_ofList (pairs : List (String × String)) (step : Step) :
    step.apply (KeyMap.ofList pairs) = KeyMap.ofList (pairs ++ [step.pair]) := by
  rw [KeyMap.ofList_concat]
  cases step <;> rfl

theorem build_eq_ofList (pairs : List (String × String)) (steps : List Step) :
    build pairs steps = KeyMap.ofList (allPairs pairs steps) := by
  rw [build, allPairs]
  induction steps generalizing pairs with
  | nil => simp
  | cons step steps ih =>
    rw [List.foldl_cons, apply_ofList, ih]
    simp

/-! ## The catalog that is built -/

variable (pairs : List (String × String)) (steps : List Step)

theorem find?_build_eq_some_iff :
    (build pairs steps).find? id = some template ↔
      LastAdded (allPairs pairs steps) id template := by
  rw [build_eq_ofList, find?_ofList_eq_some_iff]

theorem find?_build_eq_none_iff :
    (build pairs steps).find? id = none ↔ ∀ e ∈ allPairs pairs steps, e.1 ≠ id := by
  rw [build_eq_ofList, find?_ofList_eq_none_iff]

theorem size_build :
    (build pairs steps).size = ((allPairs pairs steps).map Prod.fst).dedup.length := by
  apply KeyMap.size_eq_length (List.nodup_dedup _)
  intro id
  rw [List.mem_dedup, Option.isSome_iff_ne_none, ne_eq, find?_build_eq_none_iff]
  simp

theorem build_eq_iff (pairs' : List (String × String)) (steps' : List Step) :
    build pairs steps = build pairs' steps' ↔
      ∀ id template, LastAdded (allPairs pairs steps) id template ↔
        LastAdded (allPairs pairs' steps') id template := by
  constructor
  · intro h id template
    rw [← find?_build_eq_some_iff, h, find?_build_eq_some_iff]
  · intro h
    apply KeyMap.ext_find?
    intro id
    ext template
    rw [find?_build_eq_some_iff, find?_build_eq_some_iff, h]

/-- Whatever pairs are collected and whatever is added after them, the catalog lists
each id once, by the UTF-8 bytes of the ids, with the template that was added last.
Its size is the number of ids, and a look-up finds what is listed. Adding a statement
answers the last template before it and changes no other one. Collecting pairs is to
add them one by one to the empty catalog, and two catalogs are equal exactly if each
id was given the same template last. -/
theorem build_is_sorted_map :
    ((build pairs steps).entries.Pairwise fun a b => Text.utf8 a.1 < Text.utf8 b.1) ∧
      (∀ id template, (id, template) ∈ (build pairs steps).entries ↔
        LastAdded (allPairs pairs steps) id template) ∧
      (build pairs steps).size = ((allPairs pairs steps).map Prod.fst).dedup.length ∧
      (∀ id,
        (∀ template, (build pairs steps).find? id = some template ↔
          LastAdded (allPairs pairs steps) id template) ∧
        ((build pairs steps).find? id = none ↔ ∀ e ∈ allPairs pairs steps, e.1 ≠ id)) ∧
      (∀ id template,
        (∀ old, ((build pairs steps).put id template).1 = some old ↔
          LastAdded (allPairs pairs steps) id old) ∧
        (((build pairs steps).put id template).1 = none ↔
          ∀ e ∈ allPairs pairs steps, e.1 ≠ id) ∧
        ∀ other, ((build pairs steps).put id template).2.find? other =
          if other = id then some template else (build pairs steps).find? other) ∧
      KeyMap.ofList pairs =
        pairs.foldl (fun (c : Catalog) e => (c.put e.1 e.2).2) KeyMap.empty ∧
      ∀ pairs' steps', build pairs steps = build pairs' steps' ↔
        ∀ id template, LastAdded (allPairs pairs steps) id template ↔
          LastAdded (allPairs pairs' steps') id template := by
  refine ⟨?_, ?_, size_build pairs steps, ?_, ?_, ?_, build_eq_iff pairs steps⟩
  · exact (build pairs steps).sorted.imp Text.lt_iff_utf8_lt.1
  · intro id template
    rw [KeyMap.mem_entries_iff]
    exact find?_build_eq_some_iff pairs steps
  · intro id
    constructor
    · intro template
      exact find?_build_eq_some_iff pairs steps
    · exact find?_build_eq_none_iff pairs steps
  · intro id template
    refine ⟨fun old => find?_build_eq_some_iff pairs steps, find?_build_eq_none_iff pairs steps, ?_⟩
    intro other
    exact KeyMap.find?_insert (build pairs steps) id other template
  · exact KeyMap.ofList_eq_foldl pairs

/-- `é` has greater bytes than `z`, and `b` is added three times. -/
example :
    let c := build [("b", "1"), ("é", "2"), ("b", "3")] [.put "z" "4", .adding "b" "5"]
    c.entries = [("b", "5"), ("z", "4"), ("é", "2")] ∧ (c.put "z" "6").1 = some "4" := by
  decide +kernel

end SqlCatalog.Catalog
