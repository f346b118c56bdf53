import SqlCatalog.Client.Basic
import SqlCatalog.Command.Run
import SqlCatalog.Proofs.KeyMap
import SqlCatalog.Proofs.Template.Reading
import SqlCatalog.Proofs.Text.ByteOrder
/-!
# Checking a catalog

There are several ways to check all statements of a catalog: to validate it for
a dialect, to check it under every dialect, to print every statement, and to
have a client check it. They all come to the validation for one dialect,
whichever that is (`validate_eq_of_dialects`, `check_eq`, `render_all_eq`,
`validate_client_eq`), and validation finds the malformed statement whose id is
least by its UTF-8 bytes, or none (`validate_eq_ok_iff`, `validate_eq_error_iff`).
-/
namespace SqlCatalog

namespace Catalog

variable {c : Catalog} {d : Dialect} {id : String} {e : Failure}

/-! ## The first malformed entry -/

theorem firstMalformed_eq_none_iff {l : List (String × String)} :
    firstMalformed d l = none ↔ ∀ x ∈ l, ∃ q, Template.compile x.2 d = .ok q := by
  induction l with
  | nil => simp [firstMalformed]
  | cons x l ih =>
    obtain ⟨id, t⟩ := x
    rw [firstMalformed, List.forall_mem_cons]
    cases ht : Template.compile t d with
    | ok q => simp [ih]
    | error e => simp

theorem firstMalformed_eq_some_iff {l : List (String × String)} :
    firstMalformed d l = some (id, e) ↔
      ∃ before t after, l = before ++ (id, t) :: after ∧ Template.compile t d = .error e ∧
        ∀ x ∈ before, ∃ q, Template.compile x.2 d = .ok q := by
  induction l with
  | nil => simp [firstMalformed]
  | cons x l ih =>
    obtain ⟨j, t⟩ := x
    rw [firstMalformed]
    cases ht : Template.compile t d with
    | ok q =>
      simp only [ih]
      constructor
      · rintro ⟨before, t', after, rfl, ht', hbefore⟩
        exact ⟨(j, t) :: before, t', after, rfl, ht',
          List.forall_mem_cons.2 ⟨⟨q, ht⟩, hbefore⟩⟩
      · rintro ⟨before, t', after, hl, ht', hbefore⟩
        cases before with
        | nil =>
          cases hl
          rw [ht] at ht'
          cases ht'
        | cons y before =>
          obtain ⟨rfl, rfl⟩ := List.cons.inj hl
          exact ⟨before, t', after, rfl, ht', (List.forall_mem_cons.1 hbefore).2⟩
    | error e' =>
      constructor
      · rintro ⟨⟩
        exact ⟨[], t, l, rfl, ht, nofun⟩
      · rintro ⟨before, t', after, hl, ht', hbefore⟩
        cases before with
        | nil =>
          cases hl
          rw [ht] at ht'
          cases ht'
          rfl
        | cons y before =>
          obtain ⟨rfl, rfl⟩ := List.cons.inj hl
          obtain ⟨q, hq⟩ := (List.forall_mem_cons.1 hbefore).1
          rw [ht] at hq
          cases hq

/-! ## One verdict -/

/-- Whether an entry is malformed does not depend on the dialect. -/
theorem firstMalformed_eq_of_dialects (d d' : Dialect) (l : List (String × String)) :
    firstMalformed d l = firstMalformed d' l := by
  induction l with
  | nil => rfl
  | cons x l ih =>
    obtain ⟨id, t⟩ := x
    have hsame : ∀ e, Template.compile t d = .error e ↔ Template.compile t d' = .error e :=
      fun e => Template.compile_error_iff.trans Template.compile_error_iff.symm
    rw [firstMalformed, firstMalformed]
    cases hd : Template.compile t d with
    | error e => rw [(hsame e).1 hd]
    | ok q =>
      cases hd' : Template.compile t d' with
      | error e =>
        rw [(hsame e).2 hd'] at hd
        cases hd
      | ok q' => exact ih

theorem validate_eq_of_dialects (c : Catalog) (d d' : Dialect) : c.validate d = c.validate d' := by
  rw [validate, validate, firstMalformed_eq_of_dialects d d']

theorem validate_eq_ok_iff_firstMalformed :
    c.validate d = .ok () ↔ firstMalformed d c.entries = none := by
  unfold validate
  cases firstMalformed d c.entries <;> simp

theorem validate_eq_error_iff_firstMalformed :
    c.validate d = .error (id, e) ↔ firstMalformed d c.entries = some (id, e) := by
  unfold validate
  cases firstMalformed d c.entries <;> simp

/-! ## Malformed statements -/

/-- The statement has a template that does not compile, and this is where. -/
def MalformedAt (c : Catalog) (d : Dialect) (id : String) (i : Nat) : Prop :=
  ∃ t, c.find? id = some t ∧ Template.compile t d = .error (.malformedTemplate i)

/-- No malformed statement has an id whose UTF-8 bytes come before. -/
structure LeastMalformed (c : Catalog) (d : Dialect) (id : String) (i : Nat) : Prop where
  malformed : c.MalformedAt d id i
  least : ∀ id' i', c.MalformedAt d id' i' → ¬Text.utf8 id' < Text.utf8 id

theorem validate_eq_ok_iff :
    c.validate d = .ok () ↔ ∀ id i, ¬c.MalformedAt d id i := by
  rw [validate_eq_ok_iff_firstMalformed, firstMalformed_eq_none_iff]
  constructor
  · rintro h id i ⟨t, hid, ht⟩
    obtain ⟨q, hq⟩ := h _ (KeyMap.mem_entries_iff.2 hid)
    rw [ht] at hq
    cases hq
  · rintro h ⟨id, t⟩ hmem
    cases ht : Template.compile t d with
    | ok q => exact ⟨q, rfl⟩
    | error e =>
      obtain ⟨i, rfl⟩ := Template.malformed_of_compile ht
      exact absurd ⟨t, KeyMap.mem_entries_iff.1 hmem, ht⟩ (h id i)

/-- Entries are listed in the order of the UTF-8 bytes of their ids. -/
theorem not_lt_of_append {before after : List (String × String)} {t : String} {x : String × String}
    (hl : c.entries = before ++ (id, t) :: after) (hx : x ∈ c.entries) (hbefore : x ∉ before) :
    ¬Text.utf8 x.1 < Text.utf8 id := by
  have hsorted : Entries.Sorted (before ++ (id, t) :: after) := hl ▸ c.sorted
  have hafter := (List.pairwise_cons.1 (List.pairwise_append.1 hsorted).2.1).1
  rw [hl, List.mem_append, List.mem_cons] at hx
  rw [← Text.lt_iff_utf8_lt]
  rcases hx.resolve_left hbefore with rfl | hx
  · exact String.lt_irrefl _
  · exact String.lt_asymm (hafter x hx)

/-- Validation stops at the least malformed statement. -/
theorem validate_eq_error_iff :
    c.validate d = .error (id, e) ↔ ∃ i, e = .malformedTemplate i ∧ c.LeastMalformed d id i := by
  rw [validate_eq_error_iff_firstMalformed, firstMalformed_eq_some_iff]
  constructor
  · rintro ⟨before, t, after, hl, ht, hbefore⟩
    obtain ⟨i, rfl⟩ := Template.malformed_of_compile ht
    have hmem : (id, t) ∈ c.entries := by simp [hl]
    refine ⟨i, rfl, ⟨t, KeyMap.mem_entries_iff.1 hmem, ht⟩, ?_⟩
    rintro id' i' ⟨t', hid', ht'⟩
    refine not_lt_of_append hl (KeyMap.mem_entries_iff.2 hid') fun hin => ?_
    obtain ⟨q, hq⟩ := hbefore _ hin
    rw [ht'] at hq
    cases hq
  · rintro ⟨i, rfl, ⟨t, hid, ht⟩, hleast⟩
    obtain ⟨before, after, hl⟩ := List.append_of_mem (KeyMap.mem_entries_iff.2 hid)
    refine ⟨before, t, after, hl, ht, ?_⟩
    rintro ⟨id', t'⟩ hin
    have hsorted : Entries.Sorted (before ++ (id, t) :: after) := hl ▸ c.sorted
    have hlt : id' < id := (List.pairwise_append.1 hsorted).2.2 _ hin _ List.mem_cons_self
    have hmem : (id', t') ∈ c.entries := by simp [hl, hin]
    cases ht' : Template.compile t' d with
    | ok q => exact ⟨q, rfl⟩
    | error e =>
      obtain ⟨i', rfl⟩ := Template.malformed_of_compile ht'
      exact absurd (Text.lt_iff_utf8_lt.1 hlt)
        (hleast id' i' ⟨t', KeyMap.mem_entries_iff.1 hmem, ht'⟩)

end Catalog

/-! ## Other ways to check -/

namespace Command

variable (c : Catalog)

/-- A check under every dialect stops at the first one or passes them all. -/
theorem check_eq :
    check c = (c.validate .unknown).mapError fun (id, e) => (id, .unknown, e) := by
  have hunder : ∀ ds d, c.validate d = .ok () → checkUnder c ds = .ok () := by
    intro ds d hd
    induction ds with
    | nil => rfl
    | cons d' ds ih => rw [checkUnder, c.validate_eq_of_dialects d' d, hd, ih]
  cases h : c.validate .unknown with
  | ok u => exact hunder _ _ h
  | error e => simp [check, Dialect.all, checkUnder, h, Except.mapError]

/-- Blocks of entries are printed up to the first malformed one. -/
theorem blocks_of_entries (d : Dialect) {l : List (String × String)}
    (hl : ∀ x ∈ l, c.find? x.1 = some x.2) :
    (blocks c d (l.map Prod.fst)).map (fun _ => ()) =
      match Catalog.firstMalformed d l with
      | none => .ok ()
      | some e => .error e := by
  induction l with
  | nil => rfl
  | cons x l ih =>
    obtain ⟨id, t⟩ := x
    obtain ⟨hid, htl⟩ := List.forall_mem_cons.1 hl
    have hcompile : c.compile id d = Template.compile t d := by rw [Catalog.compile, hid]
    rw [List.map_cons, blocks, hcompile, Catalog.firstMalformed]
    cases Template.compile t d with
    | error e => rfl
    | ok q => rw [← ih htl, Except.map_map]

/-- Every statement can be printed exactly if the catalog is valid. -/
theorem render_all_eq (d : Dialect) : (render c d []).map (fun _ => ()) = c.validate d := by
  have hblocks := blocks_of_entries c d (l := c.entries)
    fun x hx => KeyMap.mem_entries_iff.1 hx
  exact hblocks

end Command

theorem Client.validate_client_eq {σ ρ : Type} (c : Client σ ρ) :
    c.validate.1 = (c.catalog.validate c.dialect).mapError Prod.snd := by
  unfold Client.validate
  rcases c.catalog.validate c.dialect with ⟨id, e⟩ | u <;> rfl

end SqlCatalog
