import Mathlib.Data.List.Induction
import Mathlib.Data.Nat.Digits.Defs
import SqlCatalog.Decimal.Digits
/-!
# Numerals

`Numeral` says which texts write an integer and which one: digits with at most one
sign before them, however many zeros they start with, of a value by powers of ten.
Reading accepts these texts and no others (`integer?_eq_some_iff`).
-/
namespace SqlCatalog.Decimal

/-- One or more of the ten digits of ASCII. -/
structure AreDigits (ds : List Char) : Prop where
  nonempty : ds ≠ []
  digits : ∀ c ∈ ds, '0' ≤ c ∧ c ≤ '9'

/-- What digits come to: the last one counts once, each other ten times what it would
in the place behind it. -/
def valueOf (ds : List Char) : Nat :=
  Nat.ofDigits 10 (ds.reverse.map fun c => c.toNat - '0'.toNat)

/-- A text that writes an integer. -/
inductive Numeral : List Char → Int → Prop
  | unsigned {ds : List Char} (h : AreDigits ds) : Numeral ds (valueOf ds)
  | plus {ds : List Char} (h : AreDigits ds) : Numeral ('+' :: ds) (valueOf ds)
  | minus {ds : List Char} (h : AreDigits ds) : Numeral ('-' :: ds) (-valueOf ds)

variable {ds text : List Char}

theorem isDigit_iff {c : Char} : c.isDigit = true ↔ '0' ≤ c ∧ c ≤ '9' := by
  simp only [Char.isDigit, Bool.and_eq_true, decide_eq_true_eq]
  rfl

/-- Reading digits from the left, ten times what was read and one more digit, comes to
their value. -/
theorem ofDigitChars_eq_valueOf (ds : List Char) : Nat.ofDigitChars 10 ds 0 = valueOf ds := by
  induction ds using List.reverseRecOn with
  | nil => rfl
  | append_singleton ds c ih =>
    have hread : Nat.ofDigitChars 10 (ds ++ [c]) 0 =
        10 * Nat.ofDigitChars 10 ds 0 + (c.toNat - '0'.toNat) := by
      simp only [Nat.ofDigitChars, List.foldl_append, List.foldl_cons, List.foldl_nil]
    rw [hread, ih, valueOf, valueOf, List.reverse_concat, List.map_cons, Nat.ofDigits_cons,
      Nat.add_comm]

theorem natural?_eq_some_iff {n : Nat} : natural? ds = some n ↔ AreDigits ds ∧ valueOf ds = n := by
  by_cases hdigits : AreDigits ds
  · have hread := natural?_of_digits hdigits.nonempty fun c hc =>
      isDigit_iff.2 (hdigits.digits c hc)
    rw [hread, ofDigitChars_eq_valueOf, Option.some_inj]
    simp [hdigits]
  · refine iff_of_false (fun h => hdigits ?_) fun h => hdigits h.1
    unfold natural? at h
    split at h
    · cases h
    · rename_i hne
      split_ifs at h with hall
      exact ⟨hne, fun c hc => isDigit_iff.1 (List.all_eq_true.1 hall c hc)⟩

theorem AreDigits.ne_sign (h : AreDigits ds) : ds.head? ≠ some '+' ∧ ds.head? ≠ some '-' := by
  constructor
  · intro hhead
    exact absurd (h.digits '+' (List.mem_of_head? hhead)) (by decide)
  · intro hhead
    exact absurd (h.digits '-' (List.mem_of_head? hhead)) (by decide)

theorem integer?_minus (ds : List Char) :
    integer? ('-' :: ds) = (natural? ds).map fun n : Nat => -(n : Int) := by
  rw [integer?]
  cases natural? ds <;> rfl

theorem integer?_unsigned (h : ds.head? ≠ some '+' ∧ ds.head? ≠ some '-') :
    integer? ds = (natural? ds).map Int.ofNat := by
  unfold integer?
  split
  · exact absurd rfl h.1
  · exact absurd rfl h.2
  · rfl

/-- An integer is read exactly where one is written. -/
theorem integer?_eq_some_iff {n : Int} : integer? text = some n ↔ Numeral text n := by
  constructor
  · intro h
    unfold integer? at h
    split at h
    case h_1 ds =>
      obtain ⟨m, hm, rfl⟩ := Option.map_eq_some_iff.1 h
      obtain ⟨hdigits, rfl⟩ := natural?_eq_some_iff.1 hm
      exact .plus hdigits
    case h_2 ds =>
      have hread := (integer?_minus ds).symm.trans h
      obtain ⟨m, hm, rfl⟩ := Option.map_eq_some_iff.1 hread
      obtain ⟨hdigits, rfl⟩ := natural?_eq_some_iff.1 hm
      exact .minus hdigits
    case h_3 =>
      obtain ⟨m, hm, rfl⟩ := Option.map_eq_some_iff.1 h
      obtain ⟨hdigits, rfl⟩ := natural?_eq_some_iff.1 hm
      exact .unsigned hdigits
  · rintro (hdigits | hdigits | hdigits)
    · rw [integer?_unsigned hdigits.ne_sign, natural?_eq_some_iff.2 ⟨hdigits, rfl⟩]
      rfl
    · rw [integer?, natural?_eq_some_iff.2 ⟨hdigits, rfl⟩]
      rfl
    · rw [integer?_minus, natural?_eq_some_iff.2 ⟨hdigits, rfl⟩]
      rfl

end SqlCatalog.Decimal
