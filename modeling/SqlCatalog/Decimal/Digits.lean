/-!
# Decimal digits

The numbers that ASCII digits write, with or without a sign. A printed number
reads back as itself (`natural?_toDigits`, `integer?_toString`).
-/
namespace SqlCatalog.Decimal

/-- The number that decimal digits write; there is at least one. -/
def natural? : List Char → Option Nat
  | [] => none
  | ds => if ds.all Char.isDigit then some (Nat.ofDigitChars 10 ds 0) else none

/-- Digits behind at most one sign. -/
def integer? : List Char → Option Int
  | '+' :: ds => (natural? ds).map Int.ofNat
  | '-' :: ds => (natural? ds).map (fun n => -(n : Int))
  | ds => (natural? ds).map Int.ofNat

theorem natural?_of_digits {ds : List Char} (hne : ds ≠ []) (h : ∀ c ∈ ds, c.isDigit) :
    natural? ds = some (Nat.ofDigitChars 10 ds 0) := by
  cases ds with
  | nil => exact absurd rfl hne
  | cons c rest => simp only [natural?, List.all_eq_true.2 h, if_true]

theorem natural?_toDigits (n : Nat) : natural? (Nat.toDigits 10 n) = some n := by
  rw [natural?_of_digits Nat.toDigits_ne_nil
    (fun _ h => Nat.isDigit_of_mem_toDigits (by decide) (by decide) h),
    Nat.ofDigitChars_ten_toDigits]

theorem toList_toString (n : Nat) : (toString n).toList = Nat.toDigits 10 n := by
  rw [Nat.toString_eq_ofList_toDigits, String.toList_ofList]

theorem integer?_toDigits (k : Nat) :
    integer? (Nat.toDigits 10 k) = some (k : Int) := by
  have hread := natural?_toDigits k
  have hdigit : ∀ c ∈ Nat.toDigits 10 k, c.isDigit := fun c hc =>
    Nat.isDigit_of_mem_toDigits (by decide) (by decide) hc
  unfold integer?
  split
  case h_1 heq => exact absurd (hdigit '+' (by simp [heq])) (by decide)
  case h_2 heq => exact absurd (hdigit '-' (by simp [heq])) (by decide)
  case h_3 => rw [hread, Option.map_some, Int.ofNat_eq_natCast]

/-- A printed integer reads back as itself. -/
theorem integer?_toString (n : Int) : integer? (toString n).toList = some n := by
  cases n with
  | ofNat k =>
    have hprint : (toString (Int.ofNat k)).toList = Nat.toDigits 10 k := toList_toString k
    rw [hprint, integer?_toDigits, Int.ofNat_eq_natCast]
  | negSucc k =>
    have hprint : (toString (Int.negSucc k)).toList = '-' :: Nat.toDigits 10 (k + 1) := by
      have hcons : toString (Int.negSucc k) = "-" ++ toString (k + 1) := rfl
      rw [hcons, String.toList_append, toList_toString]
      rfl
    rw [hprint, integer?, natural?_toDigits]
    rfl

end SqlCatalog.Decimal
