/-!
# UTF-8 measure

The UTF-8 bytes of a text, and a text cut down to a number of bytes. The cut walks
back from the limit until it stands between two characters, so none is divided
(`isValid_boundaryUpTo`).
-/
namespace SqlCatalog.Text

/-- The UTF-8 bytes of a text. -/
def utf8 (s : String) : List UInt8 := s.toUTF8.data.toList

/-- How many bytes these characters take. -/
def utf8Size : List Char → Nat
  | [] => 0
  | c :: rest => c.utf8Size + utf8Size rest

/-- Walk back from an offset in bytes to where a character begins or the text ends. -/
def boundaryUpTo (s : String) : Nat → Nat
  | 0 => 0
  | n + 1 => if String.Pos.Raw.isValid s ⟨n + 1⟩ then n + 1 else boundaryUpTo s n

/-- The walk never ends inside a character. -/
theorem isValid_boundaryUpTo (s : String) (n : Nat) :
    String.Pos.Raw.IsValid s ⟨boundaryUpTo s n⟩ := by
  induction n with
  | zero => exact String.Pos.Raw.isValid_zero
  | succ n ih =>
    rw [boundaryUpTo]
    split
    · rename_i h
      exact String.Pos.Raw.isValid_eq_true_iff.1 h
    · exact ih

/-- A text of at most `limit` bytes as it is, and a longer one up to the last boundary
within the limit. -/
def truncate (limit : Nat) (s : String) : String :=
  if s.utf8ByteSize ≤ limit then s
  else (s.sliceTo (s.pos ⟨boundaryUpTo s limit⟩ (isValid_boundaryUpTo s limit))).copy

end SqlCatalog.Text
