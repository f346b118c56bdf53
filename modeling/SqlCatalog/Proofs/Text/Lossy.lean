import SqlCatalog.Text.Lossy
import SqlCatalog.Proofs.Text.ByteOrder
/-!
# The bytes of a text read as the text

Each character is read back from its bytes, whatever follows them
(`decode_encode_append`), because the ranges of second bytes leave out nothing but what
is no character. So no text is changed by way of its bytes (`lossy_utf8`).
-/
namespace SqlCatalog.Text

namespace Reading

/-! ## Bytes -/

theorem decode_cons (r : Reading) {b : Nat} (hb : b < 256) (rest : List UInt8) :
    r.decode (UInt8.ofNat b :: rest) = (r.step b).1 ++ (r.step b).2.decode rest := by
  have htoNat : (UInt8.ofNat b).toNat = b := UInt8.toNat_ofNat_of_lt' hb
  cases r <;> rw [decode, htoNat]

variable {bits low high more m : Nat}

/-- The last byte of a character adds six bits to it. -/
theorem decode_last (hlow : low ≤ m % 64 + 128) (hhigh : m % 64 + 128 ≤ high)
    (rest : List UInt8) :
    (inside bits low high 0).decode (UInt8.ofNat (m % 64 + 128) :: rest) =
      Char.ofNat (bits * 64 + m % 64) :: between.decode rest := by
  have hbits : (m % 64 + 128) % 0x40 = m % 64 := by omega
  rw [decode_cons _ (by omega), step, if_pos ⟨hlow, hhigh⟩, hbits]
  rfl

/-- So does a byte between the first and the last one. -/
theorem decode_more (hlow : low ≤ m % 64 + 128) (hhigh : m % 64 + 128 ≤ high)
    (rest : List UInt8) :
    (inside bits low high (more + 1)).decode (UInt8.ofNat (m % 64 + 128) :: rest) =
      (inside (bits * 64 + m % 64) 0x80 0xbf more).decode rest := by
  have hbits : (m % 64 + 128) % 0x40 = m % 64 := by omega
  rw [decode_cons _ (by omega), step, if_pos ⟨hlow, hhigh⟩, hbits]
  rfl

/-- The first of two bytes. -/
theorem start_two (hmin : 0x80 ≤ m) (hmax : m < 0x800) :
    start (m / 64 % 32 + 192) = ([], inside (m / 64) 0x80 0xbf 0) := by
  have hbits : (m / 64 % 32 + 192) % 0x20 = m / 64 := by omega
  rw [start, if_neg (by omega), if_pos (by omega), hbits]

/-- The first of three bytes, and the range that the second one is in. -/
theorem start_three (hmin : 0x800 ≤ m) (hmax : m < 0x10000) (hchar : m < 0xd800 ∨ 0xdfff < m) :
    ∃ low high, start (m / 4096 % 16 + 224) = ([], inside (m / 4096) low high 1) ∧
      low ≤ m / 64 % 64 + 128 ∧ m / 64 % 64 + 128 ≤ high := by
  have hbits : (m / 4096 % 16 + 224) % 0x10 = m / 4096 := by omega
  rw [start, if_neg (by omega), if_neg (by omega), if_pos (by omega), hbits]
  refine ⟨_, _, rfl, ?_, ?_⟩
  · split <;> omega
  · split <;> omega

/-- The first of four bytes, and the range that the second one is in. -/
theorem start_four (hmin : 0x10000 ≤ m) (hmax : m < 0x110000) :
    ∃ low high, start (m / 262144 % 8 + 240) = ([], inside (m / 262144) low high 2) ∧
      low ≤ m / 4096 % 64 + 128 ∧ m / 4096 % 64 + 128 ≤ high := by
  have hbits : (m / 262144 % 8 + 240) % 0x8 = m / 262144 := by omega
  rw [start, if_neg (by omega), if_neg (by omega), if_neg (by omega), if_pos (by omega), hbits]
  refine ⟨_, _, rfl, ?_, ?_⟩
  · split <;> omega
  · split <;> omega

/-! ## Characters -/

theorem not_surrogate (c : Char) : c.val.toNat < 0xd800 ∨ 0xdfff < c.val.toNat := by
  rcases c.valid with h | h
  · exact .inl h
  · exact .inr h.1

/-- A character is read from its bytes, whatever follows them. -/
theorem decode_encode_append (c : Char) (rest : List UInt8) :
    between.decode (String.utf8EncodeChar c ++ rest) = c :: between.decode rest := by
  have hmax := codePoint_lt c
  have hchar := not_surrogate c
  have hc : Char.ofNat c.val.toNat = c := Char.ofNat_toNat c
  unfold String.utf8EncodeChar
  generalize c.val.toNat = m at hmax hchar hc ⊢
  simp only
  split
  · -- one byte
    rw [List.cons_append, List.nil_append, decode_cons _ (by omega), step, start,
      if_pos (by omega), hc]
    rfl
  split
  · -- two bytes
    have hbits : m / 64 * 64 + m % 64 = m := by omega
    simp only [List.cons_append, List.nil_append]
    rw [decode_cons _ (by omega), step, start_two (by omega) (by omega), List.nil_append,
      decode_last (by omega) (by omega), hbits, hc]
  split
  · -- three bytes
    obtain ⟨low, high, hstart, hlow, hhigh⟩ := start_three (by omega) (by omega) hchar
    have hbits : (m / 4096 * 64 + m / 64 % 64) * 64 + m % 64 = m := by omega
    simp only [List.cons_append, List.nil_append]
    rw [decode_cons _ (by omega), step, hstart, List.nil_append, decode_more hlow hhigh,
      decode_last (by omega) (by omega), hbits, hc]
  · -- four bytes
    obtain ⟨low, high, hstart, hlow, hhigh⟩ := start_four (by omega) hmax
    have hbits : ((m / 262144 * 64 + m / 4096 % 64) * 64 + m / 64 % 64) * 64 + m % 64 = m := by
      omega
    simp only [List.cons_append, List.nil_append]
    rw [decode_cons _ (by omega), step, hstart, List.nil_append, decode_more hlow hhigh,
      decode_more (by omega) (by omega), decode_last (by omega) (by omega), hbits, hc]

theorem decode_flatMap_encode (cs : List Char) :
    between.decode (cs.flatMap String.utf8EncodeChar) = cs := by
  induction cs with
  | nil => rfl
  | cons c cs ih => rw [List.flatMap_cons, decode_encode_append, ih]

end Reading

/-- The bytes of a text read as the text. -/
theorem lossy_utf8 (s : String) : lossy (utf8 s) = s := by
  rw [lossy, utf8_eq_flatMap, Reading.decode_flatMap_encode, String.ofList_toList]

/-- A character that breaks off, one that is read, and a byte that begins none. -/
example : lossy [0xe2, 0x82, 0x41, 0xff] = "\uFFFDA\uFFFD" := by decide

end SqlCatalog.Text
