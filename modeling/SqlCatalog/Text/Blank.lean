/-!
# Blanks

`isBlank` is the Unicode property `White_Space`, and `firstWord` cuts a text at
it.
-/
namespace SqlCatalog.Text

/-- The characters with the property `White_Space`. -/
def isBlank (c : Char) : Bool :=
  let n := c.toNat
  (9 ≤ n && n ≤ 13) || n == 0x20 || n == 0x85 || n == 0xa0 || n == 0x1680 ||
    (0x2000 ≤ n && n ≤ 0x200a) || n == 0x2028 || n == 0x2029 || n == 0x202f || n == 0x205f ||
    n == 0x3000

/-- The characters before the first blank, once leading blanks are skipped. -/
def firstWord (s : List Char) : List Char :=
  (s.dropWhile isBlank).takeWhile (fun c => !isBlank c)

end SqlCatalog.Text
