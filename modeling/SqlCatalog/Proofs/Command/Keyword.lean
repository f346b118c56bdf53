import Mathlib.Data.List.Basic
import SqlCatalog.Command.Params
import SqlCatalog.Proofs.Text.Run
import SqlCatalog.Text.Letter
/-!
# The first key word of a statement

`FirstKeyword` says which word a statement begins with, however it is spaced: the
letters behind any blanks and opening brackets. `returnsRows` looks at the first
piece between blanks instead. It is right about every statement that it takes to
answer with rows, but it misses a key word behind a bracket with a blank after it,
and one that is followed by something else than a blank
(`returnsRows_first_keyword`).
-/
namespace SqlCatalog.Command

/-! ## Key words -/

/-- A character that goes on a word. -/
def isWordChar (c : Char) : Bool := Text.isLetter c || c.isDigit || c == '_'

/-- A character that may stand before the first word. -/
def isOpening (c : Char) : Bool := Text.isBlank c || c == '('

/-- A statement read as its first key word, with what stands before and behind it. -/
structure FirstKeyword (text opening keyword rest : List Char) : Prop where
  parts : text = opening ++ (keyword ++ rest)
  opening : ∀ c ∈ opening, isOpening c = true
  nonempty : keyword ≠ []
  letters : ∀ c ∈ keyword, c.isAlpha = true
  stop : ∀ c, rest.head? = some c → isWordChar c = false

/-- A key word of statements that answer with rows, in any ASCII case. -/
def IsRowKeyword (keyword : List Char) : Prop :=
  String.ofList (keyword.map Char.toLower) ∈ ["select", "with", "pragma", "values"]

/-- No blank stands behind a bracket. -/
def Tight (opening : List Char) : Prop :=
  ∃ blanks brackets, opening = blanks ++ brackets ∧
    (∀ c ∈ blanks, Text.isBlank c = true) ∧ ∀ c ∈ brackets, c = '('

/-- A blank follows, or nothing. -/
def Spaced (rest : List Char) : Prop := ∀ c, rest.head? = some c → Text.isBlank c = true

/-! ## Characters -/

/-- Ranges of code points with all blanks beyond ASCII and no letter in them. -/
def blankRanges : List (Nat × Nat) :=
  [(0x80, 0xa0), (0x1680, 0x1680), (0x2000, 0x205f), (0x3000, 0x3000)]

theorem disjoint_blankRanges :
    ∀ b ∈ blankRanges, ∀ r ∈ Text.letterRanges, r.2 < b.1 ∨ b.2 < r.1 := by
  decide +kernel

theorem ascii_blank {c : Char} (h : Text.isBlank c = true) (hascii : c.toNat < 128) :
    c.toNat ∈ [9, 10, 11, 12, 13, 32] := by
  simp only [Text.isBlank, Bool.or_eq_true, Bool.and_eq_true, decide_eq_true_eq, beq_iff_eq] at h
  simp only [List.mem_cons, List.not_mem_nil, or_false]
  omega

theorem exists_blankRange {c : Char} (h : Text.isBlank c = true) (hascii : ¬c.toNat < 128) :
    ∃ b ∈ blankRanges, b.1 ≤ c.toNat ∧ c.toNat ≤ b.2 := by
  simp only [Text.isBlank, Bool.or_eq_true, Bool.and_eq_true, decide_eq_true_eq, beq_iff_eq] at h
  simp only [blankRanges, List.mem_cons, List.not_mem_nil, or_false, exists_eq_or_imp,
    exists_eq_left]
  omega

theorem ascii_of_isAlpha {c : Char} (h : c.isAlpha = true) : c.toNat < 128 := by
  rcases Bool.or_eq_true_iff.1 h with hupper | hlower
  · obtain ⟨-, hle⟩ := of_decide_eq_true hupper
    exact Nat.lt_of_le_of_lt (UInt32.le_iff_toNat_le.1 hle) (by decide)
  · have hle := of_decide_eq_true (Bool.and_eq_true_iff.1 hlower).2
    exact Nat.lt_of_le_of_lt (UInt32.le_iff_toNat_le.1 hle) (by decide)

/-- Beyond ASCII only the table of letters counts. -/
theorem isWordChar_of_not_ascii {c : Char} (h : ¬c.toNat < 128) :
    isWordChar c = Text.letterRanges.any (fun r => r.1 ≤ c.toNat && c.toNat ≤ r.2) := by
  have halpha : c.isAlpha = false := Bool.eq_false_iff.2 fun halpha => h (ascii_of_isAlpha halpha)
  have hdigit : c.isDigit = false := by
    grind [Char.isDigit, Char.toNat, UInt32.le_iff_toNat_le]
  have hlow : c ≠ '_' := by
    rintro rfl
    exact h (by decide)
  simp [isWordChar, Text.isLetter, halpha, hdigit, hlow, Nat.not_lt.1 h]

/-- A blank ends a word. -/
theorem not_isWordChar_of_isBlank {c : Char} (h : Text.isBlank c = true) :
    isWordChar c = false := by
  by_cases hascii : c.toNat < 128
  · have hall : ∀ n ∈ [9, 10, 11, 12, 13, 32], isWordChar (Char.ofNat n) = false := by
      decide +kernel
    have hc := hall c.toNat (ascii_blank h hascii)
    rwa [Char.ofNat_toNat] at hc
  · obtain ⟨b, hb, hlow, hhigh⟩ := exists_blankRange h hascii
    rw [isWordChar_of_not_ascii hascii, List.any_eq_false]
    intro r hr hmem
    simp only [Bool.and_eq_true, decide_eq_true_eq] at hmem
    have hdisjoint := disjoint_blankRanges b hb r hr
    omega

theorem isWordChar_of_isAlpha {c : Char} (h : c.isAlpha = true) : isWordChar c = true := by
  simp [isWordChar, Text.isLetter_of_isAlpha h]

theorem not_isAlpha_of_not_isWordChar {c : Char} (h : isWordChar c = false) :
    c.isAlpha = false := by
  by_contra halpha
  rw [isWordChar_of_isAlpha (by simpa using halpha)] at h
  cases h

theorem not_isBlank_of_isAlpha {c : Char} (h : c.isAlpha = true) : Text.isBlank c = false := by
  by_contra hblank
  have hword := not_isWordChar_of_isBlank (c := c) (by simpa using hblank)
  rw [isWordChar_of_isAlpha h] at hword
  cases hword

theorem ne_bracket_of_isAlpha {c : Char} (h : c.isAlpha = true) : c ≠ '(' := by
  rintro rfl
  revert h
  decide

theorem not_isOpening_of_isAlpha {c : Char} (h : c.isAlpha = true) : isOpening c = false := by
  simp [isOpening, not_isBlank_of_isAlpha h, ne_bracket_of_isAlpha h]

theorem isAlpha_of_toLower {c : Char} (h : c.toLower.isAlpha = true) : c.isAlpha = true := by
  by_cases hupper : c.isUpper = true
  · exact Bool.or_eq_true_iff.2 (.inl hupper)
  · have hlower : c.toLower = c := dif_neg fun hrange => hupper (decide_eq_true hrange)
    rwa [hlower] at h

/-! ## Row key words -/

namespace IsRowKeyword

variable {keyword : List Char}

theorem nonempty (h : IsRowKeyword keyword) : keyword ≠ [] := by
  rintro rfl
  revert h
  unfold IsRowKeyword
  decide

/-- A key word of rows is made of letters, since its lower case is. -/
theorem letters (h : IsRowKeyword keyword) : ∀ c ∈ keyword, c.isAlpha = true := by
  have hlower : ∀ s ∈ ["select", "with", "pragma", "values"], s.toList.all Char.isAlpha = true := by
    decide
  intro c hc
  have hmem : c.toLower ∈ (String.ofList (keyword.map Char.toLower)).toList := by
    rw [String.toList_ofList]
    exact List.mem_map_of_mem hc
  have halpha := List.all_eq_true.1 (hlower _ h) _ hmem
  exact isAlpha_of_toLower halpha

end IsRowKeyword

theorem returnsRows_iff_word (sql : String) :
    returnsRows sql = true ↔
      IsRowKeyword ((Text.firstWord sql.toList).dropWhile (· == '(')) := by
  simp only [returnsRows, rowKeywords, IsRowKeyword, List.contains_iff_mem]

/-! ## One reading -/

namespace FirstKeyword

variable {text opening keyword rest : List Char}

theorem not_isOpening_behind (h : FirstKeyword text opening keyword rest) :
    ∀ c, (keyword ++ rest).head? = some c → isOpening c = false := by
  obtain ⟨c, tail, hcons⟩ := List.exists_cons_of_ne_nil h.nonempty
  intro d hd
  rw [hcons] at hd
  obtain rfl : c = d := by simpa using hd
  exact not_isOpening_of_isAlpha (h.letters c (by simp [hcons]))

theorem opening_eq (h : FirstKeyword text opening keyword rest) :
    opening = text.takeWhile isOpening := by
  rw [h.parts, takeWhile_run h.opening h.not_isOpening_behind]

theorem behind_eq (h : FirstKeyword text opening keyword rest) :
    keyword ++ rest = text.dropWhile isOpening := by
  rw [h.parts, dropWhile_run h.opening h.not_isOpening_behind]

theorem not_isAlpha_behind (h : FirstKeyword text opening keyword rest) :
    ∀ c, rest.head? = some c → c.isAlpha = false := fun c hc =>
  not_isAlpha_of_not_isWordChar (h.stop c hc)

theorem keyword_eq (h : FirstKeyword text opening keyword rest) :
    keyword = (text.dropWhile isOpening).takeWhile Char.isAlpha := by
  rw [← h.behind_eq, takeWhile_run h.letters h.not_isAlpha_behind]

theorem rest_eq (h : FirstKeyword text opening keyword rest) :
    rest = (text.dropWhile isOpening).dropWhile Char.isAlpha := by
  rw [← h.behind_eq, dropWhile_run h.letters h.not_isAlpha_behind]

/-- A statement has at most one first key word. -/
theorem unique {opening' keyword' rest' : List Char} (h : FirstKeyword text opening keyword rest)
    (h' : FirstKeyword text opening' keyword' rest') :
    opening = opening' ∧ keyword = keyword' ∧ rest = rest' :=
  ⟨h.opening_eq.trans h'.opening_eq.symm, h.keyword_eq.trans h'.keyword_eq.symm,
    h.rest_eq.trans h'.rest_eq.symm⟩

end FirstKeyword

/-! ## What is recognised -/

section

variable {sql : String} {opening keyword rest : List Char}

/-- Between blanks the key word stands with the brackets before it. -/
theorem dropWhile_firstWord (hopening : Tight opening) (hrest : Spaced rest)
    (hletters : ∀ c ∈ keyword, c.isAlpha = true) (hne : keyword ≠ []) :
    (Text.firstWord (opening ++ (keyword ++ rest))).dropWhile (· == '(') = keyword := by
  obtain ⟨blanks, brackets, rfl, hblanks, hbrackets⟩ := hopening
  have hword : ∀ c ∈ brackets ++ keyword, (!Text.isBlank c) = true := by
    intro c hc
    rcases List.mem_append.1 hc with hc | hc
    · rw [hbrackets c hc]
      decide
    · rw [not_isBlank_of_isAlpha (hletters c hc)]
      rfl
  have hstart : ∀ c, (brackets ++ keyword ++ rest).head? = some c → Text.isBlank c = false := by
    intro c hc
    have hmem : c ∈ brackets ++ keyword := by
      rw [List.head?_append_of_ne_nil _ (by simp [hne])] at hc
      exact List.mem_of_head? hc
    simpa using hword c hmem
  have hkeyword : ∀ c, keyword.head? = some c → (c == '(') = false := by
    intro c hc
    simpa using ne_bracket_of_isAlpha (hletters c (List.mem_of_head? hc))
  have hfirst : Text.firstWord (blanks ++ brackets ++ (keyword ++ rest)) = brackets ++ keyword := by
    rw [List.append_assoc, ← List.append_assoc brackets, Text.firstWord,
      dropWhile_run hblanks hstart, takeWhile_run hword fun c hc => by simp [hrest c hc]]
  rw [hfirst, dropWhile_run (fun c hc => by simp [hbrackets c hc]) hkeyword]

/-- A statement that is taken to answer with rows begins with such a key word. -/
theorem exists_tight_of_returnsRows (h : returnsRows sql = true) :
    ∃ opening keyword rest, FirstKeyword sql.toList opening keyword rest ∧
      IsRowKeyword keyword ∧ Tight opening ∧ Spaced rest := by
  rw [returnsRows_iff_word] at h
  -- The word as it is cut out leaves no letter over: what stands behind it is a blank.
  let blanks := sql.toList.takeWhile Text.isBlank
  let word := Text.firstWord sql.toList
  let brackets := word.takeWhile (· == '(')
  let rest := (sql.toList.dropWhile Text.isBlank).dropWhile (fun c => !Text.isBlank c)
  have hblanks : ∀ c ∈ blanks, Text.isBlank c = true := fun c => List.mem_takeWhile_imp
  have hbrackets : ∀ c ∈ brackets, c = '(' := fun c hc => by
    simpa using List.mem_takeWhile_imp hc
  have hword : brackets ++ word.dropWhile (· == '(') = word := List.takeWhile_append_dropWhile
  have hrest : Spaced rest := fun c hc => by simpa using not_of_head?_dropWhile hc
  refine ⟨blanks ++ brackets, word.dropWhile (· == '('), rest, ?_, h,
    ⟨blanks, brackets, rfl, hblanks, hbrackets⟩, hrest⟩
  refine ⟨?_, fun c hc => ?_, h.nonempty, h.letters, fun c hc =>
    not_isWordChar_of_isBlank (hrest c hc)⟩
  · calc sql.toList
        = blanks ++ (word ++ rest) := by
          simp only [blanks, word, rest, Text.firstWord, List.takeWhile_append_dropWhile]
      _ = blanks ++ brackets ++ (word.dropWhile (· == '(') ++ rest) := by
          rw [List.append_assoc, ← List.append_assoc brackets, hword]
  · rcases List.mem_append.1 hc with hc | hc
    · simp [isOpening, hblanks c hc]
    · simp [isOpening, hbrackets c hc]

end

/-- A statement that is taken to answer with rows begins with a key word that says so.
And of the statements that do, those are recognised where no blank stands behind an
opening bracket and a blank, or nothing, stands behind the key word. -/
theorem returnsRows_first_keyword (sql : String) :
    (returnsRows sql = true → ∃ opening keyword rest,
      FirstKeyword sql.toList opening keyword rest ∧ IsRowKeyword keyword) ∧
    ∀ opening keyword rest, FirstKeyword sql.toList opening keyword rest →
      (returnsRows sql = true ↔ IsRowKeyword keyword ∧ Tight opening ∧ Spaced rest) := by
  refine ⟨fun h => ?_, fun opening keyword rest hfirst => ⟨fun h => ?_, ?_⟩⟩
  · obtain ⟨opening, keyword, rest, hfirst, hrow, -⟩ := exists_tight_of_returnsRows h
    exact ⟨opening, keyword, rest, hfirst, hrow⟩
  · obtain ⟨opening', keyword', rest', hfirst', hrow, htight, hspaced⟩ :=
      exists_tight_of_returnsRows h
    obtain ⟨rfl, rfl, rfl⟩ := hfirst.unique hfirst'
    exact ⟨hrow, htight, hspaced⟩
  · rintro ⟨hrow, htight, hspaced⟩
    rw [returnsRows_iff_word, hfirst.parts,
      dropWhile_firstWord htight hspaced hfirst.letters hfirst.nonempty]
    exact hrow

/-- The same key word, where it is recognised and where it is not. -/
theorem returnsRows_first_keyword_brackets :
    returnsRows "\t((Select 1)" = true ∧ returnsRows "\t((Select(1))" = false := by
  have hopening : ∀ c ∈ "\t((".toList, isOpening c = true := List.all_eq_true.1 (by decide)
  have hletters : ∀ c ∈ "Select".toList, c.isAlpha = true := List.all_eq_true.1 (by decide)
  have hrow : IsRowKeyword "Select".toList := by unfold IsRowKeyword; decide
  have hblank : FirstKeyword "\t((Select 1)".toList "\t((".toList "Select".toList " 1)".toList := by
    refine ⟨by decide, hopening, by decide, hletters, ?_⟩
    rintro c ⟨⟩
    decide
  have hbracket :
      FirstKeyword "\t((Select(1))".toList "\t((".toList "Select".toList "(1))".toList := by
    refine ⟨by decide, hopening, by decide, hletters, ?_⟩
    rintro c ⟨⟩
    decide
  have htight : Tight "\t((".toList :=
    ⟨['\t'], ['(', '('], by decide, by simp; decide, by simp⟩
  constructor
  · refine ((returnsRows_first_keyword _).2 _ _ _ hblank).2 ⟨hrow, htight, ?_⟩
    rintro c ⟨⟩
    decide
  · rw [← Bool.not_eq_true, (returnsRows_first_keyword _).2 _ _ _ hbracket]
    rintro ⟨-, -, hspaced⟩
    exact absurd (hspaced '(' (by decide)) (by decide)

/-- Statements that begin with a key word of rows and are not recognised: no blank
stands behind the key word, or one stands behind the bracket before it. -/
theorem row_keyword_missed :
    (returnsRows "SELECT*FROM t" = false ∧
      FirstKeyword "SELECT*FROM t".toList [] "SELECT".toList "*FROM t".toList) ∧
    (returnsRows "( SELECT 1)" = false ∧
      FirstKeyword "( SELECT 1)".toList "( ".toList "SELECT".toList " 1)".toList) ∧
    IsRowKeyword "SELECT".toList := by
  have hletters : ∀ c ∈ "SELECT".toList, c.isAlpha = true := List.all_eq_true.1 (by decide)
  have hopening : ∀ c ∈ "( ".toList, isOpening c = true := List.all_eq_true.1 (by decide)
  refine ⟨⟨by decide +kernel, by decide, nofun, by decide, hletters, ?_⟩,
    ⟨by decide +kernel, by decide, hopening, by decide, hletters, ?_⟩, ?_⟩
  · rintro c ⟨⟩
    decide
  · rintro c ⟨⟩
    decide
  · unfold IsRowKeyword
    decide

end SqlCatalog.Command
