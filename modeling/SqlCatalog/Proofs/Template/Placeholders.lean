import Mathlib.Data.List.Chain
import Mathlib.Data.List.Infix
import SqlCatalog.Decimal.Digits
import SqlCatalog.Proofs.Template.Reading
/-!
# Finding the placeholders again

A driver finds the placeholders of a statement by reading the SQL once more.
`tokens` does that for numbered ones: a mark, and behind it as many digits as
follow. What follows a parameter is never a digit (`not_isDigit_behind`), since
it could not even go on with the name; so where the mark stands in no literal,
the tokens are the placeholders, in order (`placeholders_line_up`).
-/
namespace SqlCatalog.Template

/-! ## Tokens -/

/-- The mark and the ASCII digits behind it, as many as there are, if a text
starts with both. -/
def numbered? (mark : String) (text : List Char) : Option String :=
  let digits := (text.drop mark.toList.length).takeWhile Char.isDigit
  if mark.toList <+: text ∧ digits ≠ [] then some (mark ++ String.ofList digits) else none

/-- The numbered tokens of a text, from left to right. -/
def tokens (mark : String) (text : List Char) : List String :=
  text.tails.filterMap (numbered? mark)

/-- A mark that starts with `m` and has no `m` or digit besides, so that no token
starts inside another. -/
structure StartsMark (m : Char) (mark : String) : Prop where
  starts : ∃ more, mark.toList = m :: more ∧ m ∉ more
  not_digit : m.isDigit = false

theorem startsMark_dollar : StartsMark '$' "$" := ⟨⟨[], by decide⟩, by decide⟩

theorem startsMark_at : StartsMark '@' "@p" := ⟨⟨['p'], by decide⟩, by decide⟩

section Tokens

variable {m : Char} {mark : String} {text digits rest : List Char}

theorem tokens_cons (c : Char) (text : List Char) :
    tokens mark (c :: text) = (numbered? mark (c :: text)).toList ++ tokens mark text := by
  unfold tokens
  rw [List.tails_cons, List.filterMap_cons]
  cases numbered? mark (c :: text) <;> rfl

theorem numbered?_of_ne (h : StartsMark m mark) {c : Char} (hc : c ≠ m) (text : List Char) :
    numbered? mark (c :: text) = none := by
  obtain ⟨more, hmark, -⟩ := h.starts
  have hprefix : ¬mark.toList <+: c :: text := by
    rw [hmark, List.cons_prefix_cons]
    exact fun hp => hc hp.1.symm
  exact if_neg fun hboth => hprefix hboth.1

/-- No token starts where the mark does not. -/
theorem tokens_append (h : StartsMark m mark) (htext : m ∉ text) (rest : List Char) :
    tokens mark (text ++ rest) = tokens mark rest := by
  induction text with
  | nil => rfl
  | cons c text ih =>
    obtain ⟨hc, htext⟩ := List.ne_and_not_mem_of_not_mem_cons htext
    rw [List.cons_append, tokens_cons, numbered?_of_ne h hc.symm, ih htext]
    rfl

/-- A number ends before the first character that is no digit. -/
theorem numbered?_append (hdigits : ∀ c ∈ digits, c.isDigit = true) (hne : digits ≠ [])
    (hrest : ∀ c, rest.head? = some c → c.isDigit = false) :
    numbered? mark (mark.toList ++ (digits ++ rest)) = some (mark ++ String.ofList digits) := by
  have htake : (digits ++ rest).takeWhile Char.isDigit = digits := takeWhile_run hdigits hrest
  unfold numbered?
  simp only [List.drop_left, htake, hne, List.prefix_append, ne_eq, not_false_eq_true, and_self,
    if_true]

theorem isDigit_of_mem_toString {k : Nat} {c : Char} (hc : c ∈ (toString k).toList) :
    c.isDigit = true := by
  rw [Decimal.toList_toString] at hc
  exact Nat.isDigit_of_mem_toDigits (by decide) (by decide) hc

/-- The mark does not show again in a number. -/
theorem StartsMark.not_mem_toString (h : StartsMark m mark) (k : Nat) :
    m ∉ (toString k).toList := by
  intro hm
  have hdigit := isDigit_of_mem_toString hm
  rw [h.not_digit] at hdigit
  cases hdigit

/-- A printed number is read back. -/
theorem tokens_number (h : StartsMark m mark) (k : Nat)
    (hrest : ∀ c, rest.head? = some c → c.isDigit = false) :
    tokens mark ((mark ++ toString k).toList ++ rest) =
      (mark ++ toString k) :: tokens mark rest := by
  obtain ⟨more, hmark, hmore⟩ := h.starts
  have hne : (toString k).toList ≠ [] := by
    rw [Decimal.toList_toString]
    exact Nat.toDigits_ne_nil
  have htoken : numbered? mark (mark.toList ++ ((toString k).toList ++ rest)) =
      some (mark ++ String.ofList (toString k).toList) :=
    numbered?_append (fun c => isDigit_of_mem_toString) hne hrest
  have hbehind : m ∉ more ++ (toString k).toList := by
    rw [List.mem_append]
    exact not_or.2 ⟨hmore, h.not_mem_toString k⟩
  rw [hmark, List.cons_append] at htoken
  rw [String.toList_append, List.append_assoc, hmark, List.cons_append, tokens_cons, htoken,
    ← List.append_assoc, tokens_append h hbehind, String.ofList_toList]
  rfl

theorem count_number (h : StartsMark m mark) (k : Nat) :
    (mark ++ toString k).toList.count m = 1 := by
  obtain ⟨more, hmark, hmore⟩ := h.starts
  rw [String.toList_append, hmark, List.count_append, List.count_cons_self,
    List.count_eq_zero.2 hmore, List.count_eq_zero.2 (h.not_mem_toString k)]

end Tokens

/-! ## What stands behind a parameter -/

/-- May these pieces stand one behind the other? Behind a parameter comes
literal text that could not go on with the name. -/
def Piece.MayPrecede : Piece → Piece → Prop
  | literal _, _ => True
  | parameter _, literal c => isNameChar c = false
  | parameter _, parameter _ => False

variable {i : Nat} {t : List Char} {ps : List Piece}

/-- Where no `:` stands, a literal is read. -/
theorem Reads.head? (h : Reads i t (.ok ps)) (hcolon : t.head? ≠ some ':') :
    ps.head? = t.head?.map .literal := by
  cases h using Reads.ok_induction with
  | done => rfl
  | literal => rfl
  | colon | assign | trailing | parameter => exact absurd rfl hcolon

theorem Reads.isChain (h : Reads i t (.ok ps)) : ps.IsChain Piece.MayPrecede := by
  induction h using Reads.ok_induction with
  | done | trailing => exact .nil
  | literal _ _ ih | colon _ ih => exact List.isChain_cons.2 ⟨fun _ _ => trivial, ih⟩
  | assign _ ih =>
    exact List.isChain_cons.2 ⟨fun _ _ => trivial, List.isChain_cons.2 ⟨fun _ _ => trivial, ih⟩⟩
  | parameter hname h ih =>
    refine List.isChain_cons.2 ⟨fun p hp => ?_, ih⟩
    rw [h.head? hname.no_colon] at hp
    obtain ⟨c, hc, rfl⟩ := Option.map_eq_some_iff.1 hp
    exact hname.stop c hc

/-- A literal is a character of the template. -/
theorem Reads.mem_of_literal {c : Char} (h : Reads i t (.ok ps)) (hc : .literal c ∈ ps) :
    c ∈ t := by
  induction h using Reads.ok_induction with
  | done | trailing => cases hc
  | literal _ _ ih => simpa using (List.mem_cons.1 hc).imp Piece.literal.inj ih
  | colon _ ih =>
    rcases List.mem_cons.1 hc with hc | hc
    · cases hc
      exact List.mem_cons_self
    · exact List.mem_cons_of_mem _ (List.mem_cons_of_mem _ (ih hc))
  | assign _ ih =>
    simp only [List.mem_cons, Piece.literal.injEq] at hc ⊢
    exact hc.imp_right (.imp_right ih)
  | parameter _ _ ih =>
    have hc := ih ((List.mem_cons.1 hc).resolve_left (by simp))
    exact List.mem_cons_of_mem _ (List.mem_append_right _ hc)

theorem not_isDigit_of_not_isNameChar {c : Char} (h : isNameChar c = false) :
    c.isDigit = false := by
  simp only [isNameChar, Bool.or_eq_false_iff] at h
  exact h.1.1.2

/-- The SQL behind a placeholder does not go on with digits. -/
theorem not_isDigit_behind {name : List Char}
    (h : (.parameter name :: ps).IsChain Piece.MayPrecede) (d : Dialect) (k : Nat) (c : Char)
    (hc : (render d k ps).toList.head? = some c) : c.isDigit = false := by
  obtain ⟨hhead, -⟩ := List.isChain_cons.1 h
  cases ps with
  | nil => cases hc
  | cons p ps =>
    have hp := hhead p rfl
    cases p with
    | parameter => exact absurd hp id
    | literal x =>
      rw [toList_render_literal] at hc
      cases hc
      exact not_isDigit_of_not_isNameChar hp

/-! ## In order -/

theorem length_names (ps : List Piece) :
    (ps.filterMap Piece.name?).length = ps.countP Piece.isParameter := by
  rw [List.length_filterMap_eq_countP]
  congr 1
  funext p
  cases p <;> rfl

theorem render_append (d : Dialect) (k : Nat) (ps qs : List Piece) :
    render d k (ps ++ qs) = render d k ps ++ render d (k + ps.countP Piece.isParameter) qs := by
  induction ps generalizing k with
  | nil => simp [render]
  | cons p ps ih =>
    cases p with
    | literal c =>
      rw [List.cons_append, render, ih, render, String.append_assoc,
        List.countP_cons_of_neg (by simp [Piece.isParameter])]
    | parameter name =>
      rw [List.cons_append, render, ih, render, String.append_assoc,
        List.countP_cons_of_pos (by rfl), Nat.add_assoc, Nat.add_comm 1]

/-- One `m` for each parameter, if each placeholder has one. -/
theorem count_render {d : Dialect} {m : Char}
    (hfilled : ∀ k name, ((Piece.parameter name).filled d k).toList.count m = 1)
    (hliteral : .literal m ∉ ps) (k : Nat) :
    (render d k ps).toList.count m = ps.countP Piece.isParameter := by
  induction ps generalizing k with
  | nil => rfl
  | cons p ps ih =>
    obtain ⟨hp, hps⟩ := List.ne_and_not_mem_of_not_mem_cons hliteral
    cases p with
    | literal c =>
      have hc : c ≠ m := fun e => hp (by rw [e])
      rw [toList_render_literal, List.count_cons_of_ne hc, ih hps,
        List.countP_cons_of_neg (by simp [Piece.isParameter])]
    | parameter name =>
      rw [toList_render_parameter, List.count_append, hfilled, ih hps,
        List.countP_cons_of_pos (by rfl), Nat.add_comm]

/-- The tokens of the SQL count up from the first number. -/
theorem tokens_render {d : Dialect} {m : Char} {mark : String} (h : StartsMark m mark)
    (hfilled : ∀ k name, (Piece.parameter name).filled d k = mark ++ toString k)
    (hchain : ps.IsChain Piece.MayPrecede) (hliteral : .literal m ∉ ps) (k : Nat) :
    tokens mark (render d k ps).toList =
      (List.range' k (ps.countP Piece.isParameter)).map fun j => mark ++ toString j := by
  induction ps generalizing k with
  | nil => simp [tokens, numbered?]
  | cons p ps ih =>
    obtain ⟨hp, hps⟩ := List.ne_and_not_mem_of_not_mem_cons hliteral
    have htail : ps.IsChain Piece.MayPrecede := (List.isChain_cons.1 hchain).2
    cases p with
    | literal c =>
      have hc : m ∉ [c] := fun hm => hp (by rw [List.mem_singleton.1 hm])
      have hskip := tokens_append h hc (render d k ps).toList
      rw [List.singleton_append] at hskip
      rw [toList_render_literal, hskip, ih htail hps,
        List.countP_cons_of_neg (by simp [Piece.isParameter])]
    | parameter name =>
      have hbehind := not_isDigit_behind hchain d (k + 1)
      rw [toList_render_parameter, hfilled, tokens_number h k hbehind, ih htail hps,
        List.countP_cons_of_pos (by rfl), List.range'_succ, List.map_cons]

/-- In a dialect that numbers its placeholders, they are the tokens of its mark. -/
theorem tokens_of_compile {d : Dialect} {m : Char} {mark : String} (h : StartsMark m mark)
    (hfilled : ∀ k name, (Piece.parameter name).filled d k = mark ++ toString k) {t : String}
    {q : Compiled} (hq : compile t d = .ok q) (hm : m ∉ t.toList) :
    tokens mark q.sql.toList = (List.range' 1 q.names.length).map (fun j => mark ++ toString j) ∧
      q.sql.toList.count m = q.names.length := by
  obtain ⟨ps, hread, rfl⟩ := compile_eq_ok_iff.1 hq
  have hliteral : .literal m ∉ ps := fun hc => hm (hread.mem_of_literal hc)
  simp only [length_names]
  exact ⟨tokens_render h hfilled hread.isChain hliteral 1,
    count_render (fun k name => by rw [hfilled, count_number h]) hliteral 1⟩

/-- Placeholders and names correspond. Where the template does not hold the sign
of the dialect, the SQL read again has just the placeholders of the names, in
order; and whatever it holds, no digit stands behind a placeholder. -/
theorem placeholders_line_up (t : String) :
    (∀ q, compile t .dollar = .ok q → '$' ∉ t.toList →
      tokens "$" q.sql.toList = (List.range' 1 q.names.length).map (fun j => "$" ++ toString j) ∧
        q.sql.toList.count '$' = q.names.length) ∧
    (∀ q, compile t .atSign = .ok q → '@' ∉ t.toList →
      tokens "@p" q.sql.toList = (List.range' 1 q.names.length).map (fun j => "@p" ++ toString j) ∧
        q.sql.toList.count '@' = q.names.length) ∧
    (∀ d q, d = .question ∨ d = .unknown → compile t d = .ok q → '?' ∉ t.toList →
      q.sql.toList.count '?' = q.names.length) ∧
    ∀ d q, compile t d = .ok q → ∃ ps, Reads 0 t.toList (.ok ps) ∧
      ∀ before name after, ps = before ++ .parameter name :: after →
        let k := before.countP Piece.isParameter + 1
        q.sql = render d 1 before ++ (Piece.parameter name).filled d k ++ render d (k + 1) after ∧
          ∀ c, (render d (k + 1) after).toList.head? = some c → c.isDigit = false := by
  refine ⟨fun q hq hm => tokens_of_compile startsMark_dollar (fun k name => rfl) hq hm,
    fun q hq hm => tokens_of_compile startsMark_at (fun k name => rfl) hq hm,
    fun d q hd hq hm => ?_, fun d q hq => ?_⟩
  · obtain ⟨ps, hread, rfl⟩ := compile_eq_ok_iff.1 hq
    have hliteral : .literal '?' ∉ ps := fun hc => hm (hread.mem_of_literal hc)
    rw [length_names]
    refine count_render (fun k name => ?_) hliteral 1
    rcases hd with rfl | rfl <;> simp only [Piece.filled] <;> decide
  · obtain ⟨ps, hread, rfl⟩ := compile_eq_ok_iff.1 hq
    refine ⟨ps, hread, ?_⟩
    rintro before name after rfl k
    have hchain := (List.isChain_append.1 hread.isChain).2.1
    refine ⟨?_, not_isDigit_behind hchain d (k + 1)⟩
    rw [render_append, render, Nat.add_comm 1, String.append_assoc]

/-- A superscript digit ends a name; behind the placeholder it is no digit. -/
theorem placeholders_line_up_superscript :
    compile "x=:a, y=:b²" .dollar = .ok ⟨"x=$1, y=$2²", ["a", "b"]⟩ ∧
      '$' ∉ "x=:a, y=:b²".toList ∧ tokens "$" "x=$1, y=$2²".toList = ["$1", "$2"] ∧
      "x=$1, y=$2²".toList.count '$' = 2 := by
  have hq : compile "x=:a, y=:b²" .dollar = .ok ⟨"x=$1, y=$2²", ["a", "b"]⟩ := by decide +kernel
  have hm : '$' ∉ "x=:a, y=:b²".toList := by decide
  exact ⟨hq, hm, (placeholders_line_up "x=:a, y=:b²").1 _ hq hm⟩

end SqlCatalog.Template
