import Mathlib.Data.List.Chain
import SqlCatalog.Proofs.Template.Reading
/-!
# Printing templates

An `Outline` is a template before it is written down: texts, which stand for
themselves, and named parameters between them. It prints with every `:` of its
texts doubled and a `:` before each name, and what is printed compiles to the
texts as they are and the parameters in their places (`compile_print`).

No character behind a parameter may go on with its name, so two parameters do
not meet, and a text behind one starts with neither a name character nor a `:`.
Nothing else is asked: a text may end in `:` or start with `=`.
-/
namespace SqlCatalog.Template

/-! ## Escaping -/

/-- Every `:` twice. -/
def doubleColons (text : List Char) : List Char :=
  text.flatMap fun c => if c = ':' then [':', ':'] else [c]

theorem doubleColons_cons (c : Char) (text : List Char) :
    doubleColons (c :: text) = (if c = ':' then [':', ':'] else [c]) ++ doubleColons text :=
  List.flatMap_cons

/-- Escaping keeps the first character. -/
theorem head?_doubleColons_cons (c : Char) (text rest : List Char) :
    (doubleColons (c :: text) ++ rest).head? = some c := by
  rw [doubleColons_cons]
  by_cases hc : c = ':'
  · simp [hc]
  · simp [hc]

/-- An escaped text is read as its characters, wherever it stands. -/
theorem Reads.doubleColons {rest : List Char} {ps : List Piece}
    (h : ∀ i, Reads i rest (.ok ps)) (text : List Char) (i : Nat) :
    Reads i (doubleColons text ++ rest) (.ok (text.map .literal ++ ps)) := by
  induction text generalizing i with
  | nil => exact h i
  | cons c text ih =>
    rw [doubleColons_cons, List.append_assoc]
    by_cases hc : c = ':'
    · subst hc
      exact .colon (r := .ok _) (ih (i + 2))
    · rw [if_neg hc]
      exact .literal (r := .ok _) hc (ih (i + 1))

/-- Literals are written as they are. -/
theorem render_text (d : Dialect) (k : Nat) (text : List Char) (ps : List Piece) :
    render d k (text.map .literal ++ ps) = String.ofList text ++ render d k ps := by
  rw [← String.toList_inj, String.toList_append, String.toList_ofList]
  induction text with
  | nil => rfl
  | cons c text ih =>
    rw [List.map_cons, List.cons_append, toList_render_literal, ih, List.cons_append]

theorem names_text (text : List Char) (ps : List Piece) :
    (text.map Piece.literal ++ ps).filterMap Piece.name? = ps.filterMap Piece.name? := by
  induction text with
  | nil => rfl
  | cons c text ih => rw [List.map_cons, List.cons_append, List.filterMap_cons_none rfl, ih]

/-! ## Outlines -/

/-- A part of a template that is still to be printed. -/
inductive Segment
  | text (s : String) (ne_empty : s ≠ "")
  | parameter (name : String) (ne_empty : name ≠ "")
      (chars : ∀ c ∈ name.toList, isNameChar c = true)

namespace Segment

/-- May these two stand one behind the other? Behind a parameter stands text
whose first character could not go on with the name. -/
def MayPrecede : Segment → Segment → Prop
  | text .., _ => True
  | parameter .., text s _ => ∀ c, s.toList.head? = some c → isNameChar c = false ∧ c ≠ ':'
  | parameter .., parameter .. => False

def print : Segment → List Char
  | text s _ => doubleColons s.toList
  | parameter name .. => ':' :: name.toList

def name? : Segment → Option String
  | text .. => none
  | parameter name .. => some name

/-- The SQL of segments whose first parameter has the number `k`. -/
def written (d : Dialect) : Nat → List Segment → String
  | _, [] => ""
  | k, text s _ :: rest => s ++ written d k rest
  | k, parameter name .. :: rest =>
    (Piece.parameter name.toList).filled d k ++ written d (k + 1) rest

/-- What is read where a segment was printed. -/
def pieces : Segment → List Piece
  | text s _ => s.toList.map .literal
  | parameter name .. => [.parameter name.toList]

theorem render_pieces (d : Dialect) (k : Nat) (segments : List Segment) :
    render d k (segments.flatMap pieces) = written d k segments := by
  induction segments generalizing k with
  | nil => rfl
  | cons s segments ih =>
    rw [List.flatMap_cons]
    cases s with
    | text s _ => rw [pieces, render_text, String.ofList_toList, ih, written]
    | parameter name => rw [pieces, List.singleton_append, render, ih, written]

theorem names_pieces (segments : List Segment) :
    (segments.flatMap pieces).filterMap Piece.name? = segments.filterMap name? := by
  induction segments with
  | nil => rfl
  | cons s segments ih =>
    rw [List.flatMap_cons]
    cases s with
    | text s _ => rw [pieces, names_text, ih, List.filterMap_cons_none rfl]
    | parameter name =>
      have hname : (Piece.parameter name.toList).name? = some name := by simp [Piece.name?]
      rw [pieces, List.singleton_append, List.filterMap_cons_some hname, ih]
      rfl

/-- A parameter ends where the segment behind it begins. -/
theorem endsName_print {name : String} (ne_empty : name ≠ "")
    (chars : ∀ c ∈ name.toList, isNameChar c = true) {segments : List Segment}
    (h : ∀ s ∈ segments.head?, (parameter name ne_empty chars).MayPrecede s) :
    EndsName name.toList (segments.flatMap print) := by
  have hname : name.toList ≠ [] := by simpa using ne_empty
  have hhead : ∀ c, (segments.flatMap print).head? = some c → isNameChar c = false ∧ c ≠ ':' := by
    intro c hc
    cases segments with
    | nil => cases hc
    | cons s segments =>
      have hs := h s rfl
      cases s with
      | parameter => exact absurd hs id
      | text s hne =>
        obtain ⟨x, text, hx⟩ := List.exists_cons_of_ne_nil (l := s.toList) (by simpa using hne)
        rw [List.flatMap_cons, print, hx, head?_doubleColons_cons] at hc
        exact hs c (by rw [hx]; exact hc)
  exact ⟨chars, fun c hc => (hhead c hc).1, fun hc => (hhead _ hc).2 rfl,
    fun hnil => absurd hnil hname⟩

theorem reads_print {segments : List Segment} (h : segments.IsChain MayPrecede) (i : Nat) :
    Reads i (segments.flatMap print) (.ok (segments.flatMap pieces)) := by
  induction segments generalizing i with
  | nil => exact .done
  | cons s segments ih =>
    obtain ⟨hhead, htail⟩ := List.isChain_cons.1 h
    rw [List.flatMap_cons, List.flatMap_cons]
    cases s with
    | text s _ => exact .doubleColons (ih htail) _ i
    | parameter name ne_empty chars =>
      exact .named (endsName_print ne_empty chars hhead) (ih htail _)

end Segment

/-- Segments that can be told apart when they are printed one behind the other. -/
structure Outline where
  segments : List Segment
  apart : segments.IsChain Segment.MayPrecede

namespace Outline

/-- The template. -/
def print (o : Outline) : String := String.ofList (o.segments.flatMap Segment.print)

/-- The texts with the placeholders of a dialect between them. -/
def sql (o : Outline) (d : Dialect) : String := Segment.written d 1 o.segments

def names (o : Outline) : List String := o.segments.filterMap Segment.name?

end Outline

/-- What is printed compiles to what was meant, under every dialect; a text with
its colons doubled is a template for that text. -/
theorem compile_print :
    (∀ (o : Outline) (d : Dialect), compile o.print d = .ok ⟨o.sql d, o.names⟩) ∧
      ∀ (text : String) (d : Dialect),
        compile (String.ofList (doubleColons text.toList)) d = .ok ⟨text, []⟩ := by
  refine ⟨fun o d => ?_, fun text d => ?_⟩
  · rw [compile_eq_ok_iff, Outline.print, String.toList_ofList]
    refine ⟨_, Segment.reads_print o.apart 0, ?_⟩
    rw [Segment.render_pieces, Segment.names_pieces]
    rfl
  · have hread := Reads.doubleColons (fun i => Reads.done (i := i)) text.toList 0
    rw [List.append_nil] at hread
    rw [compile_eq_ok_iff, String.toList_ofList]
    refine ⟨_, hread, ?_⟩
    rw [render_text, names_text]
    simp [render]

/-- Texts with colons at both sides of a parameter. -/
def colonsAround : Outline where
  segments := [.text "a:" (by decide), .parameter "x" (by decide) (List.all_eq_true.1 (by decide)),
    .text "=:b" (by decide)]
  apart := by
    refine .cons_cons trivial (.cons_cons ?_ (.singleton _))
    intro c hc
    obtain rfl : '=' = c := by simpa using hc
    decide

/-- A text that ends in `:` and one that starts with `=`. -/
theorem compile_print_colonsAround :
    colonsAround.print = "a:::x=::b" ∧ colonsAround.sql .dollar = "a:$1=:b" ∧
      colonsAround.names = ["x"] ∧
      compile "a:::x=::b" .dollar = .ok ⟨"a:$1=:b", ["x"]⟩ := by
  have hprint : colonsAround.print = "a:::x=::b" := by decide
  have hsql : colonsAround.sql .dollar = "a:$1=:b" := by decide
  have hcompile := compile_print.1 colonsAround .dollar
  rw [hprint, hsql] at hcompile
  exact ⟨hprint, hsql, rfl, hcompile⟩

end SqlCatalog.Template
