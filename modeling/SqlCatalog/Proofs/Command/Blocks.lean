import Mathlib.Data.List.Forall2
import SqlCatalog.Proofs.Catalog.Validation
import SqlCatalog.Proofs.Except
/-!
# What is printed of a catalog

To compile statements is to print a block of lines for each, in the order asked for.
It is all or nothing: the first statement that cannot be compiled is the error, and
nothing is printed of those before it (`compile_all_or_nothing`).
-/
namespace SqlCatalog

/-! ## Statements of a catalog -/

namespace Catalog

variable {c : Catalog} {d : Dialect} {id : String}

/-- The statement has a template that compiles to this. -/
def CompilesTo (c : Catalog) (d : Dialect) (id : String) (q : Compiled) : Prop :=
  ∃ t, c.find? id = some t ∧ Template.compile t d = .ok q

/-- Why a statement cannot be compiled: there is none, or it is malformed. -/
inductive Refused (c : Catalog) (d : Dialect) (id : String) : Failure → Prop
  | unknown (h : c.find? id = none) : Refused c d id (.unknownStatement id)
  | malformed {i : Nat} (h : c.MalformedAt d id i) : Refused c d id (.malformedTemplate i)

/-- The first of these statements that cannot be compiled, and why. -/
def FirstRefused (c : Catalog) (d : Dialect) (ids : List String) (id : String) (e : Failure) :
    Prop :=
  ∃ before after, ids = before ++ id :: after ∧ (∀ x ∈ before, ∃ q, c.CompilesTo d x q) ∧
    c.Refused d id e

theorem compile_eq_ok_iff {q : Compiled} : c.compile id d = .ok q ↔ c.CompilesTo d id q := by
  rw [compile, CompilesTo]
  cases c.find? id with
  | none => simp
  | some t => simp

theorem compile_eq_error_iff {e : Failure} : c.compile id d = .error e ↔ c.Refused d id e := by
  rw [compile]
  constructor
  · intro h
    cases hid : c.find? id with
    | none =>
      rw [hid] at h
      cases h
      exact .unknown hid
    | some t =>
      rw [hid] at h
      obtain ⟨i, rfl⟩ := Template.malformed_of_compile h
      exact .malformed ⟨t, hid, h⟩
  · rintro (hid | ⟨t, hid, ht⟩)
    · rw [hid]
    · rw [hid]
      exact ht

end Catalog

namespace Command

variable {c : Catalog} {d : Dialect} {ids : List String} {text : String}

/-! ## Blocks -/

/-- Lines, each with its end. -/
def unlines (lines : List String) : String := String.join (lines.map (· ++ "\n"))

/-- The lines printed for a statement: its id and the dialect, the SQL, the names of
its parameters if it has any, and an empty line. -/
def blockLines (d : Dialect) (id : String) (q : Compiled) : List String :=
  ["-- " ++ id ++ " (" ++ d.name ++ ")", q.sql] ++
    (if q.names = [] then [] else ["-- params: " ++ ", ".intercalate q.names]) ++ [""]

theorem block_eq_unlines (d : Dialect) (id : String) (q : Compiled) :
    block id d q = unlines (blockLines d id q) := by
  have hbreak : ")\n" = ")" ++ "\n" := rfl
  by_cases hnames : q.names = [] <;>
    simp [block, blockLines, unlines, hnames, toString, hbreak, String.append_assoc]

/-- The blocks of statements, one behind the other. -/
def printed (d : Dialect) (ids : List String) (qs : List Compiled) : String :=
  String.join (List.zipWith (fun id q => unlines (blockLines d id q)) ids qs)

theorem printed_cons (d : Dialect) (id : String) (ids : List String) (q : Compiled)
    (qs : List Compiled) : printed d (id :: ids) (q :: qs) = block id d q ++ printed d ids qs := by
  rw [block_eq_unlines, printed, printed, List.zipWith_cons_cons, String.join_cons]

theorem blocks_eq_ok_iff :
    blocks c d ids = .ok text ↔
      ∃ qs, List.Forall₂ (c.CompilesTo d) ids qs ∧ text = printed d ids qs := by
  induction ids generalizing text with
  | nil => simp [blocks, printed, eq_comm]
  | cons id ids ih =>
    rw [blocks]
    cases hid : c.compile id d with
    | error e =>
      have hno : ∀ q, ¬c.CompilesTo d id q := by
        intro q hq
        rw [Catalog.compile_eq_ok_iff.2 hq] at hid
        cases hid
      simp [List.forall₂_cons_left_iff, hno]
    | ok q =>
      have hq := Catalog.compile_eq_ok_iff.1 hid
      simp only [Except.map_eq_ok_iff, ih]
      constructor
      · rintro ⟨_, ⟨qs, hqs, rfl⟩, rfl⟩
        exact ⟨q :: qs, .cons hq hqs, (printed_cons d id ids q qs).symm⟩
      · rintro ⟨_, hall, rfl⟩
        obtain ⟨q', qs, hq', hqs, rfl⟩ := List.forall₂_cons_left_iff.1 hall
        rw [Catalog.compile_eq_ok_iff.2 hq'] at hid
        cases hid
        exact ⟨_, ⟨qs, hqs, rfl⟩, (printed_cons d id ids q qs).symm⟩

theorem blocks_eq_error_iff {id : String} {e : Failure} :
    blocks c d ids = .error (id, e) ↔ c.FirstRefused d ids id e := by
  induction ids with
  | nil => simp [blocks, Catalog.FirstRefused]
  | cons x ids ih =>
    rw [blocks]
    cases hx : c.compile x d with
    | error e' =>
      constructor
      · rintro ⟨⟩
        exact ⟨[], ids, rfl, List.forall_mem_nil _, Catalog.compile_eq_error_iff.1 hx⟩
      · rintro ⟨before, after, hl, hbefore, hrefused⟩
        cases before with
        | nil =>
          cases hl
          rw [Catalog.compile_eq_error_iff.2 hrefused] at hx
          cases hx
          rfl
        | cons y before =>
          obtain ⟨rfl, rfl⟩ := List.cons.inj hl
          obtain ⟨q, hq⟩ := (List.forall_mem_cons.1 hbefore).1
          rw [Catalog.compile_eq_ok_iff.2 hq] at hx
          cases hx
    | ok q =>
      -- A block was built; an error behind it is still the whole answer.
      rw [Except.map_eq_error_iff, ih]
      constructor
      · rintro ⟨before, after, rfl, hbefore, hrefused⟩
        exact ⟨x :: before, after, rfl,
          List.forall_mem_cons.2 ⟨⟨q, Catalog.compile_eq_ok_iff.1 hx⟩, hbefore⟩, hrefused⟩
      · rintro ⟨before, after, hl, hbefore, hrefused⟩
        cases before with
        | nil =>
          cases hl
          rw [Catalog.compile_eq_error_iff.2 hrefused] at hx
          cases hx
        | cons y before =>
          obtain ⟨rfl, rfl⟩ := List.cons.inj hl
          exact ⟨before, after, rfl, (List.forall_mem_cons.1 hbefore).2, hrefused⟩

/-- Blocks of one list behind those of another. -/
theorem blocks_append (c : Catalog) (d : Dialect) (a b : List String) :
    blocks c d (a ++ b) = (blocks c d a).bind fun x => (blocks c d b).map (x ++ ·) := by
  induction a with
  | nil =>
    rw [List.nil_append, blocks]
    cases blocks c d b <;> simp [Except.bind, Except.map]
  | cons id a ih =>
    rw [List.cons_append, blocks, blocks, ih]
    cases c.compile id d with
    | error e => rfl
    | ok q =>
      cases blocks c d a with
      | error e => rfl
      | ok x => cases blocks c d b <;> simp [Except.bind, Except.map, String.append_assoc]

/-! ## A catalog file -/

section
open Toml

/-- A document is read in three stages: its tokens, its expressions and its tables. -/
theorem parse_of_stages {document : String} {tokens : List Token} {expressions : List Expression}
    {members : Members} (htokens : Token.split (skipMark document.toList) = some tokens)
    (hexpressions : Expression.ofTokens? tokens = some expressions)
    (hmembers : assemble [] .root expressions = .ok members)
    (hvalid : membersValid members = true) : Toml.parse document = .ok members := by
  refine Except.bind_eq_ok_iff.2 ⟨tokens, by rw [htokens, orMalformed], ?_⟩
  refine Except.bind_eq_ok_iff.2 ⟨expressions, by rw [hexpressions, orMalformed], ?_⟩
  exact Except.bind_eq_ok_iff.2 ⟨members, hmembers, if_pos hvalid⟩

/-- One table with two keys. The readers of tokens and of quoted text do not unfold by
themselves, so each stage is evaluated on its own. -/
theorem parse_twoStatements :
    Declaration.parse "[statements]\nb = \"x = :x, :y\"\nbad = \":k:v\"\n" =
      .ok ⟨none, none, KeyMap.ofList [("b", "x = :x, :y"), ("bad", ":k:v")]⟩ := by
  let name := ['s', 't', 'a', 't', 'e', 'm', 'e', 'n', 't', 's']
  let first := ['"', 'x', ' ', '=', ' ', ':', 'x', ',', ' ', ':', 'y', '"']
  let second := ['"', ':', 'k', ':', 'v', '"']
  let tokens : List Token :=
    [.openBracket, .atom name, .closeBracket, .newline,
      .atom ['b'], .space, .equals, .space, .quoted first, .newline,
      .atom ['b', 'a', 'd'], .space, .equals, .space, .quoted second, .newline]
  let expressions : List Expression :=
    [.header [.bare name], .assign [.bare ['b']] (.quoted first),
      .assign [.bare ['b', 'a', 'd']] (.quoted second)]
  have hchars : skipMark "[statements]\nb = \"x = :x, :y\"\nbad = \":k:v\"\n".toList =
      ['['] ++ name ++ [']', '\n', 'b', ' ', '=', ' '] ++ first ++
        ['\n', 'b', 'a', 'd', ' ', '=', ' '] ++ second ++ ['\n'] := rfl
  have htokens : Token.split (skipMark
      "[statements]\nb = \"x = :x, :y\"\nbad = \":k:v\"\n".toList) = some tokens := by
    rw [hchars]
    simp [name, first, second, tokens, Token.split, Token.scan, Token.ofMark?, Token.isAtomChar,
      Token.startsEscape]
  have hfirst : Quoting.text? first = some ("x = :x, :y", []) := by
    simp [first, Quoting.text?, Quoting.line?, Quoting.body, Quoting.isTextChar, Quoting.push]
  have hsecond : Quoting.text? second = some (":k:v", []) := by
    simp [second, Quoting.text?, Quoting.line?, Quoting.body, Quoting.isTextChar, Quoting.push]
  have hmembers : assemble [] .root expressions =
      .ok [("statements", .table .header [("b", .text "x = :x, :y"), ("bad", .text ":k:v")])] := by
    simp only [expressions, assemble, Term.node, quotedOf?, hfirst, hsecond]
    rfl
  rw [Declaration.parse, parse_of_stages htokens rfl hmembers rfl]
  rfl

end

/-! ## The statements asked for -/

/-- The statements that a request asks for: those that it lists, or all of the catalog,
each once and in the order of their UTF-8 bytes. -/
inductive Asked (c : Catalog) : List String → List String → Prop
  | listed {ids : List String} (h : ids ≠ []) : Asked c ids ids
  | all {ids : List String} (order : ids.Pairwise fun a b => Text.utf8 a < Text.utf8 b)
      (mem : ∀ id, id ∈ ids ↔ ∃ t, c.find? id = some t) : Asked c [] ids

theorem asked_keys (c : Catalog) : Asked c [] c.keys := by
  refine .all ?_ fun id => ?_
  · rw [KeyMap.keys, List.pairwise_map]
    exact c.sorted.imp Text.lt_iff_utf8_lt.1
  · rw [KeyMap.mem_keys_iff, Option.isSome_iff_exists]

theorem render_of_ne_nil (c : Catalog) (d : Dialect) (h : ids ≠ []) :
    render c d ids = blocks c d ids := by
  rw [render, if_neg (by simpa using h)]

theorem exists_asked (c : Catalog) (d : Dialect) (ids : List String) :
    ∃ asked, Asked c ids asked ∧ render c d ids = blocks c d asked := by
  cases ids with
  | nil => exact ⟨c.keys, asked_keys c, rfl⟩
  | cons id ids =>
    have hne : id :: ids ≠ [] := List.cons_ne_nil id ids
    exact ⟨id :: ids, .listed hne, render_of_ne_nil c d hne⟩

theorem render_append {a b : List String} {x y : String} (ha : a ≠ []) (hb : b ≠ [])
    (hx : render c d a = .ok x) (hy : render c d b = .ok y) :
    render c d (a ++ b) = .ok (x ++ y) := by
  rw [render_of_ne_nil c d ha] at hx
  rw [render_of_ne_nil c d hb] at hy
  rw [render_of_ne_nil c d (List.append_ne_nil_of_left_ne_nil ha b), blocks_append, hx, hy]
  rfl

/-- Whatever statements are asked for, either the first of them that cannot be
compiled is the error, or their blocks are the text, one behind the other. The command
prints that text or nothing at all. And lists of statements are printed one behind the
other, unless one of them is empty. -/
theorem compile_all_or_nothing (c : Catalog) (d : Dialect) :
    (∀ ids, ∃ asked, Asked c ids asked ∧
      (∀ id e, render c d ids = .error (id, e) ↔ c.FirstRefused d asked id e) ∧
      ∀ text, render c d ids = .ok text ↔
        ∃ qs, List.Forall₂ (c.CompilesTo d) asked qs ∧ text = printed d asked qs) ∧
    (∀ a b x y, a ≠ [] → b ≠ [] → render c d a = .ok x → render c d b = .ok y →
      render c d (a ++ b) = .ok (x ++ y)) ∧
    ∀ host (r : CompileRequest) declaration,
      readDeclaration host r.catalog = .ok declaration → declaration.catalog = c →
      r.source.resolve declaration = d →
      (∀ text, render c d r.statements = .ok text → runCompile r host = ⟨text, none, none⟩) ∧
      ∀ id e, render c d r.statements = .error (id, e) →
        runCompile r host = ⟨"", some s!"failed to compile {id}: {e.message}", none⟩ := by
  refine ⟨fun ids => ?_, fun a b x y => render_append, ?_⟩
  · obtain ⟨asked, hasked, hrender⟩ := exists_asked c d ids
    rw [hrender]
    exact ⟨asked, hasked, fun id e => blocks_eq_error_iff, fun text => blocks_eq_ok_iff⟩
  · rintro host r declaration hread rfl rfl
    constructor
    · intro text htext
      simp only [runCompile, hread, htext, Outcome.ok]
    · intro id e herror
      simp only [runCompile, hread, herror, Outcome.fail]

/-- Two lists that are printed, and a request that fails after its first block, at a
malformed statement and not at the unknown one behind it. -/
theorem compile_all_or_nothing_selected :
    let c : Catalog := KeyMap.ofList [("b", "x = :x, :y"), ("bad", ":k:v")]
    let document := "[statements]\nb = \"x = :x, :y\"\nbad = \":k:v\"\n"
    let host : Host := ⟨fun _ => .ok document, fun _ => none⟩
    let text := "-- b (dollar)\nx = $1, $2\n-- params: x, y\n\n"
    let reason := "unexpected `:` while reading named parameter at 2"
    render c .dollar ["b", "b"] = .ok (text ++ text) ∧
      runCompile ⟨"c.toml", .dialect .dollar, ["b", "bad", "none"]⟩ host =
        ⟨"", some ("failed to compile bad: " ++ reason), none⟩ := by
  intro c document host text reason
  have hread : readDeclaration host "c.toml" = .ok ⟨none, none, c⟩ := by
    simp only [readDeclaration, host, document, Except.mapError, Declaration.ofFile,
      parse_twoStatements, c]
  obtain ⟨-, happend, hrun⟩ := compile_all_or_nothing c .dollar
  have hb : render c .dollar ["b"] = .ok text := by decide +kernel
  refine ⟨happend _ _ _ _ (by simp) (by simp) hb hb, ?_⟩
  have hfails : render c .dollar ["b", "bad", "none"] = .error ("bad", .malformedTemplate 2) := by
    decide +kernel
  exact (hrun host ⟨"c.toml", .dialect .dollar, ["b", "bad", "none"]⟩ _ hread rfl rfl).2 _ _ hfails

end Command

end SqlCatalog
