import SqlCatalog.Proofs.Except
import SqlCatalog.Template.Compile
/-!
# Templates in pieces

A template falls into literal characters and parameters before any SQL is
written. `scan` finds them with a name as its only memory: it does not ask what
character came before, nor whether one is the last, and knows no dialect. The
scanner, which does ask and writes SQL meanwhile, goes in step with it
(`run_eq`). So compiling is to find the pieces and to `render` them
(`compile_eq`), and whether a template compiles does not depend on the dialect
(`compile_error_iff`).
-/
namespace SqlCatalog.Template

/-- A part of a template. -/
inductive Piece
  | literal (c : Char)
  | parameter (name : List Char)
deriving DecidableEq

namespace Piece

def isParameter : Piece → Bool
  | literal _ => false
  | parameter _ => true

/-- The name of a parameter. -/
def name? : Piece → Option String
  | literal _ => none
  | parameter name => some (String.ofList name)

/-- What stands in the SQL for a piece: for a parameter that is the `k`-th one,
its placeholder. -/
def filled (d : Dialect) (k : Nat) : Piece → String
  | literal c => String.singleton c
  | parameter name =>
    match d with
    | .question | .unknown => "?"
    | .dollar => "$" ++ toString k
    | .atSign => "@p" ++ toString k
    | .named => ":" ++ String.ofList name

end Piece

/-- Where reading stands: in literal text, or behind a `:` with the name so far. -/
inductive Place
  | literal
  | name (read : List Char)
deriving DecidableEq

/-- The pieces of the rest of a template, which starts at character `index`. -/
def scan : Place → Nat → List Char → Except Failure (List Piece)
  | .literal, _, [] => .ok []
  | .name [], _, [] => .ok []
  | .name name, _, [] => .ok [.parameter name]
  | .literal, index, c :: rest =>
    if c = ':' then scan (.name []) (index + 1) rest
    else (scan .literal (index + 1) rest).map (.literal c :: ·)
  | .name name, index, c :: rest =>
    if c = ':' then
      if name = [] then (scan .literal (index + 1) rest).map (.literal ':' :: ·)
      else .error (.malformedTemplate index)
    else if c = '=' ∧ name = [] then
      (scan .literal (index + 1) rest).map ([.literal ':', .literal '='] ++ ·)
    else if isNameChar c then scan (.name (name ++ [c])) (index + 1) rest
    else (scan .literal (index + 1) rest).map ([.parameter name, .literal c] ++ ·)

/-- The pieces of a template. -/
def pieces (template : String) : Except Failure (List Piece) :=
  scan .literal 0 template.toList

/-- The SQL of pieces whose first parameter has the number `n`. -/
def render (d : Dialect) : Nat → List Piece → String
  | _, [] => ""
  | n, .literal c :: rest => String.singleton c ++ render d n rest
  | n, .parameter name :: rest => (Piece.parameter name).filled d n ++ render d (n + 1) rest

theorem scan_literal_cons (i : Nat) (c : Char) (rest : List Char) :
    scan .literal i (c :: rest) =
      if c = ':' then scan (.name []) (i + 1) rest
      else (scan .literal (i + 1) rest).map (.literal c :: ·) := rfl

theorem scan_name_cons (name : List Char) (i : Nat) (c : Char) (rest : List Char) :
    scan (.name name) i (c :: rest) =
      if c = ':' then
        if name = [] then (scan .literal (i + 1) rest).map (.literal ':' :: ·)
        else .error (.malformedTemplate i)
      else if c = '=' ∧ name = [] then
        (scan .literal (i + 1) rest).map ([.literal ':', .literal '='] ++ ·)
      else if isNameChar c then scan (.name (name ++ [c])) (i + 1) rest
      else (scan .literal (i + 1) rest).map ([.parameter name, .literal c] ++ ·) := by
  cases name <;> rfl

theorem scan_name_nil {name : List Char} (h : name ≠ []) (i : Nat) :
    scan (.name name) i [] = .ok [.parameter name] := by
  cases name with
  | nil => exact absurd rfl h
  | cons c name => rfl

theorem ne_colon_of_isNameChar {c : Char} (h : isNameChar c = true) : c ≠ ':' := by
  rintro rfl
  exact absurd h (by decide +kernel)

theorem ne_equals_of_isNameChar {c : Char} (h : isNameChar c = true) : c ≠ '=' := by
  rintro rfl
  exact absurd h (by decide +kernel)

/-! ## What one character does -/

namespace Scanner

variable {d : Dialect} {last i : Nat} {before : Option Char} {c : Char} {s s' : Scanner}

theorem step_open (h : s.state = .outside) :
    s.step d last i before ':' = .ok { s with state := .inName, name := "" } := by
  simp [step, h]

theorem step_literal (h : s.state = .outside) (hc : c ≠ ':') :
    s.step d last i before c = .ok { s with sql := s.sql.push c } := by
  simp [step, h, hc]

theorem step_colon (h : s.state = .inName) :
    s.step d last i (some ':') ':' = .ok { s with state := .outside, sql := s.sql.push ':' } := by
  simp [step, h]

theorem step_malformed (h : s.state = .inName) (hbefore : before ≠ some ':') :
    s.step d last i before ':' = .error (.malformedTemplate i) := by
  simp [step, h, hbefore]

theorem step_assign (h : s.state = .inName) (hname : s.name = "") :
    s.step d last i before '=' = .ok { s with state := .outside, sql := s.sql ++ ":=" } := by
  simp [step, h, hname]

theorem step_nameChar (h : s.state = .inName) (hc : isNameChar c = true) (hi : i ≠ last) :
    s.step d last i before c = .ok { s with name := s.name.push c } := by
  simp [step, h, hc, hi, ne_colon_of_isNameChar hc, ne_equals_of_isNameChar hc]

/-- A name that runs to the end of the template ends with it. -/
theorem step_last (h : s.state = .inName) (hc : isNameChar c = true) :
    s.step d last last before c = .ok ({ s with name := s.name.push c }.endName d) := by
  simp [step, h, hc, ne_colon_of_isNameChar hc, ne_equals_of_isNameChar hc]

theorem step_stop (h : s.state = .inName) (hc : c ≠ ':') (hassign : ¬(c = '=' ∧ s.name = ""))
    (hname : isNameChar c = false) :
    s.step d last i before c =
      .ok { s.endName d with sql := (s.endName d).sql.push c } := by
  simp only [step, h, if_neg hc, if_neg hassign, hname]
  rfl

theorem run_of_ok (h : s.step d last i before c = .ok s') (rest : List Char) :
    run d last i before (c :: rest) s = run d last (i + 1) (some c) rest s' := by
  rw [run, h]

theorem run_of_error {e : Failure} (h : s.step d last i before c = .error e) (rest : List Char) :
    run d last i before (c :: rest) s = .error e := by
  rw [run, h]

end Scanner

/-! ## Writing pieces -/

/-- Where placeholders have no numbers, it does not matter where counting starts. -/
theorem render_of_unnumbered {d : Dialect} (h : ∀ m n p, Piece.filled d m p = p.filled d n)
    (m n : Nat) (ps : List Piece) : render d m ps = render d n ps := by
  induction ps generalizing m n with
  | nil => rfl
  | cons p ps ih =>
    cases p with
    | literal c => rw [render, render, ih]
    | parameter name => rw [render, render, h m n, ih (m + 1) (n + 1)]

/-- What a scanner has written and these pieces. -/
def Scanner.written (d : Dialect) (s : Scanner) (ps : List Piece) : Compiled :=
  ⟨s.sql ++ render d s.next ps, s.names ++ ps.filterMap Piece.name?⟩

theorem written_nil (d : Dialect) (s : Scanner) : s.written d [] = s.compiled := by
  simp [Scanner.written, Scanner.compiled, render]

theorem written_push (d : Dialect) (s : Scanner) (state : ScanState) (c : Char) (ps : List Piece) :
    ({ s with state, sql := s.sql.push c } : Scanner).written d ps =
      s.written d (.literal c :: ps) := by
  simp only [Scanner.written, render, String.push_eq_append, String.append_assoc]
  rfl

theorem written_assign (d : Dialect) (s : Scanner) (ps : List Piece) :
    ({ s with state := .outside, sql := s.sql ++ ":=" } : Scanner).written d ps =
      s.written d ([.literal ':', .literal '='] ++ ps) := by
  simp only [Scanner.written, List.cons_append, List.nil_append, render, String.append_assoc]
  rfl

theorem written_endName {d : Dialect} {s : Scanner} {name : List Char}
    (h : s.name = String.ofList name) (ps : List Piece) :
    (s.endName d).written d ps = s.written d (.parameter name :: ps) := by
  have hnames : s.names ++ [s.name] ++ ps.filterMap Piece.name? =
      s.names ++ (Piece.parameter name :: ps).filterMap Piece.name? := by
    rw [h, List.append_assoc, List.filterMap_cons_some (f := Piece.name?) rfl]
    rfl
  have hsql : (s.writePlaceholder d).sql ++ render d (s.writePlaceholder d).next ps =
      s.sql ++ render d s.next (.parameter name :: ps) := by
    cases d with
    | dollar | atSign =>
      simp only [Scanner.writePlaceholder, render, Piece.filled, String.append_assoc]
    | question | unknown =>
      rw [render, render_of_unnumbered (fun m n p => by cases p <;> rfl) (s.next + 1) s.next]
      simp only [Scanner.writePlaceholder, Piece.filled, String.push_eq_append,
        String.append_assoc]
      rfl
    | named =>
      rw [render, render_of_unnumbered (fun m n p => by cases p <;> rfl) (s.next + 1) s.next]
      simp only [Scanner.writePlaceholder, Piece.filled, String.push_eq_append,
        String.append_assoc, h]
      rfl
  have hall : (s.endName d).written d ps =
      ⟨(s.writePlaceholder d).sql ++ render d (s.writePlaceholder d).next ps,
        s.names ++ [s.name] ++ ps.filterMap Piece.name?⟩ := rfl
  rw [hall, hsql, hnames]
  rfl

/-! ## In step -/

/-- The scanner stands where reading stands. What it looks back for is that no
name has begun; and it is never left with a name at the end of the template. -/
def Fits (place : Place) (before : Option Char) (rest : List Char) (s : Scanner) : Prop :=
  match place with
  | .literal => s.state = .outside
  | .name read => s.state = .inName ∧ s.name = String.ofList read ∧
      (before = some ':' ↔ read = []) ∧ (rest = [] → read = [])

/-- One character, taken by both: the scanner fits the place where reading goes
on, and has written what was read. -/
structure InStep (d : Dialect) (place : Place) (i : Nat) (c : Char) (rest : List Char)
    (s : Scanner) (place' : Place) (s' : Scanner) (f : List Piece → List Piece) : Prop where
  fits : Fits place' (some c) rest s'
  scan_eq : scan place i (c :: rest) = (scan place' (i + 1) rest).map f
  written_eq : ∀ ps, s'.written d ps = s.written d (f ps)

/-- Outside a name every character is taken. -/
theorem step_fits_literal (d : Dialect) {i last : Nat} {before : Option Char} {c : Char}
    {rest : List Char} {s : Scanner} (h : Fits .literal before (c :: rest) s) :
    ∃ place' s' f, s.step d last i before c = .ok s' ∧
      InStep d .literal i c rest s place' s' f := by
  have hstate : s.state = .outside := h
  by_cases hc : c = ':'
  · subst hc
    refine ⟨.name [], _, id, Scanner.step_open hstate, ⟨rfl, rfl, by simp, fun _ => rfl⟩, ?_,
      fun ps => rfl⟩
    rw [scan_literal_cons, if_pos rfl, Except.map_id, id]
  · refine ⟨.literal, _, _, Scanner.step_literal hstate hc, hstate, ?_,
      written_push d s s.state c⟩
    rw [scan_literal_cons, if_neg hc]

/-- In a name every character is taken but a `:` behind the first of it. -/
theorem step_fits_name (d : Dialect) {i : Nat} {before : Option Char} {c : Char}
    {rest read : List Char} {s : Scanner} (h : Fits (.name read) before (c :: rest) s) :
    (∃ place' s' f, s.step d (i + rest.length) i before c = .ok s' ∧
        InStep d (.name read) i c rest s place' s' f) ∨
      (s.step d (i + rest.length) i before c = .error (.malformedTemplate i) ∧
        scan (.name read) i (c :: rest) = .error (.malformedTemplate i)) := by
  obtain ⟨hstate, hname, hbefore, -⟩ := h
  have hempty : s.name = "" ↔ read = [] := by
    rw [hname, ← String.ofList_nil, String.ofList_inj]
  by_cases hc : c = ':'
  · subst hc
    by_cases hread : read = []
    · rw [hbefore.2 hread]
      refine .inl ⟨.literal, _, _, Scanner.step_colon hstate, rfl, ?_,
        written_push d s .outside ':'⟩
      rw [scan_name_cons, if_pos rfl, if_pos hread]
    · have hback : before ≠ some ':' := fun hb => hread (hbefore.1 hb)
      refine .inr ⟨Scanner.step_malformed hstate hback, ?_⟩
      rw [scan_name_cons, if_pos rfl, if_neg hread]
  by_cases hassign : c = '=' ∧ read = []
  · obtain ⟨rfl, hread⟩ := hassign
    refine .inl ⟨.literal, _, _, Scanner.step_assign hstate (hempty.2 hread), rfl, ?_,
      written_assign d s⟩
    rw [scan_name_cons, if_neg hc, if_pos ⟨rfl, hread⟩]
  by_cases hchar : isNameChar c = true
  · have hpush : s.name.push c = String.ofList (read ++ [c]) := by
      rw [hname, String.ofList_append, String.push_eq_append]
      rfl
    by_cases hrest : rest = []
    · -- the scanner ends the name here, where reading would find the end next
      subst hrest
      refine .inl ⟨.literal, _, _, Scanner.step_last hstate hchar, rfl, ?_,
        written_endName hpush⟩
      rw [scan_name_cons, if_neg hc, if_neg hassign, if_pos hchar, scan_name_nil (by simp)]
      rfl
    · have hi : i ≠ i + rest.length := by
        have := List.length_pos_iff.2 hrest
        omega
      refine .inl ⟨.name (read ++ [c]), _, id, Scanner.step_nameChar hstate hchar hi,
        ⟨hstate, hpush, by simp [hc], fun hr => absurd hr hrest⟩, ?_, fun ps => rfl⟩
      rw [scan_name_cons, if_neg hc, if_neg hassign, if_pos hchar, Except.map_id, id]
  · have hstop : ¬(c = '=' ∧ s.name = "") := by rwa [hempty]
    refine .inl ⟨.literal, _, _, Scanner.step_stop hstate hc hstop (by simpa using hchar), rfl, ?_,
      fun ps => (written_push d (s.endName d) .outside c ps).trans (written_endName hname _)⟩
    rw [scan_name_cons, if_neg hc, if_neg hassign, if_neg hchar]
    rfl

/-- From any place on, the scanner writes the pieces that are read from there. -/
theorem run_eq (d : Dialect) {place : Place} {i : Nat} {before : Option Char} {rest : List Char}
    {s : Scanner} (h : Fits place before rest s) :
    (Scanner.run d (i + rest.length - 1) i before rest s).map Scanner.compiled =
      (scan place i rest).map (s.written d) := by
  induction rest generalizing place i before s with
  | nil =>
    have hscan : scan place i [] = .ok [] := by
      cases place with
      | literal => rfl
      | name read =>
        obtain ⟨-, -, -, hend⟩ := h
        rw [hend rfl]
        rfl
    rw [hscan]
    exact congrArg Except.ok (written_nil d s).symm
  | cons c rest ih =>
    have hlast : i + (c :: rest).length - 1 = i + rest.length := by simp
    have hstep : (∃ place' s' f, s.step d (i + rest.length) i before c = .ok s' ∧
          InStep d place i c rest s place' s' f) ∨
        (s.step d (i + rest.length) i before c = .error (.malformedTemplate i) ∧
          scan place i (c :: rest) = .error (.malformedTemplate i)) := by
      cases place with
      | literal => exact .inl (step_fits_literal d h)
      | name read => exact step_fits_name d h
    rw [hlast]
    rcases hstep with ⟨place', s', f, hok, hfits, hscan, hwritten⟩ | ⟨herror, hscan⟩
    · have hrun := ih (i := i + 1) hfits
      rw [Nat.add_right_comm, Nat.add_sub_cancel] at hrun
      rw [Scanner.run_of_ok hok, hrun, hscan, Except.map_map, funext hwritten]
      rfl
    · rw [Scanner.run_of_error herror, hscan]
      rfl

/-- Compiling is to find the pieces and to write them. -/
theorem compile_eq (template : String) (d : Dialect) :
    compile template d =
      (pieces template).map fun ps => ⟨render d 1 ps, ps.filterMap Piece.name?⟩ := by
  have hfits : Fits .literal none template.toList .start := rfl
  have hrun := run_eq d (i := 0) hfits
  have hstart : Scanner.start.written d =
      fun ps => ⟨render d 1 ps, ps.filterMap Piece.name?⟩ := by
    funext ps
    simp [Scanner.written, Scanner.start]
  rw [Nat.zero_add] at hrun
  rw [compile, hrun, hstart, pieces]

/-- Whether a template compiles does not depend on the dialect. -/
theorem compile_error_iff {template : String} {d : Dialect} {e : Failure} :
    compile template d = .error e ↔ pieces template = .error e := by
  rw [compile_eq, Except.map_eq_error_iff]

end SqlCatalog.Template
