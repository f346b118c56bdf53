import SqlCatalog.Proofs.Template.Pieces
import SqlCatalog.Proofs.Text.Run
/-!
# The grammar of templates

`Reads` says how a template is read by looking ahead: a `:` takes the longest
run of name characters behind it as a name, and only then is it seen what ends
the name. `scan` takes one character at a time. Every template has a reading
(`exists_reads`), and the pieces that `scan` finds are the only one
(`scan_eq_iff`).

`filled` is the SQL of a reading with its parameters counted by where they
stand. Compiling for a dialect is the reading, which knows nothing of the
dialect, with its placeholders filled in (`compile_follows_reading`).
-/
namespace SqlCatalog.Template

/-! ## Reading a run -/

/-- Name characters are added to the name one by one. -/
theorem scan_run : ∀ (run name rest : List Char) (i : Nat), (∀ c ∈ run, isNameChar c = true) →
    scan (.name name) i (run ++ rest) = scan (.name (name ++ run)) (i + run.length) rest
  | [], name, rest, i, _ => by simp
  | c :: run, name, rest, i, h => by
    have hc : isNameChar c = true := h c List.mem_cons_self
    have ih := scan_run run (name ++ [c]) rest (i + 1) fun x hx => h x (List.mem_cons_of_mem _ hx)
    rw [List.cons_append, scan_name_cons, if_neg (ne_colon_of_isNameChar hc),
      if_neg (fun he => ne_equals_of_isNameChar hc he.1), if_pos hc, ih]
    simp only [List.append_assoc, List.singleton_append, List.length_cons]
    congr 1
    omega

/-- Behind a name reading goes on as if there had been none. -/
theorem scan_stop {name rest : List Char} {i : Nat}
    (hend : name = [] → rest ≠ [] ∧ rest.head? ≠ some '=') (hcolon : rest.head? ≠ some ':')
    (hstop : ∀ c, rest.head? = some c → isNameChar c = false) :
    scan (.name name) i rest = (scan .literal i rest).map (.parameter name :: ·) := by
  cases rest with
  | nil =>
    rw [scan_name_nil fun hn => (hend hn).1 rfl]
    rfl
  | cons c rest =>
    have hc : c ≠ ':' := fun e => hcolon (by rw [e]; rfl)
    have hassign : ¬(c = '=' ∧ name = []) := fun ⟨e, hn⟩ => (hend hn).2 (by rw [e]; rfl)
    have hname : ¬isNameChar c = true := by rw [hstop c rfl]; decide
    rw [scan_name_cons, if_neg hc, if_neg hassign, if_neg hname, scan_literal_cons, if_neg hc,
      Except.map_map]
    rfl

/-- A second `:` right behind a name is refused. -/
theorem scan_name_colon {name : List Char} (h : name ≠ []) (i : Nat) (rest : List Char) :
    scan (.name name) i (':' :: rest) = .error (.malformedTemplate i) := by
  rw [scan_name_cons, if_pos rfl, if_neg h]

/-- Behind a `:` reading comes to the end of the longest run of name characters. -/
theorem scan_after_colon (i : Nat) (after : List Char) :
    scan .literal i (':' :: after) =
      scan (.name (after.takeWhile isNameChar)) (i + 1 + (after.takeWhile isNameChar).length)
        (after.dropWhile isNameChar) := by
  have hrun := scan_run (after.takeWhile isNameChar) [] (after.dropWhile isNameChar) (i + 1)
    fun c => List.mem_takeWhile_imp
  rw [List.takeWhile_append_dropWhile] at hrun
  rw [scan_literal_cons, if_pos rfl, hrun]
  rfl

/-- An empty run leaves everything to be read. -/
theorem dropWhile_of_takeWhile_nil {after : List Char} (h : after.takeWhile isNameChar = []) :
    after.dropWhile isNameChar = after := by
  have := List.takeWhile_append_dropWhile (p := isNameChar) (l := after)
  rwa [h, List.nil_append] at this

/-! ## The grammar -/

/-- What follows a `:` that is neither the last character nor one of `::`, `:=`. -/
structure Opens (after : List Char) : Prop where
  ne_nil : after ≠ []
  no_colon : after.head? ≠ some ':'
  no_equals : after.head? ≠ some '='

/-- The reading of the rest of a template, which starts at character `i`. -/
inductive Reads : Nat → List Char → Except Failure (List Piece) → Prop
  | done {i : Nat} : Reads i [] (.ok [])
  | literal {i : Nat} {c : Char} {rest : List Char} {r : Except Failure (List Piece)} :
    c ≠ ':' → Reads (i + 1) rest r → Reads i (c :: rest) (r.map (.literal c :: ·))
  /-- `::` is one `:`. -/
  | colon {i : Nat} {rest : List Char} {r : Except Failure (List Piece)} :
    Reads (i + 2) rest r → Reads i (':' :: ':' :: rest) (r.map (.literal ':' :: ·))
  /-- `:=` is itself. -/
  | assign {i : Nat} {rest : List Char} {r : Except Failure (List Piece)} :
    Reads (i + 2) rest r →
      Reads i (':' :: '=' :: rest) (r.map ([.literal ':', .literal '='] ++ ·))
  /-- A `:` at the very end is nothing. -/
  | trailing {i : Nat} : Reads i [':'] (.ok [])
  /-- Any other `:` takes the longest run of name characters. -/
  | parameter {i : Nat} {after : List Char} {r : Except Failure (List Piece)} :
    Opens after → (after.dropWhile isNameChar).head? ≠ some ':' →
      Reads (i + 1 + (after.takeWhile isNameChar).length) (after.dropWhile isNameChar) r →
      Reads i (':' :: after) (r.map (.parameter (after.takeWhile isNameChar) :: ·))
  /-- If a `:` ends the run, nothing behind it is read. -/
  | malformed {i : Nat} {after : List Char} :
    Opens after → (after.dropWhile isNameChar).head? = some ':' →
      Reads i (':' :: after)
        (.error (.malformedTemplate (i + 1 + (after.takeWhile isNameChar).length)))

/-- Reading one character at a time follows the grammar. -/
theorem Reads.scan_eq {i : Nat} {t : List Char} {r : Except Failure (List Piece)}
    (h : Reads i t r) : scan .literal i t = r := by
  induction h with
  | done => rfl
  | literal hc _ ih => rw [scan_literal_cons, if_neg hc, ih]
  | colon _ ih => rw [scan_literal_cons, if_pos rfl, scan_name_cons, if_pos rfl, if_pos rfl, ih]
  | assign _ ih =>
    rw [scan_literal_cons, if_pos rfl, scan_name_cons, if_neg (by decide), if_pos ⟨rfl, rfl⟩, ih]
  | trailing => rfl
  | @parameter i after r hopen hcolon _ ih =>
    have hend : after.takeWhile isNameChar = [] →
        after.dropWhile isNameChar ≠ [] ∧ (after.dropWhile isNameChar).head? ≠ some '=' := by
      intro hn
      rw [dropWhile_of_takeWhile_nil hn]
      exact ⟨hopen.ne_nil, hopen.no_equals⟩
    rw [scan_after_colon, scan_stop hend hcolon fun c => not_of_head?_dropWhile, ih]
  | @malformed i after hopen hcolon =>
    obtain ⟨rest, hrest⟩ := List.head?_eq_some_iff.1 hcolon
    have hname : after.takeWhile isNameChar ≠ [] := fun hn =>
      hopen.no_colon (by rw [← dropWhile_of_takeWhile_nil hn, hcolon])
    rw [scan_after_colon, hrest, scan_name_colon hname]

/-- Every template has a reading. -/
theorem exists_reads (i : Nat) (t : List Char) : ∃ r, Reads i t r := by
  -- a run of names is read in one step, so the induction is on what is left
  induction hlen : t.length using Nat.strongRecOn generalizing i t with
  | ind n ih =>
  subst hlen
  cases t with
  | nil => exact ⟨_, .done⟩
  | cons c after =>
  by_cases hc : c = ':'
  · subst hc
    by_cases hnil : after = []
    · subst hnil
      exact ⟨_, .trailing⟩
    by_cases hcolon : after.head? = some ':'
    · obtain ⟨rest, rfl⟩ := List.head?_eq_some_iff.1 hcolon
      obtain ⟨r, hr⟩ := ih rest.length (by simp only [List.length_cons]; omega) (i + 2) rest rfl
      exact ⟨_, .colon hr⟩
    by_cases hequals : after.head? = some '='
    · obtain ⟨rest, rfl⟩ := List.head?_eq_some_iff.1 hequals
      obtain ⟨r, hr⟩ := ih rest.length (by simp only [List.length_cons]; omega) (i + 2) rest rfl
      exact ⟨_, .assign hr⟩
    have hopen : Opens after := ⟨hnil, hcolon, hequals⟩
    by_cases hend : (after.dropWhile isNameChar).head? = some ':'
    · exact ⟨_, .malformed hopen hend⟩
    · have hle : (after.dropWhile isNameChar).length ≤ after.length :=
        (List.dropWhile_suffix isNameChar).length_le
      obtain ⟨r, hr⟩ := ih _ (by simp; omega) _ (after.dropWhile isNameChar) rfl
      exact ⟨_, .parameter hopen hend hr⟩
  · obtain ⟨r, hr⟩ := ih after.length (by simp) (i + 1) after rfl
    exact ⟨_, .literal hc hr⟩

/-- Looking ahead and scanning come to the same. -/
theorem scan_eq_iff {i : Nat} {t : List Char} {r : Except Failure (List Piece)} :
    scan .literal i t = r ↔ Reads i t r := by
  constructor
  · rintro rfl
    obtain ⟨r, hr⟩ := exists_reads i t
    rwa [hr.scan_eq]
  · exact Reads.scan_eq

/-! ## Filling in placeholders -/

/-- How many parameters there are up to place `j`, with the one that stands there. -/
def ordinal (ps : List Piece) (j : Nat) : Nat := (ps.take (j + 1)).countP Piece.isParameter

/-- The SQL of a reading: its literals in order, and for the `k`-th parameter
the `k`-th placeholder. -/
def filled (d : Dialect) (ps : List Piece) : String :=
  String.join (ps.mapIdx fun j p => p.filled d (ordinal ps j))

theorem ordinal_cons_zero (p : Piece) (ps : List Piece) :
    ordinal (p :: ps) 0 = if p.isParameter then 1 else 0 := by
  cases p <;> simp [ordinal, Piece.isParameter]

theorem ordinal_cons_succ (p : Piece) (ps : List Piece) (j : Nat) :
    ordinal (p :: ps) (j + 1) = (if p.isParameter then 1 else 0) + ordinal ps j := by
  simp only [ordinal, List.take_succ_cons, List.countP_cons]
  omega

/-- The counter of `render` is the ordinal, shifted by the parameters before. -/
theorem render_eq_join (d : Dialect) (ps : List Piece) (n : Nat) :
    render d (n + 1) ps = String.join (ps.mapIdx fun j p => p.filled d (n + ordinal ps j)) := by
  induction ps generalizing n with
  | nil => rfl
  | cons p ps ih =>
    rw [List.mapIdx_cons, String.join_cons, ordinal_cons_zero]
    simp only [ordinal_cons_succ]
    cases p with
    | literal c =>
      rw [render, ih]
      simp [Piece.isParameter, Piece.filled]
    | parameter name =>
      rw [render, ih]
      simp [Piece.isParameter, Nat.add_assoc]

/-- Compiling a template for a dialect is its one reading, filled in for that
dialect: the verdict, the index and the names are those of the reading. -/
theorem compile_follows_reading (t : String) :
    ∃ r, (∀ r', Reads 0 t.toList r' ↔ r' = r) ∧
      ∀ d, compile t d = r.map fun ps => ⟨filled d ps, ps.filterMap Piece.name?⟩ := by
  refine ⟨pieces t, fun r' => ?_, fun d => ?_⟩
  · rw [← scan_eq_iff, pieces, eq_comm]
  · rw [compile_eq]
    congr 1
    funext ps
    have hsql := render_eq_join d ps 0
    simp only [Nat.zero_add] at hsql
    rw [hsql, filled]

/-- `::` and `:=` come first, a `.` belongs to the name, and the last `:` is dropped. -/
example : compile "a::b := :x, :y.z;:" .dollar = .ok ⟨"a:b := $1, $2;", ["x", "y.z"]⟩ := by rfl

/-- The `:` behind a name is refused where it stands. -/
example : compile "k = :a:b" .named = .error (.malformedTemplate 6) := by rfl

end SqlCatalog.Template
