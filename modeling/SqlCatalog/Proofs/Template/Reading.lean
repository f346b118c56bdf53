import SqlCatalog.Proofs.Template.Grammar
/-!
# Readings of templates that compile

A template compiles exactly if it can be read to the end, and the SQL and the
names are then those of the pieces (`compile_eq_ok_iff`). `Reads.ok_induction`
is the grammar for such readings alone: no verdict to carry, no index, and a
parameter as the name and what stands behind it (`EndsName`) in place of a run
that is taken and dropped. The one way to fail is a `:` behind a name
(`Reads.malformed_of_error`).
-/
namespace SqlCatalog.Template

/-! ## A name and what stands behind it -/

/-- Behind a `:`, `name` is the whole run of name characters and makes a
parameter in front of `rest`. -/
structure EndsName (name rest : List Char) : Prop where
  chars : ∀ c ∈ name, isNameChar c = true
  stop : ∀ c, rest.head? = some c → isNameChar c = false
  no_colon : rest.head? ≠ some ':'
  /-- Without a name it takes something behind the `:` that is not `=`. -/
  opens : name = [] → rest ≠ [] ∧ rest.head? ≠ some '='

namespace EndsName

variable {name rest after : List Char}

theorem opens_append (h : EndsName name rest) : Opens (name ++ rest) := by
  cases name with
  | nil =>
    obtain ⟨hne, hequals⟩ := h.opens rfl
    exact ⟨hne, h.no_colon, hequals⟩
  | cons c name =>
    have hc : isNameChar c = true := h.chars c List.mem_cons_self
    refine ⟨by simp, ?_, ?_⟩
    · simpa using ne_colon_of_isNameChar hc
    · simpa using ne_equals_of_isNameChar hc

theorem of_opens (hopen : Opens after) (hcolon : (after.dropWhile isNameChar).head? ≠ some ':') :
    EndsName (after.takeWhile isNameChar) (after.dropWhile isNameChar) := by
  refine ⟨fun c => List.mem_takeWhile_imp, fun c => not_of_head?_dropWhile, hcolon, fun hn => ?_⟩
  rw [dropWhile_of_takeWhile_nil hn]
  exact ⟨hopen.ne_nil, hopen.no_equals⟩

end EndsName

/-- A parameter is read as its name and what stands behind it. -/
theorem Reads.parameter_append {i : Nat} {name rest : List Char} {r : Except Failure (List Piece)}
    (h : EndsName name rest) (hr : Reads (i + 1 + name.length) rest r) :
    Reads i (':' :: (name ++ rest)) (r.map (.parameter name :: ·)) := by
  have hparam := Reads.parameter (i := i) (r := r) h.opens_append
  rw [takeWhile_run h.chars h.stop, dropWhile_run h.chars h.stop] at hparam
  exact hparam h.no_colon hr

theorem Reads.named {i : Nat} {name rest : List Char} {ps : List Piece} (h : EndsName name rest)
    (hr : Reads (i + 1 + name.length) rest (.ok ps)) :
    Reads i (':' :: (name ++ rest)) (.ok (.parameter name :: ps)) :=
  .parameter_append (r := .ok ps) h hr

/-! ## Reading to the end -/

/-- What the grammar builds when nothing is refused. -/
@[elab_as_elim]
theorem Reads.ok_induction
    {motive : ∀ (i : Nat) (t : List Char) (ps : List Piece), Reads i t (.ok ps) → Prop}
    {i : Nat} {t : List Char} {ps : List Piece} (h : Reads i t (.ok ps))
    (done : ∀ {i}, motive i [] [] .done)
    (literal : ∀ {i c rest ps} (hc : c ≠ ':') (h : Reads (i + 1) rest (.ok ps)),
      motive (i + 1) rest ps h → motive i (c :: rest) (.literal c :: ps) (.literal hc h))
    (colon : ∀ {i rest ps} (h : Reads (i + 2) rest (.ok ps)), motive (i + 2) rest ps h →
      motive i (':' :: ':' :: rest) (.literal ':' :: ps) (.colon h))
    (assign : ∀ {i rest ps} (h : Reads (i + 2) rest (.ok ps)), motive (i + 2) rest ps h →
      motive i (':' :: '=' :: rest) (.literal ':' :: .literal '=' :: ps) (.assign h))
    (trailing : ∀ {i}, motive i [':'] [] .trailing)
    (parameter : ∀ {i name rest ps} (hname : EndsName name rest)
      (h : Reads (i + 1 + name.length) rest (.ok ps)), motive (i + 1 + name.length) rest ps h →
      motive i (':' :: (name ++ rest)) (.parameter name :: ps) (.named hname h)) :
    motive i t ps h := by
  -- the verdict is a variable for the induction, and only then known to be `ok`
  suffices hall : ∀ {r} (h : Reads i t r) {ps} (hr : r = .ok ps), motive i t ps (hr ▸ h) from
    hall h rfl
  clear h
  intro r h
  induction h with
  | done =>
    rintro _ ⟨⟩
    exact done
  | literal hc h ih =>
    intro ps hr
    obtain ⟨ps, rfl, rfl⟩ := Except.map_eq_ok_iff.1 hr
    exact literal hc h (ih rfl)
  | colon h ih =>
    intro ps hr
    obtain ⟨ps, rfl, rfl⟩ := Except.map_eq_ok_iff.1 hr
    exact colon h (ih rfl)
  | assign h ih =>
    intro ps hr
    obtain ⟨ps, rfl, rfl⟩ := Except.map_eq_ok_iff.1 hr
    exact assign h (ih rfl)
  | trailing =>
    rintro _ ⟨⟩
    exact trailing
  | parameter hopen hcolon h ih =>
    intro ps hr
    obtain ⟨ps, rfl, rfl⟩ := Except.map_eq_ok_iff.1 hr
    have hwhole := parameter (EndsName.of_opens hopen hcolon) h (ih rfl)
    simpa only [List.takeWhile_append_dropWhile] using hwhole
  | malformed =>
    intro ps hr
    cases hr

/-- Reading fails in one way. -/
theorem Reads.malformed_of_error {i : Nat} {t : List Char} {e : Failure}
    (h : Reads i t (.error e)) : ∃ j, e = .malformedTemplate j := by
  generalize hr : (Except.error e : Except Failure (List Piece)) = r at h
  induction h with
  | done | trailing => cases hr
  | literal _ _ ih | colon _ ih | assign _ ih | parameter _ _ _ ih =>
    exact ih (Except.map_eq_error_iff.1 hr.symm).symm
  | malformed =>
    cases hr
    exact ⟨_, rfl⟩

/-! ## The characters of the SQL -/

@[simp] theorem toList_render_nil (d : Dialect) (n : Nat) : (render d n []).toList = [] := rfl

@[simp] theorem toList_render_literal (d : Dialect) (n : Nat) (c : Char) (ps : List Piece) :
    (render d n (.literal c :: ps)).toList = c :: (render d n ps).toList := by
  rw [render, String.toList_append, String.toList_singleton, List.singleton_append]

@[simp] theorem toList_render_parameter (d : Dialect) (n : Nat) (name : List Char)
    (ps : List Piece) :
    (render d n (.parameter name :: ps)).toList =
      ((Piece.parameter name).filled d n).toList ++ (render d (n + 1) ps).toList := by
  rw [render, String.toList_append]

/-! ## Compiling -/

theorem pieces_eq_iff {t : String} {r : Except Failure (List Piece)} :
    pieces t = r ↔ Reads 0 t.toList r := scan_eq_iff

/-- A template compiles exactly if it can be read, to the SQL and the names of its pieces. -/
theorem compile_eq_ok_iff {t : String} {d : Dialect} {q : Compiled} :
    compile t d = .ok q ↔
      ∃ ps, Reads 0 t.toList (.ok ps) ∧ ⟨render d 1 ps, ps.filterMap Piece.name?⟩ = q := by
  simp only [compile_eq, Except.map_eq_ok_iff, pieces_eq_iff]

theorem malformed_of_compile {t : String} {d : Dialect} {e : Failure}
    (h : compile t d = .error e) : ∃ i, e = .malformedTemplate i :=
  (pieces_eq_iff.1 (compile_error_iff.1 h)).malformed_of_error

end SqlCatalog.Template
