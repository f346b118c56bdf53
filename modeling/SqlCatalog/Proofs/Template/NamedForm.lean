import SqlCatalog.Proofs.Template.Reading
/-!
# Templates in the named dialect

The named dialect writes a parameter as it stands in the template. Where no two
colons meet, nothing else changes either, but for a `:` at the end, which stands
for nothing (`render_named`). What is left is read as before
(`Reads.of_withoutLastColon`), so the SQL of the named dialect can be taken for
the template under every dialect (`compile_of_named`).
-/
namespace SqlCatalog.Template

/-! ## The last colon -/

/-- A text less the `:` that it may end with. -/
def withoutLastColon (t : List Char) : List Char :=
  if t.getLast? = some ':' then t.dropLast else t

@[simp] theorem withoutLastColon_nil : withoutLastColon [] = [] := rfl

theorem withoutLastColon_append {a rest : List Char}
    (h : rest ≠ [] ∨ a.getLast? ≠ some ':') :
    withoutLastColon (a ++ rest) = a ++ withoutLastColon rest := by
  by_cases hrest : rest = []
  · subst hrest
    have ha : a.getLast? ≠ some ':' := h.resolve_left fun hne => hne rfl
    simp [withoutLastColon, ha]
  · have hlast : (a ++ rest).getLast? = rest.getLast? := by
      rw [List.getLast?_append]
      cases hl : rest.getLast? with
      | none => exact absurd (List.getLast?_eq_none_iff.1 hl) hrest
      | some c => rfl
    unfold withoutLastColon
    rw [hlast]
    split
    · rw [List.dropLast_append_of_ne_nil hrest]
    · rfl

theorem withoutLastColon_cons {c : Char} (hc : c ≠ ':') (rest : List Char) :
    withoutLastColon (c :: rest) = c :: withoutLastColon rest :=
  withoutLastColon_append (a := [c]) (.inr (by simpa using hc))

theorem withoutLastColon_assign (rest : List Char) :
    withoutLastColon (':' :: '=' :: rest) = ':' :: '=' :: withoutLastColon rest :=
  withoutLastColon_append (a := [':', '=']) (.inr (by decide))

/-- The last colon is not the first character, unless it is the only one. -/
theorem head?_withoutLastColon {rest : List Char} (h : rest.head? ≠ some ':') :
    (withoutLastColon rest).head? = rest.head? := by
  cases rest with
  | nil => rfl
  | cons c rest =>
    have hc : c ≠ ':' := fun e => h (by rw [e]; rfl)
    rw [withoutLastColon_cons hc]
    rfl

/-- A parameter is no trailing colon. -/
theorem EndsName.withoutLastColon_cons_append {name rest : List Char} (h : EndsName name rest) :
    withoutLastColon (':' :: (name ++ rest)) = ':' :: (name ++ withoutLastColon rest) := by
  refine withoutLastColon_append (a := ':' :: name) ?_
  by_cases hname : name = []
  · exact .inl (h.opens hname).1
  · right
    rw [List.getLast?_cons, List.getLast?_eq_some_getLast hname]
    have hlast : isNameChar (name.getLast hname) = true := h.chars _ (List.getLast_mem hname)
    simpa using ne_colon_of_isNameChar hlast

/-- What ends a name does so without the last colon. -/
theorem EndsName.withoutLastColon {name rest : List Char} (h : EndsName name rest) :
    EndsName name (withoutLastColon rest) := by
  have hhead := head?_withoutLastColon h.no_colon
  refine ⟨h.chars, fun c hc => h.stop c (hhead ▸ hc), hhead ▸ h.no_colon, fun hname => ?_⟩
  obtain ⟨hne, hequals⟩ := h.opens hname
  refine ⟨fun hnil => hne ?_, hhead ▸ hequals⟩
  rw [hnil] at hhead
  exact List.head?_eq_none_iff.1 hhead.symm

/-! ## Reading the named form -/

variable {i : Nat} {t rest : List Char} {ps : List Piece}

/-- Where no two colons meet, none do further on. -/
theorem no_pair_of_suffix (hpairs : ¬[':', ':'] <:+: t) (h : rest <:+ t) :
    ¬[':', ':'] <:+: rest := fun hr => hpairs (hr.trans h.isInfix)

/-- Where no two colons meet, a last colon can be left out. -/
theorem Reads.of_withoutLastColon (h : Reads i t (.ok ps)) (hpairs : ¬[':', ':'] <:+: t) (j : Nat) :
    Reads j (withoutLastColon t) (.ok ps) := by
  induction h using Reads.ok_induction generalizing j with
  | done => exact .done
  | @literal i c rest ps hc _ ih =>
    have hrest := no_pair_of_suffix hpairs ⟨[c], rfl⟩
    rw [withoutLastColon_cons hc]
    exact .literal (r := .ok ps) hc (ih hrest _)
  | colon => exact absurd (List.prefix_append _ _).isInfix hpairs
  | @assign i rest ps _ ih =>
    have hrest := no_pair_of_suffix hpairs ⟨[':', '='], rfl⟩
    rw [withoutLastColon_assign]
    exact .assign (r := .ok ps) (ih hrest _)
  | trailing => exact .done
  | @parameter i name rest ps hname _ ih =>
    have hrest := no_pair_of_suffix hpairs ⟨':' :: name, rfl⟩
    rw [hname.withoutLastColon_cons_append]
    exact .named hname.withoutLastColon (ih hrest _)

/-- The named dialect writes what it reads. -/
theorem render_named (h : Reads i t (.ok ps)) (hpairs : ¬[':', ':'] <:+: t) (n : Nat) :
    (render .named n ps).toList = withoutLastColon t := by
  induction h using Reads.ok_induction generalizing n with
  | done => rfl
  | @literal i c rest ps hc _ ih =>
    have hrest := no_pair_of_suffix hpairs ⟨[c], rfl⟩
    rw [withoutLastColon_cons hc, toList_render_literal, ih hrest]
  | colon => exact absurd (List.prefix_append _ _).isInfix hpairs
  | @assign i rest ps _ ih =>
    have hrest := no_pair_of_suffix hpairs ⟨[':', '='], rfl⟩
    rw [withoutLastColon_assign, toList_render_literal, toList_render_literal, ih hrest]
  | trailing => rfl
  | @parameter i name rest ps hname _ ih =>
    have hrest := no_pair_of_suffix hpairs ⟨':' :: name, rfl⟩
    have hfilled : ((Piece.parameter name).filled .named n).toList = ':' :: name := by
      simp [Piece.filled]
    rw [hname.withoutLastColon_cons_append, toList_render_parameter, hfilled, ih hrest,
      List.cons_append]

/-- A template in which no two colons meet, and which compiles, is its own named
form but for a `:` at the end; the named form compiles under every dialect to
what the template does, and under the named one to itself. -/
theorem compile_of_named {t : String} {d₀ : Dialect} {q₀ : Compiled}
    (hpairs : ¬[':', ':'] <:+: t.toList) (h : compile t d₀ = .ok q₀) :
    ∃ q, compile t .named = .ok q ∧ q.sql = String.ofList (withoutLastColon t.toList) ∧
      (∀ d, compile q.sql d = compile t d) ∧ compile q.sql .named = .ok q := by
  obtain ⟨ps, hps, -⟩ := compile_eq_ok_iff.1 h
  have hcompile : ∀ d, compile t d = .ok ⟨render d 1 ps, ps.filterMap Piece.name?⟩ := fun d =>
    compile_eq_ok_iff.2 ⟨ps, hps, rfl⟩
  have hsql : render .named 1 ps = String.ofList (withoutLastColon t.toList) := by
    rw [← render_named hps hpairs 1, String.ofList_toList]
  have hsame : ∀ d, compile (render .named 1 ps) d = compile t d := by
    intro d
    have hread : Reads 0 (render .named 1 ps).toList (.ok ps) := by
      rw [render_named hps hpairs 1]
      exact hps.of_withoutLastColon hpairs 0
    rw [hcompile d, compile_eq_ok_iff]
    exact ⟨ps, hread, rfl⟩
  exact ⟨_, hcompile .named, hsql, hsame, (hsame .named).trans (hcompile .named)⟩

/-- The `:` before the blank is an empty name, `:=` is kept, and the last `:` goes. -/
theorem compile_of_named_trailing :
    ¬[':', ':'] <:+: "a := : b :k; :".toList ∧
      compile "a := : b :k; :" .dollar = .ok ⟨"a := $1 b $2; ", ["", "k"]⟩ ∧
      ∃ q, compile "a := : b :k; :" .named = .ok q ∧
        q.sql = String.ofList (withoutLastColon "a := : b :k; :".toList) ∧
        (∀ d, compile q.sql d = compile "a := : b :k; :" d) ∧ compile q.sql .named = .ok q := by
  have hpairs : ¬[':', ':'] <:+: "a := : b :k; :".toList := by decide +kernel
  have hcompile : compile "a := : b :k; :" .dollar = .ok ⟨"a := $1 b $2; ", ["", "k"]⟩ := by rfl
  exact ⟨hpairs, hcompile, compile_of_named hpairs hcompile⟩

end SqlCatalog.Template
