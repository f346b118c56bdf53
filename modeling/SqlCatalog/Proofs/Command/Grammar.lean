import SqlCatalog.Proofs.Command.Drafts
/-!
# The option grammar

`RunForm` and `CompileForm` say how a command line is written that asks to run a
statement or to compile statements: which options it has, in which form and order
is of no account, and which plain words. Command lines of these forms are
accepted, for the request that the form names, and no others are
(`parse_accepts_exactly`).
-/
namespace SqlCatalog.Command

/-! ## Forms -/

/-- A command line of `run` after the name of the command, for this request. -/
structure RunForm (items : List Item) (r : RunRequest) : Prop where
  flags : ∀ o ∈ options items, o.1 ∈ runFlags
  catalog : (values "--catalog" (options items)).getLast? = some r.catalog
  database : (values "--database" (options items)).getLast? = some r.database
  schema : (values "--schema" (options items)).getLast? = r.schema
  plains : plains items = r.statement :: r.params.map assignment
  statement : ¬Dashed r.statement
  names : ∀ p ∈ r.params, p.1 ≠ "" ∧ '=' ∉ p.1.toList ∧ ¬Dashed p.1

/-- A command line of `compile` after the name of the command, for this request. -/
structure CompileForm (items : List Item) (r : CompileRequest) : Prop where
  flags : ∀ o ∈ options items, o.1 ∈ compileFlags
  catalog : (values "--catalog" (options items)).getLast? = some r.catalog
  source : SourceForm (options items) r.source
  plains : plains items = r.statements
  statements : ∀ s ∈ r.statements, ¬Dashed s

/-! ## The words that a command takes -/

theorem areFlags_run : AreFlags runFlags := by
  simp only [AreFlags, runFlags, Dashed]
  decide

theorem areFlags_compile : AreFlags compileFlags := by
  simp only [AreFlags, compileFlags, Dashed]
  decide

theorem of_parseCompile {d : CompileDraft} {ws : List Word} {i : Invocation}
    (h : parseCompile d ws = .ok i) :
    i = .help .compile ∨ (∃ r, i = .compile r) ∧ ∀ w ∈ ws, w.Taken := by
  induction ws generalizing d with
  | nil =>
    unfold parseCompile at h
    cases hcatalog : d.catalog with
    | none =>
      rw [hcatalog] at h
      cases h
    | some catalog =>
      rw [hcatalog] at h
      cases h
      exact .inr ⟨⟨_, rfl⟩, by simp⟩
  | cons w ws ih =>
    cases w with
    | help =>
      cases h
      exact .inl rfl
    | dangling | unknown => cases h
    | plain token =>
      exact (ih h).imp_right (And.imp_right fun hws => List.forall_mem_cons.2 ⟨trivial, hws⟩)
    | option flag value =>
      rw [parseCompile_option, Except.bind_eq_ok_iff] at h
      obtain ⟨d', -, h⟩ := h
      exact (ih h).imp_right (And.imp_right fun hws => List.forall_mem_cons.2 ⟨trivial, hws⟩)

theorem of_parseCheck {catalog : Option String} {ws : List Word} {i : Invocation}
    (h : parseCheck catalog ws = .ok i) : i = .help .check ∨ ∃ path, i = .check path := by
  induction ws generalizing catalog with
  | nil =>
    cases catalog with
    | none => cases h
    | some path =>
      cases h
      exact .inr ⟨path, rfl⟩
  | cons w ws ih =>
    cases w with
    | help =>
      cases h
      exact .inl rfl
    | dangling | unknown | plain => cases h
    | option flag value => exact ih h

theorem of_parseDrivers {tokens : List String} {i : Invocation}
    (h : parseDrivers tokens = .ok i) : i = .help .drivers ∨ i = .drivers := by
  cases tokens with
  | nil =>
    cases h
    exact .inr rfl
  | cons token tokens =>
    simp only [parseDrivers] at h
    split_ifs at h
    cases h
    exact .inl rfl

theorem of_parseRun {d : RunDraft} {ws : List Word} {i : Invocation}
    (h : parseRun d ws = .ok i) :
    i = .help .run ∨ (∃ r, i = .run r) ∧ ∀ w ∈ ws, w.Taken := by
  induction ws generalizing d with
  | nil =>
    unfold parseRun RunDraft.finish at h
    split at h <;> cases h
    exact .inr ⟨⟨_, rfl⟩, by simp⟩
  | cons w ws ih =>
    cases w with
    | help =>
      cases h
      exact .inl rfl
    | dangling | unknown => cases h
    | option flag value =>
      exact (ih h).imp_right (And.imp_right fun hws => List.forall_mem_cons.2 ⟨trivial, hws⟩)
    | plain token =>
      rw [parseRun_plain, Except.bind_eq_ok_iff] at h
      obtain ⟨d', -, h⟩ := h
      exact (ih h).imp_right (And.imp_right fun hws => List.forall_mem_cons.2 ⟨trivial, hws⟩)

/-- Only the command `run` comes to running a statement. -/
theorem parse_eq_run_iff {args : List String} {r : RunRequest} :
    parse args = .ok (.run r) ↔ ∃ rest, args = "run" :: rest ∧
      parseRun ⟨none, none, none, none, []⟩ (words runFlags rest) = .ok (.run r) := by
  constructor
  · intro h
    cases args with
    | nil => cases h
    | cons command rest =>
      simp only [parse] at h
      split_ifs at h with hhelp hcompile hcheck hdrivers hrun
      · cases h
      · exact absurd (of_parseCompile h) (by simp)
      · exact absurd (of_parseCheck h) (by simp)
      · exact absurd (of_parseDrivers h) (by simp)
      · exact ⟨rest, by rw [hrun], h⟩
  · rintro ⟨rest, rfl, h⟩
    simpa [parse] using h

/-- Only the command `compile` comes to compiling statements. -/
theorem parse_eq_compile_iff {args : List String} {r : CompileRequest} :
    parse args = .ok (.compile r) ↔ ∃ rest, args = "compile" :: rest ∧
      parseCompile ⟨none, .catalog, []⟩ (words compileFlags rest) = .ok (.compile r) := by
  constructor
  · intro h
    cases args with
    | nil => cases h
    | cons command rest =>
      simp only [parse] at h
      split_ifs at h with hhelp hcompile hcheck hdrivers hrun
      · cases h
      · exact ⟨rest, by rw [hcompile], h⟩
      · exact absurd (of_parseCheck h) (by simp)
      · exact absurd (of_parseDrivers h) (by simp)
      · exact absurd (of_parseRun h) (by simp)
  · rintro ⟨rest, rfl, h⟩
    simpa [parse] using h

/-! ## Acceptance -/

section

variable {items : List Item}

theorem RunForm.fits {r : RunRequest} (h : RunForm items r) : ∀ x ∈ items, x.Fits runFlags := by
  refine fits_iff.2 ⟨h.flags, ?_⟩
  rw [h.plains, List.forall_mem_cons, List.forall_mem_map]
  refine ⟨h.statement, fun p hp => ?_⟩
  obtain ⟨hne, -, hdash⟩ := h.names p hp
  exact mt (dashed_assignment hne).1 hdash

theorem CompileForm.fits {r : CompileRequest} (h : CompileForm items r) :
    ∀ x ∈ items, x.Fits compileFlags :=
  fits_iff.2 ⟨h.flags, h.plains ▸ h.statements⟩

/-- Of items that `run` can have, it takes those of its form. -/
theorem parseRun_tokens_iff {r : RunRequest} (hfits : ∀ x ∈ items, x.Fits runFlags) :
    parseRun ⟨none, none, none, none, []⟩ (words runFlags (items.flatMap Item.tokens)) =
      .ok (.run r) ↔ RunForm items r := by
  obtain ⟨hflags, hplain⟩ := fits_iff.1 hfits
  rw [words_flatMap_tokens areFlags_run hfits, parseRun_items_iff hflags]
  constructor
  · rintro ⟨hcatalog, hdatabase, hschema, hplains, hnames⟩
    rw [hplains, List.forall_mem_cons, List.forall_mem_map] at hplain
    refine ⟨hflags, hcatalog, hdatabase, hschema, hplains, hplain.1, fun p hp => ?_⟩
    obtain ⟨hne, heq⟩ := hnames p hp
    exact ⟨hne, heq, mt (dashed_assignment hne).2 (hplain.2 p hp)⟩
  · intro h
    exact ⟨h.catalog, h.database, h.schema, h.plains,
      fun p hp => ⟨(h.names p hp).1, (h.names p hp).2.1⟩⟩

/-- Of items that `compile` can have, it takes those of its form. -/
theorem parseCompile_tokens_iff {r : CompileRequest} (hfits : ∀ x ∈ items, x.Fits compileFlags) :
    parseCompile ⟨none, .catalog, []⟩ (words compileFlags (items.flatMap Item.tokens)) =
      .ok (.compile r) ↔ CompileForm items r := by
  obtain ⟨hflags, hplain⟩ := fits_iff.1 hfits
  rw [words_flatMap_tokens areFlags_compile hfits, parseCompile_items_iff hflags]
  constructor
  · rintro ⟨hcatalog, hsource, hplains⟩
    exact ⟨hflags, hcatalog, hsource, hplains, hplains ▸ hplain⟩
  · intro h
    exact ⟨h.catalog, h.source, h.plains⟩

end

/-- A command line asks to run a statement exactly if it is written in the form
for it: the statement and the parameters as `name=value`, in their order, with
options anywhere among them, each with its value in the next token or behind `=`.
And it asks to compile statements exactly if it is in the form for that. -/
theorem parse_accepts_exactly :
    (∀ args r, parse args = .ok (.run r) ↔
      ∃ items : List Item, args = "run" :: items.flatMap Item.tokens ∧ RunForm items r) ∧
    (∀ args r, parse args = .ok (.compile r) ↔
      ∃ items : List Item,
        args = "compile" :: items.flatMap Item.tokens ∧ CompileForm items r) := by
  constructor
  · intro args r
    rw [parse_eq_run_iff]
    constructor
    · rintro ⟨rest, rfl, hparse⟩
      have htaken : ∀ w ∈ words runFlags rest, w.Taken :=
        (of_parseRun hparse).elim (by simp) And.right
      obtain ⟨items, hfits, rfl⟩ := exists_items htaken
      exact ⟨items, rfl, (parseRun_tokens_iff hfits).1 hparse⟩
    · rintro ⟨items, rfl, h⟩
      exact ⟨_, rfl, (parseRun_tokens_iff h.fits).2 h⟩
  · intro args r
    rw [parse_eq_compile_iff]
    constructor
    · rintro ⟨rest, rfl, hparse⟩
      have htaken : ∀ w ∈ words compileFlags rest, w.Taken :=
        (of_parseCompile hparse).elim (by simp) And.right
      obtain ⟨items, hfits, rfl⟩ := exists_items htaken
      exact ⟨items, rfl, (parseCompile_tokens_iff hfits).1 hparse⟩
    · rintro ⟨items, rfl, h⟩
      exact ⟨_, rfl, (parseCompile_tokens_iff h.fits).2 h⟩

/-- The last value of an option counts, also if it looks like a flag or is empty. -/
example :
    parse ["run", "--catalog=old", "find", "--schema", "--database", "k==", "--database=",
      "--catalog", "-h"] = .ok (.run ⟨"-h", "", some "--database", "find", [("k", "=")]⟩) := by
  decide +kernel

end SqlCatalog.Command
