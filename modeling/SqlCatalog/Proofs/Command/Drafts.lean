import Mathlib.Data.List.Induction
import SqlCatalog.Proofs.Command.Words
import SqlCatalog.Proofs.Except
/-!
# What options and plain words come to

`run` and `compile` take their words in one by one. Options do not interfere with
plain words, so each kind can be taken in apart from the other (`parseRun_items`,
`parseCompile_items`), wherever it stands. Of an option given several times the
last value counts (`RunDraft.setAll_start`, `CompileDraft.setAll_start_iff`), and
plain words behind the statement are assignments (`RunDraft.addAll_eq_ok_iff`).
-/
namespace SqlCatalog

/-- A dialect is named by its name in any ASCII case. -/
theorem Dialect.parse_eq_ok_iff {s : String} {d : Dialect} :
    Dialect.parse s = .ok d ↔ s.map Char.toLower = d.name := by
  simp only [Dialect.parse]
  constructor
  · intro h
    cases hname : Dialect.ofName? (s.map Char.toLower) with
    | none =>
      rw [hname] at h
      cases h
    | some d' =>
      rw [hname] at h
      cases h
      unfold Dialect.ofName? at hname
      have heq := List.find?_some hname
      simp only [beq_iff_eq] at heq
      exact heq.symm
  · intro h
    rw [h, Dialect.ofName?_name]

end SqlCatalog

namespace SqlCatalog.Command

/-! ## Values of options -/

/-- The values that options give for a flag, in order. -/
def values (flag : String) (opts : List (String × String)) : List String :=
  opts.filterMap fun o => if o.1 = flag then some o.2 else none

/-- Options settle where the dialect comes from, by a driver or by the name of a
dialect but not by both. -/
def SourceForm (opts : List (String × String)) : DialectSource → Prop
  | .catalog => values "--driver" opts = [] ∧ values "--style" opts = []
  | .driver name => (values "--driver" opts).getLast? = some name ∧ values "--style" opts = []
  | .dialect d => values "--driver" opts = [] ∧
      (∀ v ∈ values "--style" opts, ∃ d' : Dialect, v.map Char.toLower = d'.name) ∧
      ∃ v, (values "--style" opts).getLast? = some v ∧ v.map Char.toLower = d.name

theorem values_concat (flag : String) (opts : List (String × String)) (o : String × String) :
    values flag (opts ++ [o]) = values flag opts ++ if o.1 = flag then [o.2] else [] := by
  by_cases h : o.1 = flag <;> simp [values, h]

theorem getLast?_values_concat (flag : String) (opts : List (String × String))
    (o : String × String) :
    (values flag (opts ++ [o])).getLast? =
      if o.1 = flag then some o.2 else (values flag opts).getLast? := by
  rw [values_concat]
  split_ifs <;> simp

section

variable {opts : List (String × String)} {s : DialectSource} {v : String}

theorem sourceForm_catalog : SourceForm (opts ++ [("--catalog", v)]) s ↔ SourceForm opts s := by
  cases s <;> simp [SourceForm, values_concat]

theorem sourceForm_driver :
    SourceForm (opts ++ [("--driver", v)]) s ↔
      s = .driver v ∧ ∃ s', SourceForm opts s' ∧ ∀ d, s' ≠ .dialect d := by
  constructor
  · intro h
    cases s with
    | catalog => simp [SourceForm, values_concat] at h
    | dialect d => simp [SourceForm, values_concat] at h
    | driver name =>
      obtain ⟨hname, hstyle⟩ : v = name ∧ values "--style" opts = [] := by
        simpa [SourceForm, values_concat] using h
      refine ⟨by rw [hname], ?_⟩
      cases hlast : (values "--driver" opts).getLast? with
      | none => exact ⟨.catalog, ⟨List.getLast?_eq_none_iff.1 hlast, hstyle⟩, by simp⟩
      | some name' => exact ⟨.driver name', ⟨hlast, hstyle⟩, by simp⟩
  · rintro ⟨rfl, s', h, hno⟩
    have hstyle : values "--style" opts = [] := by
      cases s' with
      | catalog => exact h.2
      | driver name => exact h.2
      | dialect d => exact absurd rfl (hno d)
    simp [SourceForm, values_concat, hstyle]

theorem sourceForm_style :
    SourceForm (opts ++ [("--style", v)]) s ↔
      ∃ d : Dialect, s = .dialect d ∧ v.map Char.toLower = d.name ∧
        ∃ s', SourceForm opts s' ∧ ∀ name, s' ≠ .driver name := by
  constructor
  · intro h
    cases s with
    | catalog => simp [SourceForm, values_concat] at h
    | driver name => simp [SourceForm, values_concat] at h
    | dialect d =>
      obtain ⟨hdriver, hstyles, hd⟩ : values "--driver" opts = [] ∧
          (∀ w ∈ values "--style" opts ++ [v], ∃ d' : Dialect, w.map Char.toLower = d'.name) ∧
          v.map Char.toLower = d.name := by
        simpa [SourceForm, values_concat] using h
      refine ⟨d, rfl, hd, ?_⟩
      cases hlast : (values "--style" opts).getLast? with
      | none => exact ⟨.catalog, ⟨hdriver, List.getLast?_eq_none_iff.1 hlast⟩, by simp⟩
      | some w =>
        obtain ⟨d', hd'⟩ := hstyles w (List.mem_append_left _ (List.mem_of_getLast? hlast))
        exact ⟨.dialect d', ⟨hdriver, fun w hw => hstyles w (List.mem_append_left _ hw),
          w, hlast, hd'⟩, by simp⟩
  · rintro ⟨d, rfl, hd, s', h, hno⟩
    obtain ⟨hdriver, hstyles⟩ : values "--driver" opts = [] ∧
        ∀ w ∈ values "--style" opts, ∃ d' : Dialect, w.map Char.toLower = d'.name := by
      cases s' with
      | catalog => exact ⟨h.1, by simp [h.2]⟩
      | driver name => exact absurd rfl (hno name)
      | dialect d' => exact ⟨h.1, h.2.1⟩
    simp only [SourceForm, values_concat]
    refine ⟨by simpa using hdriver, ?_, v, by simp, hd⟩
    intro w hw
    rcases List.mem_append.1 hw with hw | hw
    · exact hstyles w hw
    · obtain rfl : w = v := by simpa using hw
      exact ⟨d, hd⟩

end

/-! ## The words of `run` -/

namespace RunDraft

/-- Take in options in order. -/
def setAll (d : RunDraft) (opts : List (String × String)) : RunDraft :=
  opts.foldl (fun d o => d.set o.1 o.2) d

/-- Take in plain words in order. -/
def addAll (d : RunDraft) : List String → Except UsageError RunDraft
  | [] => .ok d
  | token :: rest => (d.add token).bind fun d => d.addAll rest

/-- An option does not interfere with a plain word. -/
theorem add_set (d : RunDraft) (flag value token : String) :
    (d.set flag value).add token = (d.add token).map (·.set flag value) := by
  unfold set
  split_ifs <;>
    (unfold add
     cases d.statement with
     | none => rfl
     | some s =>
       cases splitAssignment token with
       | none => rfl
       | some p =>
         by_cases hname : p.1 = ""
         · simp only [if_pos hname, Except.map]
         · simp only [if_neg hname, Except.map])

theorem add_setAll (d : RunDraft) (opts : List (String × String)) (token : String) :
    (d.setAll opts).add token = (d.add token).map (·.setAll opts) := by
  induction opts generalizing d with
  | nil => cases h : d.add token <;> simp [setAll, h, Except.map]
  | cons o opts ih =>
    have hstep : d.setAll (o :: opts) = (d.set o.1 o.2).setAll opts := rfl
    rw [hstep, ih, add_set]
    cases d.add token <;> rfl

/-- Of an option given several times the last value counts. -/
theorem setAll_start {opts : List (String × String)} (h : ∀ o ∈ opts, o.1 ∈ runFlags) :
    (⟨none, none, none, none, []⟩ : RunDraft).setAll opts =
      ⟨(values "--catalog" opts).getLast?, (values "--database" opts).getLast?,
        (values "--schema" opts).getLast?, none, []⟩ := by
  induction opts using List.reverseRecOn with
  | nil => rfl
  | append_singleton opts o ih =>
    have ih := ih fun o' ho' => h o' (List.mem_append_left _ ho')
    have ho : o.1 = "--catalog" ∨ o.1 = "--database" ∨ o.1 = "--schema" := by
      simpa [runFlags] using h o (by simp)
    simp only [setAll] at ih
    simp only [setAll, List.foldl_append, ih, List.foldl_cons, List.foldl_nil,
      getLast?_values_concat]
    rcases ho with ho | ho | ho <;> simp [set, ho]

theorem add_eq_ok_iff {d d' : RunDraft} {s token : String} (hs : d.statement = some s) :
    d.add token = .ok d' ↔ ∃ p : String × String, token = assignment p ∧
      (p.1 ≠ "" ∧ '=' ∉ p.1.toList) ∧ d' = { d with params := p :: d.params } := by
  unfold add
  rw [hs]
  cases hsplit : splitAssignment token with
  | none =>
    simp only [reduceCtorEq, false_iff, not_exists]
    rintro p ⟨htoken, ⟨-, hp⟩, -⟩
    rw [splitAssignment_eq_some_iff.2 ⟨htoken, hp⟩] at hsplit
    cases hsplit
  | some p =>
    obtain ⟨rfl, hp⟩ := splitAssignment_eq_some_iff.1 hsplit
    constructor
    · intro h
      by_cases hname : p.1 = ""
      · simp only [if_pos hname] at h
        cases h
      · simp only [if_neg hname] at h
        cases h
        exact ⟨p, rfl, ⟨hname, hp⟩, rfl⟩
    · rintro ⟨p', htoken, ⟨hname, hp'⟩, rfl⟩
      obtain rfl : p' = p := by
        have hsplit' := splitAssignment_assignment hp'
        rw [← htoken, hsplit] at hsplit'
        exact (Option.some.inj hsplit').symm
      simp only [if_neg hname]

/-- Behind the statement, plain words are taken exactly if they are assignments. -/
theorem addAll_eq_ok_iff {d d' : RunDraft} {s : String} (hs : d.statement = some s)
    {tokens : List String} :
    d.addAll tokens = .ok d' ↔ ∃ ps : List (String × String), tokens = ps.map assignment ∧
      (∀ p ∈ ps, p.1 ≠ "" ∧ '=' ∉ p.1.toList) ∧
      d' = { d with params := ps.reverse ++ d.params } := by
  induction tokens generalizing d with
  | nil =>
    constructor
    · rintro ⟨⟩
      exact ⟨[], rfl, nofun, rfl⟩
    · rintro ⟨ps, hps, -, rfl⟩
      obtain rfl := List.map_eq_nil_iff.1 hps.symm
      rfl
  | cons token tokens ih =>
    rw [addAll, Except.bind_eq_ok_iff]
    constructor
    · rintro ⟨d₁, hadd, hall⟩
      obtain ⟨p, rfl, hp, rfl⟩ := (add_eq_ok_iff hs).1 hadd
      obtain ⟨ps, rfl, hps, rfl⟩ := (ih (d := { d with params := p :: d.params }) hs).1 hall
      exact ⟨p :: ps, rfl, List.forall_mem_cons.2 ⟨hp, hps⟩, by simp⟩
    · rintro ⟨ps, htokens, hps, rfl⟩
      obtain ⟨p, ps, rfl, rfl, rfl⟩ := List.map_eq_cons_iff.1 htokens.symm
      obtain ⟨hp, hps⟩ := List.forall_mem_cons.1 hps
      exact ⟨{ d with params := p :: d.params }, (add_eq_ok_iff hs).2 ⟨p, rfl, hp, rfl⟩,
        (ih (d := { d with params := p :: d.params }) hs).2 ⟨ps, rfl, hps, by simp⟩⟩

theorem finish_eq_ok_iff {d : RunDraft} {r : RunRequest} :
    d.finish = .ok (.run r) ↔ d.catalog = some r.catalog ∧ d.database = some r.database ∧
      d.schema = r.schema ∧ d.statement = some r.statement ∧ d.params.reverse = r.params := by
  obtain ⟨_ | catalog, _ | database, schema, _ | statement, params⟩ := d <;>
    obtain ⟨catalog', database', schema', statement', params'⟩ := r <;> simp [finish]

end RunDraft

theorem parseRun_plain (d : RunDraft) (token : String) (ws : List Word) :
    parseRun d (.plain token :: ws) = (d.add token).bind fun d => parseRun d ws := by
  rw [parseRun]
  cases d.add token <;> rfl

/-- Options and plain words are taken in apart from each other. -/
theorem parseRun_items (d : RunDraft) (items : List Item) :
    parseRun d (items.map Item.word) =
      ((d.setAll (options items)).addAll (plains items)).bind RunDraft.finish := by
  induction items generalizing d with
  | nil => rfl
  | cons x items ih =>
    cases x with
    | spaced flag value => exact ih (d.set flag value)
    | joined flag value => exact ih (d.set flag value)
    | plain token =>
      rw [options_plain, plains_plain, RunDraft.addAll, RunDraft.add_setAll, List.map_cons,
        Item.word, parseRun_plain]
      cases d.add token with
      | error e => rfl
      | ok d' => exact ih d'

/-- What `run` makes of items. -/
theorem parseRun_items_iff {items : List Item} {r : RunRequest}
    (h : ∀ o ∈ options items, o.1 ∈ runFlags) :
    parseRun ⟨none, none, none, none, []⟩ (items.map Item.word) = .ok (.run r) ↔
      (values "--catalog" (options items)).getLast? = some r.catalog ∧
      (values "--database" (options items)).getLast? = some r.database ∧
      (values "--schema" (options items)).getLast? = r.schema ∧
      plains items = r.statement :: r.params.map assignment ∧
      ∀ p ∈ r.params, p.1 ≠ "" ∧ '=' ∉ p.1.toList := by
  rw [parseRun_items, RunDraft.setAll_start h, Except.bind_eq_ok_iff]
  generalize (values "--catalog" (options items)).getLast? = catalog
  generalize (values "--database" (options items)).getLast? = database
  generalize (values "--schema" (options items)).getLast? = schema
  cases plains items with
  | nil =>
    constructor
    · rintro ⟨d, ⟨⟩, hfinish⟩
      cases (RunDraft.finish_eq_ok_iff.1 hfinish).2.2.2.1
    · rintro ⟨-, -, -, ⟨⟩, -⟩
  | cons statement tokens =>
    have hfirst : (⟨catalog, database, schema, none, []⟩ : RunDraft).addAll (statement :: tokens) =
      (⟨catalog, database, schema, some statement, []⟩ : RunDraft).addAll tokens := rfl
    rw [hfirst]
    constructor
    · rintro ⟨d, hadd, hfinish⟩
      obtain ⟨ps, rfl, hps, rfl⟩ := (RunDraft.addAll_eq_ok_iff rfl).1 hadd
      obtain ⟨hcatalog, hdatabase, hschema, hstatement, hparams⟩ :=
        RunDraft.finish_eq_ok_iff.1 hfinish
      obtain rfl : ps = r.params := by simpa using hparams
      cases hstatement
      exact ⟨hcatalog, hdatabase, hschema, rfl, hps⟩
    · rintro ⟨hcatalog, hdatabase, hschema, hplains, hnames⟩
      obtain ⟨rfl, rfl⟩ := List.cons.inj hplains
      refine ⟨_, (RunDraft.addAll_eq_ok_iff rfl).2 ⟨r.params, rfl, hnames, rfl⟩, ?_⟩
      exact RunDraft.finish_eq_ok_iff.2 ⟨hcatalog, hdatabase, hschema, rfl, by simp⟩

/-! ## The words of `compile` -/

namespace CompileDraft

/-- Take in options in order. -/
def setAll (d : CompileDraft) : List (String × String) → Except UsageError CompileDraft
  | [] => .ok d
  | o :: rest => (d.set o.1 o.2).bind fun d => d.setAll rest

theorem setAll_concat (d : CompileDraft) (opts : List (String × String)) (o : String × String) :
    d.setAll (opts ++ [o]) = (d.setAll opts).bind fun d => d.set o.1 o.2 := by
  induction opts generalizing d with
  | nil => cases h : d.set o.1 o.2 <;> simp [setAll, h, Except.bind]
  | cons o' opts ih =>
    rw [List.cons_append, setAll, setAll]
    cases d.set o'.1 o'.2 with
    | error e => rfl
    | ok d' => exact ih d'

/-- An option does not interfere with the statements. -/
theorem set_statements (d : CompileDraft) (statements : List String) (flag value : String) :
    { d with statements }.set flag value = (d.set flag value).map ({ · with statements }) := by
  unfold set
  split_ifs with hcatalog hdriver
  · rfl
  · cases d.source <;> rfl
  · cases hs : d.source with
    | driver name => rfl
    | _ => cases hp : Dialect.parse value <;> rfl

theorem set_catalog_iff {d d' : CompileDraft} {v : String} :
    d.set "--catalog" v = .ok d' ↔ d' = { d with catalog := some v } := by
  simp [set, eq_comm]

theorem set_driver_iff {d d' : CompileDraft} {v : String} :
    d.set "--driver" v = .ok d' ↔
      (∀ x, d.source ≠ .dialect x) ∧ d' = { d with source := .driver v } := by
  cases hs : d.source <;> simp [set, hs, eq_comm]

theorem set_style_iff {d d' : CompileDraft} {v : String} :
    d.set "--style" v = .ok d' ↔ (∀ name, d.source ≠ .driver name) ∧
      ∃ x : Dialect, v.map Char.toLower = x.name ∧ d' = { d with source := .dialect x } := by
  simp only [← Dialect.parse_eq_ok_iff]
  cases hs : d.source <;> cases hp : Dialect.parse v <;> simp [set, hs, hp, eq_comm]

/-- What options come to: the last catalog, and where the dialect comes from. -/
theorem setAll_start_iff {opts : List (String × String)} (h : ∀ o ∈ opts, o.1 ∈ compileFlags)
    {d : CompileDraft} :
    (⟨none, .catalog, []⟩ : CompileDraft).setAll opts = .ok d ↔
      d.catalog = (values "--catalog" opts).getLast? ∧ SourceForm opts d.source ∧
        d.statements = [] := by
  induction opts using List.reverseRecOn generalizing d with
  | nil =>
    obtain ⟨catalog, source, statements⟩ := d
    cases source <;> simp [setAll, SourceForm, values, eq_comm]
  | append_singleton opts o ih =>
    have ih := @ih fun o' ho' => h o' (List.mem_append_left _ ho')
    obtain ⟨flag, v⟩ := o
    have hflag : flag = "--catalog" ∨ flag = "--driver" ∨ flag = "--style" := by
      simpa [compileFlags] using h (flag, v) (by simp)
    rw [setAll_concat, Except.bind_eq_ok_iff]
    simp only [ih, getLast?_values_concat]
    rcases hflag with rfl | rfl | rfl
    · simp only [set_catalog_iff, sourceForm_catalog, if_true]
      constructor
      · rintro ⟨d₁, ⟨-, hsource, hnone⟩, rfl⟩
        exact ⟨rfl, hsource, hnone⟩
      · rintro ⟨hcatalog, hsource, hnone⟩
        exact ⟨{ d with catalog := (values "--catalog" opts).getLast? }, ⟨rfl, hsource, hnone⟩,
          by rw [← hcatalog]⟩
    · simp only [set_driver_iff, sourceForm_driver, if_neg (by decide : "--driver" ≠ "--catalog")]
      constructor
      · rintro ⟨d₁, ⟨hcatalog, hsource, hnone⟩, hno, rfl⟩
        exact ⟨hcatalog, ⟨rfl, d₁.source, hsource, hno⟩, hnone⟩
      · rintro ⟨hcatalog, ⟨hdriver, s, hsource, hno⟩, hnone⟩
        exact ⟨{ d with source := s }, ⟨hcatalog, hsource, hnone⟩, hno, by rw [← hdriver]⟩
    · simp only [set_style_iff, sourceForm_style, if_neg (by decide : "--style" ≠ "--catalog")]
      constructor
      · rintro ⟨d₁, ⟨hcatalog, hsource, hnone⟩, hno, x, hx, rfl⟩
        exact ⟨hcatalog, ⟨x, rfl, hx, d₁.source, hsource, hno⟩, hnone⟩
      · rintro ⟨hcatalog, ⟨x, hdialect, hx, s, hsource, hno⟩, hnone⟩
        exact ⟨{ d with source := s }, ⟨hcatalog, hsource, hnone⟩, hno, x, hx,
          by rw [← hdialect]⟩

end CompileDraft

theorem parseCompile_option (d : CompileDraft) (flag value : String) (ws : List Word) :
    parseCompile d (.option flag value :: ws) =
      (d.set flag value).bind fun d => parseCompile d ws := by
  rw [parseCompile]
  cases d.set flag value <;> rfl

/-- Options and statements are taken in apart from each other. -/
theorem parseCompile_items (d : CompileDraft) (statements : List String) (items : List Item) :
    parseCompile { d with statements } (items.map Item.word) =
      (d.setAll (options items)).bind fun d =>
        parseCompile { d with statements := (plains items).reverse ++ statements } [] := by
  induction items generalizing d statements with
  | nil => rfl
  | cons x items ih =>
    have hoption : ∀ flag value,
        parseCompile { d with statements } (.option flag value :: items.map Item.word) =
          (d.setAll ((flag, value) :: options items)).bind fun d =>
            parseCompile { d with statements := (plains items).reverse ++ statements } [] := by
      intro flag value
      rw [parseCompile_option, CompileDraft.setAll, CompileDraft.set_statements]
      cases d.set flag value with
      | error e => rfl
      | ok d' => exact ih d' statements
    cases x with
    | spaced flag value => exact hoption flag value
    | joined flag value => exact hoption flag value
    | plain token =>
      rw [options_plain, plains_plain, List.reverse_cons, List.append_assoc, List.singleton_append]
      exact ih d (token :: statements)

/-- What `compile` makes of items. -/
theorem parseCompile_items_iff {items : List Item} {r : CompileRequest}
    (h : ∀ o ∈ options items, o.1 ∈ compileFlags) :
    parseCompile ⟨none, .catalog, []⟩ (items.map Item.word) = .ok (.compile r) ↔
      (values "--catalog" (options items)).getLast? = some r.catalog ∧
      SourceForm (options items) r.source ∧ plains items = r.statements := by
  have hitems := parseCompile_items ⟨none, .catalog, []⟩ [] items
  rw [hitems, Except.bind_eq_ok_iff]
  obtain ⟨catalog, source, statements⟩ := r
  constructor
  · rintro ⟨d, hset, hfinish⟩
    obtain ⟨hcatalog, hsource, -⟩ := (CompileDraft.setAll_start_iff h).1 hset
    rw [← hcatalog]
    cases hd : d.catalog with
    | none => simp [parseCompile, hd] at hfinish
    | some path =>
      obtain ⟨rfl, rfl, rfl⟩ : path = catalog ∧ d.source = source ∧ plains items = statements := by
        simpa [parseCompile, hd] using hfinish
      exact ⟨rfl, hsource, rfl⟩
  · rintro ⟨hcatalog, hsource, rfl⟩
    exact ⟨⟨some catalog, source, []⟩,
      (CompileDraft.setAll_start_iff h).2 ⟨hcatalog.symm, hsource, rfl⟩, by simp [parseCompile]⟩

end SqlCatalog.Command
