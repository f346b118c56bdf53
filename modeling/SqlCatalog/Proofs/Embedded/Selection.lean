import SqlCatalog.Embedded.Database
/-!
# Selecting parameters

`SELECT ? AS "a", ? AS "b"` answers with one row of its parameters. What an engine has
to do with such a text is a property of the engine (`Engine.Selects`), and the embedded
database has it whatever the names are (`Database.selects_selectText`): its lexer reads
the text back token by token, quotes inside names included, and each `?` is a parameter
of its own.
-/
namespace SqlCatalog.Embedded

/-- The text selects its parameters under these names: it answers with one row, whose cells
are what the engine makes of them. -/
def Engine.Selects {σ : Type} (e : Engine σ) (sql : String) (columns : List String) : Prop :=
  ∀ state cells, cells.length = columns.length →
    (e.run sql cells state).1 = .ok ⟨columns, [cells.map Cell.kept]⟩

/-! ## Text -/

namespace Token

variable {state next : LexState} {c : Char} {rest : List Char}

theorem scan_extend (h : state.extend? c = some next) :
    scan state (c :: rest) = scan next rest := by
  rw [scan, h]

theorem scan_start (h : state.extend? c = none) :
    scan state (c :: rest) = (scan (.start c) rest).map (state.token?.toList ++ ·) := by
  rw [scan, h]

end Token

namespace Statement
open Token

/-- Characters inside quotes; a quote is written twice. -/
def escaped (cs : List Char) : List Char := cs.flatMap fun c => if c = '"' then ['"', '"'] else [c]

/-- A placeholder under a name. -/
def item (name : String) : List Char :=
  ['?', ' ', 'A', 'S', ' ', '"'] ++ escaped name.toList ++ ['"']

/-- `SELECT ? AS "a", ? AS "b", ...` -/
def selectText (columns : List String) : String :=
  String.ofList (['S', 'E', 'L', 'E', 'C', 'T', ' '] ++ [',', ' '].intercalate (columns.map item))

/-- The tokens of a placeholder under a name. -/
def itemTokens (name : String) : List Token := [.placeholder none, .word "AS", .quoted name]

theorem scan_quoted (read cs rest : List Char) :
    scan (.quoted read) (escaped cs ++ '"' :: rest) = scan (.closed (cs.reverse ++ read)) rest := by
  induction cs generalizing read with
  | nil => exact scan_extend rfl
  | cons c cs ih =>
    by_cases hc : c = '"'
    · subst hc
      have hcs : escaped ('"' :: cs) ++ '"' :: rest =
          '"' :: '"' :: (escaped cs ++ '"' :: rest) := rfl
      rw [hcs, scan_extend rfl, scan_extend rfl, ih]
      simp
    · have hcs : escaped (c :: cs) ++ '"' :: rest = c :: (escaped cs ++ '"' :: rest) := by
        simp [escaped, hc]
      have hext : (LexState.quoted read).extend? c = some (.quoted (c :: read)) := by
        simp [LexState.extend?, hc]
      rw [hcs, scan_extend hext, ih]
      simp

theorem scan_item (name : String) (rest : List Char) :
    scan .between (item name ++ rest) =
      (scan (.closed name.toList.reverse) rest).map ([.placeholder none, .word "AS"] ++ ·) := by
  have hitem : item name ++ rest =
      '?' :: ' ' :: 'A' :: 'S' :: ' ' :: '"' :: (escaped name.toList ++ '"' :: rest) := by
    rw [item, List.append_assoc, List.append_assoc]
    rfl
  rw [hitem, scan_start rfl, scan_start rfl, scan_start rfl, scan_extend rfl, scan_start rfl,
    scan_start rfl, show LexState.start '"' = .quoted [] from rfl, scan_quoted, List.append_nil]
  cases scan (.closed name.toList.reverse) rest <;> rfl

theorem scan_comma (read rest : List Char) :
    scan (.closed read) (',' :: ' ' :: rest) =
      (scan .between rest).map ([.quoted (String.ofList read.reverse), .mark ','] ++ ·) := by
  rw [scan_start rfl, scan_start rfl, show LexState.start ' ' = .between from rfl]
  cases scan .between rest <;> rfl

theorem scan_items (name : String) (names : List String) :
    scan .between ([',', ' '].intercalate ((name :: names).map item)) =
      some ([.mark ','].intercalate ((name :: names).map itemTokens)) := by
  induction names generalizing name with
  | nil =>
    have hscan := scan_item name []
    have hend : scan (.closed name.toList.reverse) [] = some [.quoted name] := by
      simp [scan, LexState.token?]
    rw [hend, List.append_nil] at hscan
    simpa [itemTokens] using hscan
  | cons next names ih =>
    have hcomma :=
      scan_comma name.toList.reverse ([',', ' '].intercalate ((next :: names).map item))
    rw [ih] at hcomma
    rw [List.map_cons, List.map_cons, List.intercalate_cons_cons, List.append_assoc, scan_item]
    rw [List.map_cons] at hcomma
    simp only [List.cons_append, List.nil_append]
    rw [hcomma]
    simp [itemTokens, List.intercalate_cons_cons]

theorem scan_select (rest : List Char) :
    scan .between (['S', 'E', 'L', 'E', 'C', 'T', ' '] ++ rest) =
      (scan .between rest).map ([.word "SELECT"] ++ ·) := by
  show scan .between ('S' :: 'E' :: 'L' :: 'E' :: 'C' :: 'T' :: ' ' :: rest) = _
  rw [scan_start rfl, scan_extend rfl, scan_extend rfl, scan_extend rfl, scan_extend rfl,
    scan_extend rfl, scan_start rfl, show LexState.start ' ' = .between from rfl]
  cases scan .between rest <;> rfl

/-- The tokens of the text. -/
def selectTokens (columns : List String) : List Token :=
  .word "SELECT" :: [.mark ','].intercalate (columns.map itemTokens)

theorem scan_selectText {columns : List String} (h : columns ≠ []) :
    scan .between (selectText columns).toList = some (selectTokens columns) := by
  obtain ⟨name, names, rfl⟩ := List.exists_cons_of_ne_nil h
  have htext : (selectText (name :: names)).toList =
      ['S', 'E', 'L', 'E', 'C', 'T', ' '] ++ [',', ' '].intercalate ((name :: names).map item) :=
    String.toList_ofList
  rw [htext, scan_select, scan_items, Option.map_some]
  rfl

/-- No statement over the table has a placeholder as its second token. -/
theorem second_of_onTable :
    ∀ e ∈ onTable, ((scan .between e.1.toList).bind (·[1]?)).bind placeholder? = none := by
  decide +kernel

theorem find?_onTable (folded : List Token) :
    onTable.find? (fun e => tokens e.1 == some (.word "select" :: .placeholder none :: folded)) =
      none := by
  apply List.find?_eq_none.2
  intro e he heq
  have hsecond := second_of_onTable e he
  rw [beq_iff_eq, tokens, Option.map_eq_some_iff] at heq
  obtain ⟨ts, hts, hfold⟩ := heq
  rcases ts with _ | ⟨first, _ | ⟨second, ts⟩⟩
  · simp at hfold
  · simp at hfold
  · have hplaceholder : fold second = .placeholder none := by
      simp only [List.map_cons, List.cons.injEq] at hfold
      exact hfold.2.1
    rw [hts] at hsecond
    cases second <;> simp [fold, placeholder?] at hplaceholder hsecond

theorem lower_select : "SELECT".map Char.toLower = "select" :=
  String.toList_inj.1 String.toList_map

theorem lower_as : "AS".map Char.toLower = "as" :=
  String.toList_inj.1 String.toList_map

/-- A name in front of others. -/
theorem columns_cons (name : String) (folded named : List Token) :
    columns (.placeholder none :: .word "as" :: .quoted name :: .mark ',' :: folded)
      (.placeholder none :: .word "AS" :: .quoted name :: .mark ',' :: named) =
      (columns folded named).map fun r => (name :: r.1, r.2) := by
  rw [columns]
  cases columns folded named <;> rfl

theorem columns_items (name : String) (names : List String) :
    columns (([.mark ','].intercalate ((name :: names).map itemTokens)).map fold)
      ([.mark ','].intercalate ((name :: names).map itemTokens)) = some (name :: names, []) := by
  induction names generalizing name with
  | nil => simp [itemTokens, fold, lower_as, columns]
  | cons next names ih =>
    have hcons := columns_cons name
      (([.mark ','].intercalate ((next :: names).map itemTokens)).map fold)
      ([.mark ','].intercalate ((next :: names).map itemTokens))
    rw [ih] at hcons
    simpa [List.intercalate_cons_cons, itemTokens, fold, lower_as] using hcons

theorem placeholders_items (name : String) (names : List String) :
    ([.mark ','].intercalate ((name :: names).map itemTokens)).filterMap placeholder? =
      List.replicate (names.length + 1) none := by
  induction names generalizing name with
  | nil => simp [itemTokens, placeholder?]
  | cons next names ih =>
    rw [List.map_cons, List.map_cons, List.intercalate_cons_cons, ← List.map_cons,
      List.filterMap_append, List.filterMap_append, ih]
    rfl

/-- Each `?` is a parameter of its own. -/
theorem slots_replicate (known : List (Option String)) (n : Nat) :
    slots known (List.replicate n none) = List.range' known.length n := by
  induction n generalizing known with
  | zero => rfl
  | succ n ih =>
    rw [List.replicate_succ, slots, if_pos rfl]
    simp only
    rw [ih, List.length_append, List.range'_succ]
    rfl

theorem echo?_selectTokens {columns : List String} (h : columns ≠ []) :
    echo? ((selectTokens columns).map fold) (selectTokens columns) = some (.echo columns true) := by
  obtain ⟨name, names, rfl⟩ := List.exists_cons_of_ne_nil h
  rw [selectTokens, List.map_cons, fold, lower_select, echo?, columns_items]
  rfl

/-- A text that is no statement over the table is read by its columns. -/
theorem parse_of_echo {sql : String} {named : List Token} {statement : Statement}
    (hscan : scan .between sql.toList = some named)
    (htable : onTable.find? (fun e => tokens e.1 == some (named.map fold)) = none)
    (hecho : echo? (named.map fold) named = some statement) :
    parse sql = some ⟨statement, slots [] (named.filterMap placeholder?)⟩ := by
  rw [parse, hscan]
  simp only [Option.bind_eq_bind, Option.bind_some, htable, hecho]

theorem fold_selectTokens (name : String) (names : List String) :
    ∃ rest, (selectTokens (name :: names)).map fold =
      .word "select" :: .placeholder none :: rest := by
  rw [selectTokens, List.map_cons, fold, lower_select]
  cases names with
  | nil => exact ⟨_, rfl⟩
  | cons next names => exact ⟨_, rfl⟩

theorem parse_selectText {columns : List String} (h : columns ≠ []) :
    parse (selectText columns) = some (positional (.echo columns true)) := by
  have hscan := scan_selectText h
  have hecho := echo?_selectTokens h
  obtain ⟨name, names, rfl⟩ := List.exists_cons_of_ne_nil h
  obtain ⟨rest, hrest⟩ := fold_selectTokens name names
  have htable := find?_onTable rest
  rw [← hrest] at htable
  have hslots : slots [] ((selectTokens (name :: names)).filterMap placeholder?) =
      List.range (names.length + 1) := by
    rw [selectTokens, List.filterMap_cons_none rfl, placeholders_items, slots_replicate,
      List.range_eq_range', List.length_nil]
  rw [parse_of_echo hscan htable hecho, hslots]
  rfl

end Statement

/-! ## Answers -/

namespace Parsed

theorem foldl_max_range' (k n m : Nat) :
    (List.range' k n).foldl (fun n slot => max n (slot + 1)) m =
      if n = 0 then m else max m (k + n) := by
  induction n generalizing k m with
  | zero => rfl
  | succ n ih =>
    rw [List.range'_succ, List.foldl_cons, ih]
    split <;> simp <;> omega

theorem filterMap_range {α : Type} (l : List α) : (List.range l.length).filterMap (l[·]?) = l := by
  induction l with
  | nil => rfl
  | cons a l ih =>
    have hfirst : (a :: l)[0]? = some a := rfl
    rw [List.length_cons, List.range_succ_eq_map, List.filterMap_cons_some hfirst,
      List.filterMap_map]
    exact congrArg (a :: ·) ih

variable {columns : List String}

theorem paramCount_echo : (Statement.echo columns true).positional.paramCount = columns.length := by
  rw [paramCount, Statement.positional, Statement.placeholderCount, List.range_eq_range',
    foldl_max_range']
  split <;> simp_all

theorem fill_echo {α : Type} {params : List α} (h : params.length = columns.length) :
    (Statement.echo columns true).positional.fill params = params := by
  rw [fill, Statement.positional, Statement.placeholderCount, ← h, filterMap_range]

end Parsed

/-- The embedded database selects parameters, under any names. -/
theorem Database.selects_selectText {columns : List String} (h : columns ≠ []) :
    Database.engine.Selects (Statement.selectText columns) columns := by
  intro d cells hlen
  have hcount : ¬cells.length ≠ (Statement.echo columns true).positional.paramCount := by
    rw [Parsed.paramCount_echo]
    exact fun hne => hne hlen
  have hfill : (Statement.echo columns true).positional.fill (cells.map Cell.kept) =
      cells.map Cell.kept := Parsed.fill_echo (by rw [List.length_map, hlen])
  have hprepare : prepare (Statement.echo columns true).positional.statement
      (Statement.selectText columns) d.contents = .ok (.parameters true) := rfl
  simp only [engine, Statement.parse_selectText h, run, hprepare]
  rw [if_neg hcount, hfill]
  rfl

end SqlCatalog.Embedded
