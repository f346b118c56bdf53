import Mathlib.Data.List.Forall2
import SqlCatalog.Proofs.Arguments.Order
import SqlCatalog.Proofs.Command.Grammar
import SqlCatalog.Proofs.Decimal.Numeral
import SqlCatalog.Command.Params
/-!
# Parameters of a command line

A raw value is null, an integer or text, and which one is settled by how it is
written (`parseValue_typed`); a printed integer is read as itself, up to both
limits. The tokens behind the statement give their values by name: a name gets the
value of the last token for it, whatever else a value looks like
(`parameters_by_name`).
-/
namespace SqlCatalog.Command

open Decimal (Numeral)

/-! ## Raw values -/

theorem not_numeral_null (n : Int) : ¬Numeral "null".toList n := by
  rw [← Decimal.integer?_eq_some_iff]
  have hnone : Decimal.integer? "null".toList = none := by decide
  rw [hnone]
  exact nofun

theorem numeral_toString (n : Int) : Numeral (toString n).toList n :=
  Decimal.integer?_eq_some_iff.1 (Decimal.integer?_toString n)

/-- An integer of 64 bits that is written is read. -/
theorem parseValue_of_numeral {raw : String} {v : Int64} (h : Numeral raw.toList v.toInt) :
    parseValue raw = .int v := by
  have hnull : raw ≠ "null" := by
    rintro rfl
    exact not_numeral_null _ h
  rw [parseValue, if_neg hnull, Decimal.integer?_eq_some_iff.2 h]
  simp only [Int64.minValue_le_toInt, Int64.toInt_le, and_self, if_true, Int64.ofInt_toInt]

/-- Everything that writes no integer of 64 bits is text, but for `null`. -/
theorem parseValue_of_no_numeral {raw : String} (hnull : raw ≠ "null")
    (h : ∀ n, Numeral raw.toList n → n < -2 ^ 63 ∨ 2 ^ 63 ≤ n) : parseValue raw = .text raw := by
  rw [parseValue, if_neg hnull]
  cases hread : Decimal.integer? raw.toList with
  | none => rfl
  | some n =>
    have hout := h n (Decimal.integer?_eq_some_iff.1 hread)
    rw [Int64.toInt_minValue, Int64.toInt_maxValue]
    exact if_neg (by omega)

/-- A raw value is one of three things. -/
theorem parseValue_cases (raw : String) :
    (raw = "null" ∧ parseValue raw = .null) ∨
      (∃ v : Int64, Numeral raw.toList v.toInt ∧ parseValue raw = .int v) ∨
      raw ≠ "null" ∧ (∀ n, Numeral raw.toList n → n < -2 ^ 63 ∨ 2 ^ 63 ≤ n) ∧
        parseValue raw = .text raw := by
  by_cases hnull : raw = "null"
  · exact .inl ⟨hnull, by rw [parseValue, if_pos hnull]⟩
  · by_cases hint : ∃ v : Int64, Numeral raw.toList v.toInt
    · obtain ⟨v, hv⟩ := hint
      exact .inr (.inl ⟨v, hv, parseValue_of_numeral hv⟩)
    · have hout : ∀ n, Numeral raw.toList n → n < -2 ^ 63 ∨ 2 ^ 63 ≤ n := by
        intro n hn
        by_contra hrange
        refine hint ⟨Int64.ofInt n, ?_⟩
        rwa [Int64.toInt_ofInt_of_le (by omega) (by omega)]
      exact .inr (.inr ⟨hnull, hout, parseValue_of_no_numeral hnull hout⟩)

theorem parseValue_eq_null_iff {raw : String} : parseValue raw = .null ↔ raw = "null" := by
  constructor
  · intro h
    rcases parseValue_cases raw with ⟨hnull, -⟩ | ⟨v, -, hint⟩ | ⟨-, -, htext⟩
    · exact hnull
    · rw [hint] at h
      cases h
    · rw [htext] at h
      cases h
  · intro hnull
    rw [parseValue, if_pos hnull]

theorem parseValue_eq_int_iff {raw : String} {v : Int64} :
    parseValue raw = .int v ↔ Numeral raw.toList v.toInt := by
  refine ⟨fun h => ?_, parseValue_of_numeral⟩
  rcases parseValue_cases raw with ⟨-, hnull⟩ | ⟨w, hwritten, hint⟩ | ⟨-, -, htext⟩
  · rw [hnull] at h
    cases h
  · rw [hint] at h
    cases h
    exact hwritten
  · rw [htext] at h
    cases h

theorem parseValue_eq_text_iff {raw : String} :
    parseValue raw = .text raw ↔
      raw ≠ "null" ∧ ∀ n, Numeral raw.toList n → n < -2 ^ 63 ∨ 2 ^ 63 ≤ n := by
  refine ⟨fun h => ?_, fun h => parseValue_of_no_numeral h.1 h.2⟩
  rcases parseValue_cases raw with ⟨-, hnull⟩ | ⟨v, -, hint⟩ | ⟨hne, hout, -⟩
  · rw [hnull] at h
    cases h
  · rw [hint] at h
    cases h
  · exact ⟨hne, hout⟩

/-- A raw value is null only as `null`, an integer exactly if it writes one of 64
bits, and the text that it is in all other cases. The display of an integer is read as
that integer. -/
theorem parseValue_typed (raw : String) :
    (parseValue raw = .null ↔ raw = "null") ∧
    (∀ v : Int64, parseValue raw = .int v ↔ Numeral raw.toList v.toInt) ∧
    (parseValue raw = .text raw ↔
      raw ≠ "null" ∧ ∀ n, Numeral raw.toList n → n < -2 ^ 63 ∨ 2 ^ 63 ≤ n) ∧
    ∀ v : Int64, parseValue (Value.int v).display = .int v := by
  refine ⟨parseValue_eq_null_iff, fun v => parseValue_eq_int_iff, parseValue_eq_text_iff,
    fun v => ?_⟩
  have hwritten : Numeral (Value.int v).display.toList v.toInt := numeral_toString v.toInt
  exact parseValue_eq_int_iff.2 hwritten

/-- Zeros in front count for nothing, and the limits differ by one. -/
example : parseValue "+0009223372036854775807" = .int 9223372036854775807 ∧
    parseValue "9223372036854775808" = .text "9223372036854775808" ∧
    parseValue "-9223372036854775808" = .int (-9223372036854775808) := by
  refine ⟨rfl, rfl, rfl⟩

/-! ## Values by name -/

/-- The token gives the name a raw value: the name stands before its first `=`, the
value behind it. -/
def Assigns (token name raw : String) : Prop :=
  '=' ∉ name.toList ∧ token = assignment (name, raw)

/-- What parameter tokens give for a name. -/
inductive GivenBy (tokens : List String) (name : String) : Value → Prop
  | last (before after : List String) (token raw : String)
      (split : tokens = before ++ token :: after) (assigns : Assigns token name raw)
      (latest : ∀ t ∈ after, ∀ raw', ¬Assigns t name raw') : GivenBy tokens name (parseValue raw)
  | absent (h : ∀ t ∈ tokens, ∀ raw, ¬Assigns t name raw) : GivenBy tokens name .null

variable {params : List (String × String)} {name : String}

theorem assigns_assignment {p : String × String} {raw : String} (h : '=' ∉ p.1.toList) :
    Assigns (assignment p) name raw ↔ p = (name, raw) := by
  constructor
  · rintro ⟨hname, heq⟩
    have hsplit := congrArg splitAssignment heq
    rw [splitAssignment_assignment h, splitAssignment_assignment hname] at hsplit
    exact Option.some.inj hsplit
  · rintro rfl
    exact ⟨h, rfl⟩

theorem length_flatArguments (params : List (String × String)) :
    (flatArguments params).length = 2 * params.length := by
  induction params with
  | nil => rfl
  | cons p params ih => simp only [flatArguments, List.length_cons, ih]; omega

theorem namedPairs_flatArguments (params : List (String × String)) :
    Arguments.namedPairs (flatArguments params) = params.map fun p => (p.1, parseValue p.2) := by
  induction params with
  | nil => rfl
  | cons p params ih =>
    rw [List.map_cons, ← ih]
    rfl

/-- Parameters always bind. -/
theorem bind_flatArguments (params : List (String × String)) :
    Arguments.bind (flatArguments params) =
      .ok (KeyMap.ofList (params.map fun p => (p.1, parseValue p.2))) := by
  have heven : (flatArguments params).length % 2 = 0 := by
    rw [length_flatArguments]
    omega
  rw [Arguments.bind_of_even heven, Arguments.addPairs_eq_ofList, namedPairs_flatArguments]

/-- A name is bound to the value of its last parameter. -/
theorem find?_params (params : List (String × String)) (name : String) :
    (KeyMap.ofList (params.map fun p => (p.1, parseValue p.2))).find? name =
      (params.filter (fun p => p.1 = name)).getLast?.map fun p => parseValue p.2 := by
  rw [KeyMap.find?_ofList, List.filter_map, List.getLast?_map, Option.map_map]
  rfl

theorem not_assigns_of_filter_eq_nil (h : ∀ p ∈ params, '=' ∉ p.1.toList)
    (hnil : params.filter (fun p => p.1 = name) = []) :
    ∀ t ∈ params.map assignment, ∀ raw, ¬Assigns t name raw := by
  intro t ht raw hassigns
  obtain ⟨p, hp, rfl⟩ := List.mem_map.1 ht
  rw [assigns_assignment (h p hp)] at hassigns
  have hne := List.filter_eq_nil_iff.1 hnil p hp
  exact hne (by simp [hassigns])

/-- The last pair of a name stands behind some others and before none of that name. -/
theorem exists_split_of_getLast? {p : String × String}
    (h : (params.filter (fun p => p.1 = name)).getLast? = some p) :
    ∃ before after, params = before ++ p :: after ∧ p.1 = name ∧
      after.filter (fun p => p.1 = name) = [] := by
  obtain ⟨earlier, hfilter⟩ := List.getLast?_eq_some_iff.1 h
  obtain ⟨before, rest, rfl, -, hrest⟩ := List.filter_eq_append_iff.1 hfilter
  obtain ⟨skipped, after, rfl, -, hname, hafter⟩ := List.filter_eq_cons_iff.1 hrest
  exact ⟨before ++ skipped, after, by rw [List.append_assoc], by simpa using hname, hafter⟩

/-- Pairs give a name what the tokens for them give it. -/
theorem givenBy_params (h : ∀ p ∈ params, '=' ∉ p.1.toList) (name : String) :
    GivenBy (params.map assignment) name
      (((params.filter (fun p => p.1 = name)).getLast?.map fun p =>
        parseValue p.2).getD .null) := by
  cases hlast : (params.filter (fun p => p.1 = name)).getLast? with
  | none =>
    exact .absent (not_assigns_of_filter_eq_nil h (List.getLast?_eq_none_iff.1 hlast))
  | some p =>
    obtain ⟨before, after, rfl, rfl, hafter⟩ := exists_split_of_getLast? hlast
    have hp := h p (by simp)
    have hrest : ∀ q ∈ after, '=' ∉ q.1.toList := fun q hq => h q (by simp [hq])
    have hassigns : Assigns (assignment p) p.1 p.2 := (assigns_assignment hp).2 rfl
    rw [List.map_append, List.map_cons]
    exact .last _ _ _ _ rfl hassigns (not_assigns_of_filter_eq_nil hrest hafter)

/-- A token gives one raw value to a name. -/
theorem Assigns.unique {token raw raw' : String} (h : Assigns token name raw)
    (h' : Assigns token name raw') : raw = raw' := by
  obtain ⟨hname, rfl⟩ := h
  have heq := (assigns_assignment (p := (name, raw)) hname).1 h'
  exact congrArg Prod.snd heq

/-- There is one last token for a name. -/
theorem last_token_unique {before after before' after' : List String}
    {token token' raw raw' : String}
    (hsplit : before ++ token :: after = before' ++ token' :: after')
    (h : Assigns token name raw) (h' : Assigns token' name raw')
    (hlatest : ∀ t ∈ after, ∀ raw, ¬Assigns t name raw)
    (hlatest' : ∀ t ∈ after', ∀ raw, ¬Assigns t name raw) : token = token' := by
  rcases List.append_eq_append_iff.1 hsplit with ⟨between, -, hrest⟩ | ⟨between, -, hrest⟩
  · cases between with
    | nil => exact (List.cons.inj hrest).1
    | cons t between =>
      obtain ⟨-, rfl⟩ := List.cons.inj hrest
      exact absurd h' (hlatest token' (by simp) raw')
  · cases between with
    | nil => exact (List.cons.inj hrest).1.symm
    | cons t between =>
      obtain ⟨-, rfl⟩ := List.cons.inj hrest
      exact absurd h (hlatest' token (by simp) raw)

/-- Tokens give one value to a name. -/
theorem GivenBy.unique {tokens : List String} {v w : Value} (hv : GivenBy tokens name v)
    (hw : GivenBy tokens name w) : v = w := by
  cases hv with
  | last _ _ _ _ split assigns latest =>
    cases hw with
    | last _ _ _ _ split' assigns' latest' =>
      obtain rfl := last_token_unique (split.symm.trans split') assigns assigns' latest latest'
      rw [assigns.unique assigns']
    | absent h => exact absurd assigns (h _ (by simp [split]) _)
  | absent h =>
    cases hw with
    | last _ _ _ _ split assigns latest => exact absurd assigns (h _ (by simp [split]) _)
    | absent => rfl

/-! ## From the command line -/

/-- The tokens of a command line to run a statement, taken apart. -/
structure RunItems (args : List String) (items : List Item) : Prop where
  args : args = "run" :: items.flatMap Item.tokens
  fits : ∀ x ∈ items, x.Fits runFlags

theorem exists_runItems {args : List String} {r : RunRequest} (h : parse args = .ok (.run r)) :
    ∃ items, RunItems args items := by
  obtain ⟨rest, rfl, hparse⟩ := parse_eq_run_iff.1 h
  have htaken : ∀ w ∈ words runFlags rest, w.Taken := (of_parseRun hparse).elim (by simp) And.right
  obtain ⟨items, hfits, rfl⟩ := exists_items htaken
  exact ⟨items, rfl, hfits⟩

theorem RunItems.form {args : List String} {items : List Item} {r : RunRequest}
    (h : RunItems args items) (hparse : parse args = .ok (.run r)) : RunForm items r := by
  obtain ⟨rest, hargs, hrun⟩ := parse_eq_run_iff.1 hparse
  obtain rfl : items.flatMap Item.tokens = rest := (List.cons.inj (h.args.symm.trans hargs)).2
  exact (parseRun_tokens_iff h.fits).1 hrun

/-- The plain tokens of an accepted command line are the statement and its parameters.
These always bind, and each name gets the raw value of the last parameter with that
name before its first `=`, or null if there is none. -/
theorem parameters_by_name {args : List String} {r : RunRequest}
    (h : parse args = .ok (.run r)) :
    (∃ items, RunItems args items) ∧ ∀ items, RunItems args items →
      ∃ tokens, plains items = r.statement :: tokens ∧
        ∃ bound, Arguments.bind (flatArguments r.params) = .ok bound ∧
          ∀ names, List.Forall₂ (GivenBy tokens) names (Arguments.project names bound) := by
  refine ⟨exists_runItems h, fun items hitems => ?_⟩
  have hform := hitems.form h
  refine ⟨_, hform.plains, _, bind_flatArguments r.params, fun names => ?_⟩
  rw [Arguments.project, List.forall₂_map_right_iff, List.forall₂_same]
  intro name _
  rw [find?_params]
  exact givenBy_params (fun p hp => (hform.names p hp).2.1) name

/-- `a` is given twice, and what looks like an assignment behind the first `=` is the
value of `b`. -/
theorem parameters_by_name_repeated :
    let params := [("a", "1"), ("b", "c=2"), ("a", "-7")]
    parse ["run", "--catalog", "x=y", "find", "a=1", "b=c=2", "--database=", "a=-7"] =
        .ok (.run ⟨"x=y", "", none, "find", params⟩) ∧
      ∃ bound, Arguments.bind (flatArguments params) = .ok bound ∧
        Arguments.project ["b", "c", "a"] bound = [.text "c=2", .null, .int (-7)] := by
  intro params
  have hparse : parse ["run", "--catalog", "x=y", "find", "a=1", "b=c=2", "--database=", "a=-7"] =
      .ok (.run ⟨"x=y", "", none, "find", params⟩) := by decide +kernel
  let items : List Item := [.spaced "--catalog" "x=y", .plain "find", .plain "a=1",
    .plain "b=c=2", .joined "--database" "", .plain "a=-7"]
  have hitems : RunItems ["run", "--catalog", "x=y", "find", "a=1", "b=c=2", "--database=", "a=-7"]
      items := ⟨by decide, by simp +decide [items, Item.Fits, Dashed]⟩
  obtain ⟨tokens, htokens, bound, hbind, hnames⟩ := (parameters_by_name hparse).2 items hitems
  obtain rfl : ["a=1", "b=c=2", "a=-7"] = tokens := (List.cons.inj htokens).2
  refine ⟨hparse, bound, hbind, ?_⟩
  have hplain : ∀ p ∈ params, '=' ∉ p.1.toList := by decide
  have hlast : ∀ p ∈ [("a", "-7")], '=' ∉ p.1.toList := by decide
  have hb : GivenBy ["a=1", "b=c=2", "a=-7"] "b" (parseValue "c=2") :=
    .last ["a=1"] ["a=-7"] "b=c=2" "c=2" rfl ⟨by decide, by decide⟩
      (not_assigns_of_filter_eq_nil hlast (by decide))
  have hc : GivenBy ["a=1", "b=c=2", "a=-7"] "c" .null :=
    .absent (not_assigns_of_filter_eq_nil hplain (by decide))
  have ha : GivenBy ["a=1", "b=c=2", "a=-7"] "a" (parseValue "-7") :=
    .last ["a=1", "b=c=2"] [] "a=-7" "-7" rfl ⟨by decide, by decide⟩ (List.forall_mem_nil _)
  have hunique : Relator.RightUnique (GivenBy ["a=1", "b=c=2", "a=-7"]) := fun _ _ _ h h' =>
    h.unique h'
  exact List.right_unique_forall₂' hunique (hnames ["b", "c", "a"])
    (.cons hb (.cons hc (.cons ha .nil)))

end SqlCatalog.Command
