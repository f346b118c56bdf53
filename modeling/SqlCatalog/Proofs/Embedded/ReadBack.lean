import Mathlib.Data.List.Forall2
import SqlCatalog.Proofs.Embedded.Selection
import SqlCatalog.Proofs.Text.Lossy
/-!
# Values that are read back

A value goes to the database as a cell and is read back from one. Booleans, JSON and
what is not a number have no cell of their own and come back as another value; all
else comes back as it was (`stored_of_isPlain`). What comes back has a cell of its own,
so it comes back unchanged from then on (`stored_stored`), and it answers every
accessor that the value itself answers (`answersFor_stored`).

The theorems are about any engine that selects parameters (`Engine.Selects`); the
embedded database is one.
-/
namespace SqlCatalog

/-! ## Kinds of values -/

namespace Value

/-- Values that a cell can hold. -/
def IsPlain : Value → Prop
  | null | int _ | text _ | bytes _ => True
  | float x => x.isNaN = false
  | bool _ | json _ => False

/-- What an accessor reads from `v`, it reads from `w`. -/
structure AnswersFor (w v : Value) : Prop where
  asText : ∀ s, v.asText = some s → w.asText = some s
  asInt : ∀ n, v.asInt = some n → w.asInt = some n
  asFloat : ∀ x, v.asFloat = some x → w.asFloat = some x
  asBool : ∀ b, v.asBool = some b → w.asBool = some b
  asBytes : ∀ b, v.asBytes = some b → w.asBytes = some b

theorem AnswersFor.refl (v : Value) : v.AnswersFor v :=
  ⟨fun _ h => h, fun _ h => h, fun _ h => h, fun _ h => h, fun _ h => h⟩

end Value

namespace Embedded

/-! ## What comes back -/

namespace Cell

/-- The value that comes back for a value that was handed over. -/
def stored (v : Value) : Value := (ofValue v).kept.toValue

theorem stored_of_isPlain {v : Value} (h : v.IsPlain) : stored v = v := by
  cases v with
  | float x =>
    have hx : x.isNaN = false := h
    simp [stored, ofValue, kept, hx, toValue]
  | text s =>
    show Value.text (Text.lossy (Text.utf8 s)) = .text s
    rw [Text.lossy_utf8]
  | bool b => exact h.elim
  | json j => exact h.elim
  | null | int n | bytes b => rfl

theorem isPlain_stored (v : Value) : (stored v).IsPlain := by
  cases v with
  | float x =>
    by_cases hx : x.isNaN = true
    · simp [stored, ofValue, kept, hx, toValue, Value.IsPlain]
    · simp [stored, ofValue, kept, hx, toValue, Value.IsPlain]
  | null | bool b | int n | text s | bytes b | json j => trivial

/-- A value that came back comes back as it is. -/
theorem stored_stored (v : Value) : stored (stored v) = stored v :=
  stored_of_isPlain (isPlain_stored v)

theorem answersFor_stored {v : Value} (h : ∀ x, v = .float x → x.isNaN = false) :
    (stored v).AnswersFor v := by
  cases v with
  | bool b =>
    -- an integer, which is read as a boolean by comparing it with zero
    constructor
    case asInt => exact fun n h => h
    case asBool =>
      intro read h
      cases h
      cases b <;> rfl
    all_goals simp [Value.asText, Value.asFloat, Value.asBytes]
  | json j =>
    -- no accessor answers for JSON
    constructor <;> simp [Value.asText, Value.asInt, Value.asFloat, Value.asBool, Value.asBytes]
  | float x =>
    have hplain : (Value.float x).IsPlain := h x rfl
    rw [stored_of_isPlain hplain]
    exact .refl _
  | null =>
    exact .refl _
  | int n =>
    exact .refl _
  | bytes b =>
    exact .refl _
  | text s =>
    have hplain : (Value.text s).IsPlain := trivial
    rw [stored_of_isPlain hplain]
    exact .refl _

end Cell

/-! ## Rows -/

namespace Row

variable {columns : List String} {cells : List Cell} {r : Row} {column : String}

theorem readValues_eq (i : Nat) (h : cells.length = columns.length) :
    readValues i columns cells = .ok (cells.map Cell.toValue) := by
  induction columns generalizing i cells with
  | nil =>
    obtain rfl := List.length_eq_zero_iff.1 h
    rfl
  | cons name columns ih =>
    cases cells with
    | nil => cases h
    | cons c cells =>
      rw [readValues, ih (i + 1) (by simpa using h)]
      rfl

theorem read_eq (h : cells.length = columns.length) :
    read columns cells = .ok ⟨columns, cells.map Cell.toValue⟩ := by
  rw [read, readValues_eq 0 h]
  rfl

/-- The number of the first column with a name. -/
theorem findIdx?_eq_some_iff {i : Nat} :
    r.columns.findIdx? (· == column) = some i ↔
      r.columns[i]? = some column ∧ ∀ j < i, r.columns[j]? ≠ some column := by
  rw [List.findIdx?_eq_some_iff_getElem]
  constructor
  · rintro ⟨hi, hcolumn, hbefore⟩
    refine ⟨by simpa [List.getElem?_eq_getElem hi] using hcolumn, fun j hj => ?_⟩
    have hne := hbefore j hj
    rw [List.getElem?_eq_getElem (by omega)]
    simpa using hne
  · rintro ⟨hcolumn, hbefore⟩
    obtain ⟨hi, hget⟩ := List.getElem?_eq_some_iff.1 hcolumn
    refine ⟨hi, by simp [hget], fun j hj => ?_⟩
    have hne := hbefore j hj
    rw [List.getElem?_eq_getElem (by omega)] at hne
    simpa using hne

theorem find?_eq_some_iff {v : Value} :
    r.find? column = some v ↔
      ∃ i : Nat, r.columns[i]? = some column ∧ (∀ j < i, r.columns[j]? ≠ some column) ∧
        r.values[i]? = some v := by
  rw [find?, Option.bind_eq_some_iff]
  simp only [findIdx?_eq_some_iff, and_assoc]

theorem find?_eq_none_iff (h : r.values.length = r.columns.length) :
    r.find? column = none ↔ column ∉ r.columns := by
  rw [find?]
  cases hidx : r.columns.findIdx? (· == column) with
  | none =>
    have hnone := List.findIdx?_eq_none_iff.1 hidx
    refine iff_of_true rfl fun hmem => ?_
    simpa using hnone column hmem
  | some i =>
    have hcolumn := (findIdx?_eq_some_iff.1 hidx).1
    obtain ⟨hi, -⟩ := List.getElem?_eq_some_iff.1 hcolumn
    refine iff_of_false ?_ (not_not_intro (List.mem_of_getElem? hcolumn))
    simp [List.getElem?_eq_getElem (show i < r.values.length by omega)]

end Row

/-! ## Queries -/

variable {σ : Type} {e : Engine σ} {sql : String} {columns : List String} {params : List Value}

theorem Engine.Selects.query (hs : e.Selects sql columns) (h : params.length = columns.length)
    (state : σ) : (e.query sql params state).1 = .ok [⟨columns, params.map Cell.stored⟩] := by
  have hrun := hs state (params.map Cell.ofValue) (by rw [List.length_map, h])
  have hrow : Row.read columns ((params.map Cell.ofValue).map Cell.kept) =
      .ok ⟨columns, params.map Cell.stored⟩ := by
    rw [Row.read_eq (by simpa using h), List.map_map, List.map_map]
    rfl
  have hread : Answer.read ⟨columns, [(params.map Cell.ofValue).map Cell.kept]⟩ =
      .ok [⟨columns, params.map Cell.stored⟩] := by
    rw [Answer.read, List.mapM_cons, hrow]
    rfl
  have hquery : (e.query sql params state).1 =
      (e.run sql (params.map Cell.ofValue) state).1.bind Answer.read := rfl
  rw [hquery, hrun]
  exact hread

/-- Parameters that are selected come back as one row with a value for each column. Values
that a cell can hold come back as they are; whatever accessors read from a value, unless
it is not a number, they read from what comes back for it. To select what came back
gives the same row again, now or later. A look-up by name answers with the value of the
first column of that name, and with nothing exactly if there is no such column. -/
theorem values_come_back (hs : e.Selects sql columns) (hlen : params.length = columns.length)
    (state : σ) :
    ∃ row, (e.query sql params state).1 = .ok [row] ∧
      row.columns = columns ∧ row.values.length = columns.length ∧
      List.Forall₂ (fun v w => (v.IsPlain → w = v) ∧
        ((∀ x, v = .float x → x.isNaN = false) → w.AnswersFor v)) params row.values ∧
      (∀ later, (e.query sql row.values later).1 = .ok [row]) ∧
      ∀ column,
        (∀ v, row.find? column = some v ↔
          ∃ i : Nat, columns[i]? = some column ∧ (∀ j < i, columns[j]? ≠ some column) ∧
            row.values[i]? = some v) ∧
        (row.find? column = none ↔ column ∉ columns) := by
  have hwidth : (params.map Cell.stored).length = columns.length := by
    rw [List.length_map, hlen]
  refine ⟨⟨columns, params.map Cell.stored⟩, hs.query hlen state, rfl, hwidth, ?_, ?_, ?_⟩
  · rw [List.forall₂_map_right_iff]
    apply List.forall₂_same.2
    intro v _
    exact ⟨Cell.stored_of_isPlain, Cell.answersFor_stored⟩
  · intro later
    have hagain : (params.map Cell.stored).map Cell.stored = params.map Cell.stored := by
      simp [Cell.stored_stored]
    have hquery := hs.query hwidth later
    rw [hagain] at hquery
    exact hquery
  · intro column
    exact ⟨fun v => Row.find?_eq_some_iff, Row.find?_eq_none_iff hwidth⟩

/-- Two columns of one name, a quote in the name of another, and all kinds that change: the
boolean is read from the integer that comes back for it. -/
theorem values_come_back_changed :
    let columns := ["a", "say \"b\"", "a"]
    let params : List Value := [.bool true, .float ⟨0x7ff8000000000000⟩, .json (.text "é")]
    params.length = columns.length ∧
      Database.engine.Selects (Statement.selectText columns) columns ∧
      ∃ row, (Database.engine.query (Statement.selectText columns) params .empty).1 = .ok [row] ∧
        row.values.length = 3 ∧ ∃ v, row.find? "a" = some v ∧ v.asBool = some true := by
  intro columns params
  have hs : Database.engine.Selects (Statement.selectText columns) columns :=
    Database.selects_selectText (List.cons_ne_nil _ _)
  have hlen : params.length = columns.length := rfl
  obtain ⟨row, hrow, -, hwidth, hvalues, -, hfind⟩ := values_come_back hs hlen .empty
  obtain ⟨v, rest, ⟨-, hanswers⟩, -, hvalues⟩ := List.forall₂_cons_left_iff.1 hvalues
  have hfirst : row.find? "a" = some v := by
    apply ((hfind "a").1 v).2
    exact ⟨0, rfl, fun j hj => absurd hj (Nat.not_lt_zero j), by rw [hvalues]; rfl⟩
  have hbool : v.AnswersFor (.bool true) := hanswers fun x hx => by cases hx
  exact ⟨hlen, hs, row, hrow, hwidth, v, hfirst, hbool.asBool true rfl⟩

end Embedded

end SqlCatalog
