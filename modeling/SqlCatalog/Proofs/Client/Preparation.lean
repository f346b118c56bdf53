import SqlCatalog.Proofs.Client.Session
/-!
# Preparing and running, without the cache

`prepare_cases` is all that preparing a statement can do. A session is
`Faithful` if every cached statement is what the catalog compiles for its id;
then a client answers as if it had no cache: preparing is compiling
(`prepare_value`), binding is compiling and ordering the arguments
(`bindCall_value`), and a call hands the store what `bound` says
(`run_value`). Sessions stay faithful (`Faithful.prepare`).
-/
namespace SqlCatalog

variable {σ ρ : Type}

namespace Client

/-! ## What preparing does -/

/-- A hit, a statement that does not compile, or a new object. -/
theorem prepare_cases (c : Client σ ρ) (id : String) (s : Session σ) :
    (∃ p, s.cached? id = some p ∧ c.prepare id s = (.ok p, (s.lookUp id).2)) ∨
    (∃ e, s.cached? id = none ∧ c.catalog.compile id c.dialect = .error e ∧
      c.prepare id s = (.error e, s)) ∨
    (∃ q, s.cached? id = none ∧ c.catalog.compile id c.dialect = .ok q ∧
      c.prepare id s = (.ok ⟨s.compilations, q⟩,
        { (s.keep id ⟨s.compilations, q⟩).2 with compilations := s.compilations + 1 })) := by
  cases hcached : s.cached? id with
  | some p =>
    refine .inl ⟨p, rfl, ?_⟩
    have hlook : s.lookUp id = (some p, (s.lookUp id).2) :=
      Prod.ext ((s.fst_lookUp id).trans hcached) rfl
    unfold prepare
    rw [hlook]
  | none =>
    have hlook : s.lookUp id = (none, s) := Session.lookUp_of_none hcached
    cases hcomp : c.catalog.compile id c.dialect with
    | error e =>
      refine .inr (.inl ⟨e, rfl, rfl, ?_⟩)
      unfold prepare
      rw [hlook, hcomp]
    | ok q =>
      refine .inr (.inr ⟨q, rfl, rfl, ?_⟩)
      have hkept : (s.keep id ⟨s.compilations, q⟩).1 = ⟨s.compilations, q⟩ := by
        rw [Session.fst_keep, hcached, Option.getD_none]
      unfold prepare
      rw [hlook, hcomp]
      simp only [hkept, Session.compilations_keep]

theorem state_prepare (c : Client σ ρ) (id : String) (s : Session σ) :
    (c.prepare id s).2.state = s.state := by
  rcases c.prepare_cases id s with ⟨p, -, h⟩ | ⟨e, -, -, h⟩ | ⟨q, -, -, h⟩
  · rw [h, s.state_lookUp]
  · rw [h]
  · rw [h]
    exact s.state_keep id _

/-! ## Faithful sessions -/

/-- Every cached statement is what the catalog compiles for its id. -/
def Faithful (c : Client σ ρ) (s : Session σ) : Prop :=
  ∀ id p, s.cached? id = some p → c.catalog.compile id c.dialect = .ok p.compiled

theorem faithful_start (c : Client σ ρ) (state : σ) : c.Faithful (c.start state) := by
  intro id p h
  rw [Session.cached?_start] at h
  cases h

theorem faithful_clearCache (c : Client σ ρ) (s : Session σ) : c.Faithful (clearCache s) := by
  intro id p h
  rw [Session.cached?_clearCache] at h
  cases h

/-- The state of the store is of no account. -/
theorem Faithful.withState {c : Client σ ρ} {s : Session σ} (h : c.Faithful s) (state : σ) :
    c.Faithful { s with state } := h

theorem Faithful.lookUp {c : Client σ ρ} {s : Session σ} (h : c.Faithful s) (id : String) :
    c.Faithful (s.lookUp id).2 := by
  intro j p hj
  rw [Session.cached?_lookUp] at hj
  exact h j p hj

theorem Faithful.keep {c : Client σ ρ} {s : Session σ} (h : c.Faithful s) {id : String}
    {p : Prepared} (hcomp : c.catalog.compile id c.dialect = .ok p.compiled) :
    c.Faithful (s.keep id p).2 := by
  intro j p' hj
  rcases Session.cached?_of_keep hj with hold | ⟨rfl, rfl, -⟩
  · exact h j p' hold
  · exact hcomp

theorem Faithful.prepare {c : Client σ ρ} {s : Session σ} (h : c.Faithful s) (id : String) :
    c.Faithful (c.prepare id s).2 := by
  rcases c.prepare_cases id s with ⟨p, -, hp⟩ | ⟨e, -, -, hp⟩ | ⟨q, -, hcomp, hp⟩
  · rw [hp]
    exact h.lookUp id
  · rw [hp]
    exact h
  · rw [hp]
    exact h.keep hcomp

/-- Preparing is compiling, hit or miss. -/
theorem prepare_value {c : Client σ ρ} {s : Session σ} (h : c.Faithful s) (id : String) :
    (c.prepare id s).1.map Prepared.compiled = c.catalog.compile id c.dialect := by
  rcases c.prepare_cases id s with ⟨p, hfind, hp⟩ | ⟨e, -, hcomp, hp⟩ | ⟨q, -, hcomp, hp⟩
  · rw [hp, h id p hfind]; rfl
  · rw [hp, hcomp]; rfl
  · rw [hp, hcomp]; rfl

/-! ## Binding -/

/-- What a statement with these arguments hands to the store. -/
def bound (c : Client σ ρ) (id : String) (args : List Value) :
    Except Failure (Compiled × List Value) :=
  match c.catalog.compile id c.dialect with
  | .error e => .error e
  | .ok q =>
    match Arguments.bind args with
    | .error e => .error e
    | .ok b => .ok (q, Arguments.project q.names b)

theorem session_bindCall (c : Client σ ρ) (id : String) (args : List Value) (s : Session σ) :
    (c.bindCall id args s).2 = (c.prepare id s).2 := by
  unfold bindCall
  rcases hp : c.prepare id s with ⟨e | p, s'⟩
  · rfl
  · cases hb : Arguments.bind args <;> rfl

theorem bindCall_value {c : Client σ ρ} {s : Session σ} (h : c.Faithful s) (id : String)
    (args : List Value) :
    (c.bindCall id args s).1.map (fun r => (r.1.compiled, r.2)) = c.bound id args := by
  have hval := prepare_value h id
  unfold bindCall bound
  rcases hp : c.prepare id s with ⟨e | p, s'⟩
  · rw [hp] at hval
    rw [← hval]; rfl
  · rw [hp] at hval
    rw [← hval]
    cases hb : Arguments.bind args <;> rfl

/-! ## Running -/

/-- The result of a call and the state that it leaves, by what is handed to the store. -/
def outcomeOf {α : Type} (call : String → List Value → σ → Except Failure α × σ) (state : σ) :
    Except Failure (Compiled × List Value) → Except Failure α × σ
  | .error e => (.error e, state)
  | .ok (q, params) => call q.sql params state

theorem run_value {α : Type} {c : Client σ ρ} {s : Session σ} (h : c.Faithful s) (kind : CallKind)
    (call : String → List Value → σ → Except Failure α × σ) (elapsed : Nat) (id : String)
    (args : List Value) :
    ((c.run kind call elapsed id args s).1, (c.run kind call elapsed id args s).2.2.state) =
      outcomeOf call s.state (c.bound id args) := by
  have hval := bindCall_value h id args
  have hstate : (c.bindCall id args s).2.state = s.state := by
    rw [session_bindCall, state_prepare]
  unfold run
  rcases hb : c.bindCall id args s with ⟨e | ⟨p, params⟩, s'⟩
  · rw [hb] at hval hstate
    rw [← hval, ← hstate]; rfl
  · rw [hb] at hval hstate
    rw [← hval, ← hstate]; rfl

/-- A call of the store leaves the cache as preparing the statement did. -/
theorem session_run {α : Type} (c : Client σ ρ) (kind : CallKind)
    (call : String → List Value → σ → Except Failure α × σ) (elapsed : Nat) (id : String)
    (args : List Value) (s : Session σ) :
    (c.run kind call elapsed id args s).2.2 =
      { (c.prepare id s).2 with state := (c.run kind call elapsed id args s).2.2.state } := by
  have hsess := c.session_bindCall id args s
  unfold run
  rcases hb : c.bindCall id args s with ⟨e | ⟨p, params⟩, s'⟩
  · rw [hb] at hsess
    rw [← hsess]
  · rw [hb] at hsess
    rw [← hsess]

end Client

end SqlCatalog
