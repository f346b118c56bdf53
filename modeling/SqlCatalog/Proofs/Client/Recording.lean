import SqlCatalog.Client.Request
import SqlCatalog.Proofs.Client.Preparation
import SqlCatalog.Store.Scripted
/-!
# Watching the calls of a store

Any store can be made to list the calls that reach it (`Store.recording`). A
client notices nothing of that: it gives the same replies, logs the same events
and leaves the same desk, and the list grows by the calls of each request
(`answer_watched`, `answerAll_watched`). `Client.traffic` is what the store has
seen when a run is over.
-/
namespace SqlCatalog

variable {σ ρ : Type}

/-- A call that is put on the list when it is made. -/
def recorded {α : Type} (kind : CallKind) (call : String → List Value → σ → Except Failure α × σ)
    (sql : String) (params : List Value) (state : σ × List Call) :
    Except Failure α × (σ × List Call) :=
  ((call sql params state.1).1, ((call sql params state.1).2, state.2 ++ [⟨kind, sql, params⟩]))

/-- A store that also lists the calls made so far. -/
def Store.recording (s : Store σ ρ) : Store (σ × List Call) ρ where
  driver := s.driver
  query := recorded .query s.query
  execute := recorded .execute s.execute

def Session.watched (s : Session σ) (calls : List Call) : Session (σ × List Call) :=
  ⟨s.cache, s.compilations, (s.state, calls)⟩

theorem Session.lookUp_watched (s : Session σ) (id : String) (calls : List Call) :
    (s.watched calls).lookUp id = ((s.lookUp id).1, (s.lookUp id).2.watched calls) := by
  obtain ⟨_ | cache, compilations, state⟩ := s <;> rfl

theorem Session.keep_watched (s : Session σ) (id : String) (p : Prepared) (calls : List Call) :
    (s.watched calls).keep id p = ((s.keep id p).1, (s.keep id p).2.watched calls) := by
  obtain ⟨_ | cache, compilations, state⟩ := s <;> rfl

def Desk.watched (d : Desk σ ρ) (calls : List Call) : Desk (σ × List Call) ρ :=
  ⟨d.session.watched calls, d.cursors⟩

namespace Client

/-- The same client over the recording store. -/
def recording (c : Client σ ρ) : Client (σ × List Call) ρ :=
  ⟨c.store.recording, c.catalog, c.settings⟩

/-- The call made for a statement and its parameters. -/
def callFor (kind : CallKind) : Except Failure (Prepared × List Value) → List Call
  | .error _ => []
  | .ok (p, params) => [⟨kind, p.compiled.sql, params⟩]

/-- The calls made for a request. -/
def callsOf (c : Client σ ρ) (d : Desk σ ρ) : Request → List Call
  | .query id args _ | .fetchAll id args | .fetchFirst id args =>
    callFor .query (c.bindCall id args d.session).1
  | .execute id args => callFor .execute (c.bindCall id args d.session).1
  | _ => []

theorem prepare_watched (c : Client σ ρ) (id : String) (s : Session σ) (calls : List Call) :
    c.recording.prepare id (s.watched calls) =
      ((c.prepare id s).1, (c.prepare id s).2.watched calls) := by
  have hcompile : c.recording.catalog.compile id c.recording.dialect =
      c.catalog.compile id c.dialect := rfl
  unfold prepare
  rw [s.lookUp_watched, hcompile]
  rcases s.lookUp id with ⟨_ | hit, s'⟩
  · rcases c.catalog.compile id c.dialect with e | q
    · rfl
    · simp only [Session.keep_watched]
      rfl
  · rfl

theorem bindCall_watched (c : Client σ ρ) (id : String) (args : List Value) (s : Session σ)
    (calls : List Call) :
    c.recording.bindCall id args (s.watched calls) =
      ((c.bindCall id args s).1, (c.bindCall id args s).2.watched calls) := by
  unfold bindCall
  rw [prepare_watched]
  rcases hp : c.prepare id s with ⟨e | p, s'⟩
  · rfl
  · cases hb : Arguments.bind args <;> rfl

theorem run_watched {α : Type} (c : Client σ ρ) (kind : CallKind)
    (call : String → List Value → σ → Except Failure α × σ) (elapsed : Nat) (id : String)
    (args : List Value) (s : Session σ) (calls : List Call) :
    c.recording.run kind (recorded kind call) elapsed id args (s.watched calls) =
      ((c.run kind call elapsed id args s).1, (c.run kind call elapsed id args s).2.1,
        (c.run kind call elapsed id args s).2.2.watched
          (calls ++ callFor kind (c.bindCall id args s).1)) := by
  unfold run
  rw [bindCall_watched]
  rcases hb : c.bindCall id args s with ⟨e | ⟨p, params⟩, s'⟩
  · simp only [callFor, List.append_nil]
    rfl
  · rfl

theorem query_watched (c : Client σ ρ) (elapsed : Nat) (id : String) (args : List Value)
    (s : Session σ) (calls : List Call) :
    c.recording.query elapsed id args (s.watched calls) =
      ((c.query elapsed id args s).1, (c.query elapsed id args s).2.1,
        (c.query elapsed id args s).2.2.watched
          (calls ++ callFor .query (c.bindCall id args s).1)) :=
  c.run_watched .query c.store.query elapsed id args s calls

theorem execute_watched (c : Client σ ρ) (elapsed : Nat) (id : String) (args : List Value)
    (s : Session σ) (calls : List Call) :
    c.recording.execute elapsed id args (s.watched calls) =
      ((c.execute elapsed id args s).1, (c.execute elapsed id args s).2.1,
        (c.execute elapsed id args s).2.2.watched
          (calls ++ callFor .execute (c.bindCall id args s).1)) :=
  c.run_watched .execute c.store.execute elapsed id args s calls

/-- One request of a watched client. -/
theorem answer_watched (c : Client σ ρ) (elapsed : Nat) (d : Desk σ ρ) (r : Request)
    (calls : List Call) :
    c.recording.answer elapsed (d.watched calls) r =
      ((c.answer elapsed d r).1, (c.answer elapsed d r).2.1,
        (c.answer elapsed d r).2.2.watched (calls ++ c.callsOf d r)) := by
  have hsession : (d.watched calls).session = d.session.watched calls := rfl
  cases r with
  | prepare id =>
    simp only [answer, hsession, prepare_watched, callsOf, List.append_nil]
    rfl
  | bindCall id args =>
    simp only [answer, hsession, bindCall_watched, callsOf, List.append_nil]
    rfl
  | query id args slot =>
    simp only [answer, hsession, query_watched, callsOf]
    rcases c.query elapsed id args d.session with ⟨e | cursor, events, s⟩ <;> rfl
  | execute id args =>
    simp only [answer, hsession, execute_watched, callsOf]
    rfl
  | fetchAll id args =>
    simp only [answer, fetchAll, hsession, query_watched, callsOf]
    rfl
  | fetchFirst id args =>
    simp only [answer, fetchFirst, hsession, query_watched, callsOf]
    rfl
  | next slot | collect slot | close slot =>
    have hcursor : (d.watched calls).cursor? slot = d.cursor? slot := rfl
    simp only [answer, callsOf, List.append_nil, hcursor]
    rcases d.cursor? slot with _ | cursor <;> rfl
  | validate =>
    simp only [callsOf, List.append_nil]
    rfl
  | clearCache =>
    simp only [callsOf, List.append_nil]
    rfl

/-- The calls of a run, in order. -/
def callsOfAll (c : Client σ ρ) (d : Desk σ ρ) : List (Nat × Request) → List Call
  | [] => []
  | (elapsed, r) :: rest => c.callsOf d r ++ c.callsOfAll (c.answer elapsed d r).2.2 rest

theorem answerAll_watched (c : Client σ ρ) (d : Desk σ ρ) (rs : List (Nat × Request))
    (calls : List Call) :
    c.recording.answerAll (d.watched calls) rs =
      ((c.answerAll d rs).1, (c.answerAll d rs).2.watched (calls ++ c.callsOfAll d rs)) := by
  induction rs generalizing d calls with
  | nil => simp [answerAll, callsOfAll]
  | cons x rest ih =>
    obtain ⟨elapsed, r⟩ := x
    simp only [answerAll, answer_watched, ih, callsOfAll, List.append_assoc]

/-- The state of the store after a run from new on, and the calls that it received. -/
def traffic (c : Client σ ρ) (state : σ) (rs : List (Nat × Request)) : σ × List Call :=
  (c.recording.answerAll (c.recording.openDesk (state, [])) rs).2.session.state

theorem traffic_eq (c : Client σ ρ) (state : σ) (rs : List (Nat × Request)) :
    c.traffic state rs =
      ((c.answerAll (c.openDesk state) rs).2.session.state,
        c.callsOfAll (c.openDesk state) rs) := by
  have hopen : c.recording.openDesk (state, []) = (c.openDesk state).watched [] := rfl
  rw [traffic, hopen, answerAll_watched]
  rfl

end Client

end SqlCatalog
