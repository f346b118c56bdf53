import Mathlib.Data.List.Forall2
import SqlCatalog.Proofs.Client.Dispatch
/-!
# The log of a run

With logging on, a request that runs a statement writes one entry if the statement
is refused, and two if it is not: one before the call of the store, with what is
handed over, and one after it, with what became of it. A check of the catalog
writes an entry if it fails. Nothing else writes anything, a row that cannot be
read least of all. So the entries of level `debug` are the calls of the store, one
for one and in order (`log_mirrors_calls`).

`events_run` tells the events of a request by what is handed to the store, so it
does not matter what is cached; `announced_traffic` carries the correspondence
along a run.
-/
namespace SqlCatalog

variable {σ ρ : Type}

/-! ## Entries -/

/-- An event as it stands in the log. -/
structure Entry where
  level : Level
  message : String
  /-- Names and texts. -/
  fields : List (String × String)
deriving DecidableEq

namespace Event

def fields : Event → List (String × String)
  | rejected id cause | failed id cause | malformed id cause =>
    [("statement", id), ("error", cause.message)]
  | slow id | done id => [("statement", id)]
  | executing kind id dialect params sql =>
    [("kind", kind.name), ("statement", id), ("bind_style", dialect.name),
      ("param_count", toString params), ("sql", sql)]

def entry (e : Event) : Entry := ⟨e.level, e.message, e.fields⟩

end Event

/-- Requests that have nothing to log. -/
inductive Request.Quiet : Request → Prop
  | prepare (id : String) : Quiet (.prepare id)
  | bindCall (id : String) (args : List Value) : Quiet (.bindCall id args)
  | next (slot : Nat) : Quiet (.next slot)
  | collect (slot : Nat) : Quiet (.collect slot)
  | close (slot : Nat) : Quiet (.close slot)
  | clearCache : Quiet .clearCache

theorem Request.runs_or_quiet (r : Request) :
    (∃ kind id args, r.Runs kind id args) ∨ r = .validate ∨ r.Quiet := by
  cases r with
  | query id args slot => exact .inl ⟨_, _, _, .query id args slot⟩
  | execute id args => exact .inl ⟨_, _, _, .execute id args⟩
  | fetchAll id args => exact .inl ⟨_, _, _, .fetchAll id args⟩
  | fetchFirst id args => exact .inl ⟨_, _, _, .fetchFirst id args⟩
  | validate => exact .inr (.inl rfl)
  | prepare id => exact .inr (.inr (.prepare id))
  | bindCall id args => exact .inr (.inr (.bindCall id args))
  | next slot => exact .inr (.inr (.next slot))
  | collect slot => exact .inr (.inr (.collect slot))
  | close slot => exact .inr (.inr (.close slot))
  | clearCache => exact .inr (.inr .clearCache)

/-- Why the store rejects a call, if it does. -/
def Store.failure? (s : Store σ ρ) (call : Call) (state : σ) : Option Failure :=
  match call.kind with
  | .query => Client.failure? (s.query call.sql call.params state).1
  | .execute => Client.failure? (s.execute call.sql call.params state).1

namespace Client

/-- The entry ahead of a call: what is handed to the store, with SQL cut for display. -/
def announcement (c : Client σ ρ) (id : String) (call : Call) : Entry :=
  ⟨.debug, "executing catalog statement",
    [("kind", call.kind.name), ("statement", id), ("bind_style", c.dialect.name),
      ("param_count", toString call.params.length),
      ("sql", displaySql c.settings.maxSqlLength call.sql)]⟩

/-- The entry behind a call that took `elapsed` milliseconds. -/
inductive Ends (settings : Settings) (id : String) (elapsed : Nat) : Option Failure → Entry → Prop
  | failed (e : Failure) : Ends settings id elapsed (some e)
      ⟨.warn, "catalog statement failed", [("statement", id), ("error", e.message)]⟩
  | slow (threshold : Nat) (hset : settings.slowThreshold = some threshold)
      (h : threshold ≤ elapsed) : Ends settings id elapsed none
        ⟨.warn, "slow catalog statement", [("statement", id)]⟩
  | done (h : ∀ threshold, settings.slowThreshold = some threshold → elapsed < threshold) :
      Ends settings id elapsed none ⟨.trace, "catalog statement done", [("statement", id)]⟩

variable {c : Client σ ρ} {id : String} {args : List Value} {elapsed : Nat}

theorem ends_outcome (c : Client σ ρ) (id : String) (elapsed : Nat) (failure : Option Failure) :
    Ends c.settings id elapsed failure (c.outcome id elapsed failure).entry := by
  cases failure with
  | some e => exact .failed e
  | none =>
    unfold outcome
    cases hset : c.settings.slowThreshold with
    | none => exact .done (by simp [hset])
    | some threshold =>
      by_cases h : threshold ≤ elapsed
      · simp only [if_pos h]
        exact .slow threshold hset h
      · simp only [if_neg h]
        refine .done fun t ht => ?_
        rw [hset] at ht
        cases ht
        omega

theorem Ends.level_ne {settings : Settings} {failure : Option Failure} {entry : Entry}
    (h : Ends settings id elapsed failure entry) : entry.level ≠ .debug := by
  cases h <;> simp

/-! ## The events of a request -/

/-- What is logged of a statement, by what is handed to the store. -/
def eventsFor (c : Client σ ρ) (kind : CallKind) (id : String) (elapsed : Nat)
    (failure : Call → Option Failure) : Except Failure (Compiled × List Value) → List Event
  | .error e => [.rejected id e]
  | .ok (q, params) =>
    [.executing kind id c.dialect q.names.length (displaySql c.settings.maxSqlLength q.sql),
      c.outcome id elapsed (failure ⟨kind, q.sql, params⟩)]

theorem events_run {α : Type} {s : Session σ} (hs : c.Faithful s) (kind : CallKind)
    (call : String → List Value → σ → Except Failure α × σ) (elapsed : Nat) (id : String)
    (args : List Value) :
    (c.run kind call elapsed id args s).2.1 =
      c.log (c.eventsFor kind id elapsed
        (fun x => failure? (call x.sql x.params s.state).1) (c.bound id args)) := by
  have hval := bindCall_value hs id args
  have hstate : (c.bindCall id args s).2.state = s.state := by
    rw [session_bindCall, state_prepare]
  unfold run
  rcases hb : c.bindCall id args s with ⟨e | ⟨p, params⟩, s'⟩
  · rw [hb] at hval
    rw [← hval]
    rfl
  · rw [hb] at hval hstate
    rw [← hval, ← hstate]
    rfl

/-- The events of one more request, after a run from new on. -/
def eventsOf (c : Client σ ρ) (state : σ) (rs : List (Nat × Request)) (x : Nat × Request) :
    List Event :=
  (c.answer x.1 (c.answerAll (c.openDesk state) rs).2 x.2).2.1

variable {state : σ} {rs : List (Nat × Request)} {r : Request} {kind : CallKind}

/-- The cursor of a query does not show in the log. -/
theorem events_query (c : Client σ ρ) (elapsed : Nat) (d : Desk σ ρ) (id : String)
    (args : List Value) (slot : Nat) :
    (c.answer elapsed d (.query id args slot)).2.1 = (c.query elapsed id args d.session).2.1 := by
  simp only [answer]
  rcases c.query elapsed id args d.session with ⟨e | cursor, events, s⟩ <;> rfl

theorem eventsOf_of_runs (h : r.Runs kind id args) (state : σ) (rs : List (Nat × Request))
    (elapsed : Nat) :
    c.eventsOf state rs (elapsed, r) =
      c.log (c.eventsFor kind id elapsed
        (fun call => c.store.failure? call (c.traffic state rs).1) (c.bound id args)) := by
  have hs := c.faithful_answerAll state rs
  rw [traffic_eq, eventsOf]
  cases h with
  | query id args slot =>
    rw [events_query]
    exact events_run hs .query c.store.query elapsed id args
  | execute id args => exact events_run hs .execute c.store.execute elapsed id args
  | fetchAll id args => exact events_run hs .query c.store.query elapsed id args
  | fetchFirst id args => exact events_run hs .query c.store.query elapsed id args

theorem eventsOf_of_quiet (h : r.Quiet) (state : σ) (rs : List (Nat × Request)) (elapsed : Nat) :
    c.eventsOf state rs (elapsed, r) = [] := by
  unfold eventsOf
  cases h with
  | next slot | collect slot | close slot =>
    simp only [answer]
    cases (c.answerAll (c.openDesk state) rs).2.cursor? slot <;> rfl
  | prepare | bindCall | clearCache => rfl

theorem eventsOf_validate (c : Client σ ρ) (state : σ) (rs : List (Nat × Request))
    (elapsed : Nat) : c.eventsOf state rs (elapsed, .validate) = c.validate.2 := rfl

theorem validate_of_ok (h : c.catalog.validate c.dialect = .ok ()) : c.validate = (.ok (), []) := by
  unfold validate
  rw [h]

theorem validate_of_error {e : Failure} (h : c.catalog.validate c.dialect = .error (id, e)) :
    c.validate = (.error e, c.log [.malformed id e]) := by
  unfold validate
  rw [h]

/-- With logging off, nothing is written. -/
theorem eventsOf_of_not_logging (h : c.settings.logging = false) (state : σ)
    (rs : List (Nat × Request)) (x : Nat × Request) : c.eventsOf state rs x = [] := by
  have hlog : ∀ events, c.log events = [] := fun events => by simp [log, h]
  obtain ⟨elapsed, r⟩ := x
  rcases r.runs_or_quiet with ⟨kind, id, args, hr⟩ | rfl | hr
  · rw [eventsOf_of_runs hr, hlog]
  · rw [eventsOf_validate]
    cases hv : c.catalog.validate c.dialect with
    | ok u => rw [validate_of_ok hv]
    | error b =>
      obtain ⟨id, e⟩ := b
      rw [validate_of_error hv, hlog]
  · exact eventsOf_of_quiet hr state rs elapsed

/-! ## Entries and calls of a request -/

/-- After the run, this request writes these entries, and the store receives
these calls for it. -/
structure Writes (c : Client σ ρ) (state : σ) (rs : List (Nat × Request)) (x : Nat × Request)
    (entries : List Entry) (calls : List Call) : Prop where
  entries : (c.eventsOf state rs x).map Event.entry = entries
  calls : (c.traffic state (rs ++ [x])).2 = (c.traffic state rs).2 ++ calls

theorem length_params_of_bound {q : Compiled} {params : List Value}
    (h : c.bound id args = .ok (q, params)) : params.length = q.names.length := by
  unfold bound at h
  split at h
  · cases h
  · split at h
    · cases h
    · cases h
      exact Arguments.length_project _ _

theorem writes_of_refused (hlog : c.settings.logging = true) (h : r.Runs kind id args)
    {e : Failure} (hb : c.bound id args = .error e) (state : σ) (rs : List (Nat × Request))
    (elapsed : Nat) :
    c.Writes state rs (elapsed, r)
      [⟨.warn, "catalog statement rejected", [("statement", id), ("error", e.message)]⟩] [] := by
  refine ⟨?_, ?_⟩
  · rw [eventsOf_of_runs h, hb, log, if_pos hlog]
    rfl
  · rw [(refuses_of_bound h hb state rs elapsed).traffic, List.append_nil]

theorem writes_of_call (hlog : c.settings.logging = true) (h : r.Runs kind id args)
    {q : Compiled} {params : List Value} (hb : c.bound id args = .ok (q, params)) (state : σ)
    (rs : List (Nat × Request)) (elapsed : Nat) :
    ∃ ending, Ends c.settings id elapsed
        (c.store.failure? ⟨kind, q.sql, params⟩ (c.traffic state rs).1) ending ∧
      c.Writes state rs (elapsed, r) [c.announcement id ⟨kind, q.sql, params⟩, ending]
        [⟨kind, q.sql, params⟩] := by
  refine ⟨_, ends_outcome c id elapsed _, ?_, calls_of_bound h hb state rs elapsed⟩
  rw [eventsOf_of_runs h, hb, log, if_pos hlog, announcement, length_params_of_bound hb]
  rfl

theorem writes_of_quiet (h : r.Quiet) (state : σ) (rs : List (Nat × Request)) (elapsed : Nat) :
    c.Writes state rs (elapsed, r) [] [] := by
  refine ⟨by rw [eventsOf_of_quiet h, List.map_nil], ?_⟩
  rw [traffic_concat]
  cases h <;> rfl

theorem writes_of_valid (hv : c.catalog.validate c.dialect = .ok ()) (state : σ)
    (rs : List (Nat × Request)) (elapsed : Nat) :
    c.Writes state rs (elapsed, .validate) [] [] := by
  refine ⟨by rw [eventsOf_validate, validate_of_ok hv, List.map_nil], ?_⟩
  rw [traffic_concat]
  rfl

theorem writes_of_invalid (hlog : c.settings.logging = true) {e : Failure}
    (hv : c.catalog.validate c.dialect = .error (id, e)) (state : σ) (rs : List (Nat × Request))
    (elapsed : Nat) :
    c.Writes state rs (elapsed, .validate)
      [⟨.error, "malformed catalog statement", [("statement", id), ("error", e.message)]⟩] [] := by
  refine ⟨?_, ?_⟩
  · rw [eventsOf_validate, validate_of_error hv, log, if_pos hlog]
    rfl
  · rw [traffic_concat]
    rfl

/-! ## Along a run -/

/-- The log of a run from new on. -/
def logged (c : Client σ ρ) (state : σ) (rs : List (Nat × Request)) : List Entry :=
  (c.answerAll (c.openDesk state) rs).1.flatMap (fun a => a.2.map Event.entry)

theorem logged_concat (c : Client σ ρ) (state : σ) (rs : List (Nat × Request))
    (x : Nat × Request) :
    c.logged state (rs ++ [x]) = c.logged state rs ++ (c.eventsOf state rs x).map Event.entry := by
  rw [logged, replies_answerAll_concat, List.flatMap_append, List.flatMap_singleton]
  rfl

/-- The entry stands for this call, made for some statement. -/
def Announces (c : Client σ ρ) (entry : Entry) (call : Call) : Prop :=
  ∃ id, entry = c.announcement id call

/-- The entries of level `debug` stand for these calls, in order. -/
def Announced (c : Client σ ρ) (entries : List Entry) (calls : List Call) : Prop :=
  List.Forall₂ c.Announces (entries.filter (fun e => e.level = .debug)) calls

theorem Announced.append {entries entries' : List Entry} {calls calls' : List Call}
    (h : c.Announced entries calls) (h' : c.Announced entries' calls') :
    c.Announced (entries ++ entries') (calls ++ calls') := by
  unfold Announced
  rw [List.filter_append]
  exact List.rel_append h h'

/-- One more request. -/
theorem announced_request (hlog : c.settings.logging = true) (state : σ)
    (rs : List (Nat × Request)) (x : Nat × Request) :
    ∃ entries calls, c.Writes state rs x entries calls ∧ c.Announced entries calls := by
  obtain ⟨elapsed, r⟩ := x
  rcases r.runs_or_quiet with ⟨kind, id, args, hr⟩ | rfl | hr
  · cases hb : c.bound id args with
    | error e => exact ⟨_, _, writes_of_refused hlog hr hb state rs elapsed, .nil⟩
    | ok b =>
      obtain ⟨ending, hends, hwrites⟩ := writes_of_call hlog hr hb state rs elapsed
      refine ⟨_, _, hwrites, ?_⟩
      have hfilter : [c.announcement id ⟨kind, b.1.sql, b.2⟩, ending].filter
          (fun e => e.level = .debug) = [c.announcement id ⟨kind, b.1.sql, b.2⟩] := by
        simp [announcement, hends.level_ne]
      rw [Announced, hfilter]
      exact .cons ⟨id, rfl⟩ .nil
  · cases hv : c.catalog.validate c.dialect with
    | ok u => exact ⟨_, _, writes_of_valid hv state rs elapsed, .nil⟩
    | error b =>
      obtain ⟨id, e⟩ := b
      exact ⟨_, _, writes_of_invalid hlog hv state rs elapsed, .nil⟩
  · exact ⟨_, _, writes_of_quiet hr state rs elapsed, .nil⟩

theorem announced_traffic (hlog : c.settings.logging = true) (state : σ)
    (rs : List (Nat × Request)) : c.Announced (c.logged state rs) (c.traffic state rs).2 := by
  induction rs using List.reverseRecOn with
  | nil => exact .nil
  | append_singleton rs x ih =>
    obtain ⟨entries, calls, hwrites, hann⟩ := announced_request hlog state rs x
    rw [logged_concat, hwrites.entries, hwrites.calls]
    exact ih.append hann

/-- What is logged, and what the store receives, after any run. With logging on, a
request that runs a statement writes the one entry that it is refused, and makes
no call; or it makes one call, with the entry of that call before it and the entry
of its end after it. A check of the catalog writes an entry if it fails, and the
entries of level `debug` in the whole log are the calls of the store in order. With
logging off nothing is written, and other requests never write anything. -/
theorem log_mirrors_calls (c : Client σ ρ) (state : σ) (rs : List (Nat × Request)) :
    (c.settings.logging = true →
      (∀ elapsed r kind id args, r.Runs kind id args →
        (∀ e, c.bound id args = .error e → c.Writes state rs (elapsed, r)
          [⟨.warn, "catalog statement rejected", [("statement", id), ("error", e.message)]⟩] []) ∧
        ∀ q params, c.bound id args = .ok (q, params) → ∃ ending,
          Ends c.settings id elapsed
            (c.store.failure? ⟨kind, q.sql, params⟩ (c.traffic state rs).1) ending ∧
          c.Writes state rs (elapsed, r) [c.announcement id ⟨kind, q.sql, params⟩, ending]
            [⟨kind, q.sql, params⟩]) ∧
      (∀ elapsed, (c.catalog.validate c.dialect = .ok () →
          c.Writes state rs (elapsed, .validate) [] []) ∧
        ∀ id e, c.catalog.validate c.dialect = .error (id, e) →
          c.Writes state rs (elapsed, .validate)
            [⟨.error, "malformed catalog statement", [("statement", id), ("error", e.message)]⟩]
            []) ∧
      List.Forall₂ (fun entry call => ∃ id, entry = c.announcement id call)
        ((c.logged state rs).filter (fun e => e.level = .debug)) (c.traffic state rs).2) ∧
    (∀ elapsed r, r.Quiet → c.Writes state rs (elapsed, r) [] []) ∧
    (c.settings.logging = false → ∀ x, c.eventsOf state rs x = []) := by
  refine ⟨fun hlog => ⟨fun elapsed r kind id args h => ⟨fun e hb => ?_, fun q params hb => ?_⟩,
    fun elapsed => ⟨fun hv => writes_of_valid hv state rs elapsed,
      fun id e hv => writes_of_invalid hlog hv state rs elapsed⟩, announced_traffic hlog state rs⟩,
    fun elapsed r h => writes_of_quiet h state rs elapsed,
    fun hlog x => eventsOf_of_not_logging hlog state rs x⟩
  · exact writes_of_refused hlog h hb state rs elapsed
  · exact writes_of_call hlog h hb state rs elapsed

/-- A call that the store rejects, with SQL too long for the log, after a run in
which a row could not be read. -/
theorem log_mirrors_calls_rejected :
    let script : Script := ⟨"postgres", some "DROP", 1, some 0⟩
    let catalog : Catalog := KeyMap.ofList
      [("find", "SELECT * FROM t WHERE k = :k"), ("drop", "DROP TABLE t")]
    let settings : Settings := ⟨none, 0, some 5, true, some 8⟩
    let c : Client (List Call) (List Value) := ⟨script.store, catalog, settings⟩
    let rs : List (Nat × Request) := [(9, .fetchAll "find" [])]
    c.settings.logging = true ∧ c.Writes [] rs (2, .execute "drop" [])
      [⟨.debug, "executing catalog statement", [("kind", "execute"), ("statement", "drop"),
          ("bind_style", "dollar"), ("param_count", "0"), ("sql", "DROP TAB...")]⟩,
        ⟨.warn, "catalog statement failed",
          [("statement", "drop"), ("error", "Store error: rejected: DROP")]⟩]
      [⟨.execute, "DROP TABLE t", []⟩] := by
  intro script catalog settings c rs
  have hlog : c.settings.logging = true := rfl
  have hfind : catalog.find? "drop" = some "DROP TABLE t" := by decide +kernel
  have hcompile : Template.compile "DROP TABLE t" c.dialect = .ok ⟨"DROP TABLE t", []⟩ := by
    decide +kernel
  obtain ⟨params, hlength, hb⟩ : ∃ params, params.length = 0 ∧
      c.bound "drop" [] = .ok (⟨"DROP TABLE t", []⟩, params) := bound_of_even hfind hcompile rfl
  obtain rfl : params = [] := List.length_eq_zero_iff.1 hlength
  obtain ⟨ending, hends, hwrites⟩ := (((log_mirrors_calls c [] rs).1 hlog).1 2 _ _ _ _
    (.execute "drop" [])).2 _ _ hb
  have hrejected : c.store.failure? ⟨.execute, "DROP TABLE t", []⟩ (c.traffic [] rs).1 =
      some (.store "rejected: DROP") := by decide +kernel
  have hannounced : c.announcement "drop" ⟨.execute, "DROP TABLE t", []⟩ =
      ⟨.debug, "executing catalog statement", [("kind", "execute"), ("statement", "drop"),
        ("bind_style", "dollar"), ("param_count", "0"), ("sql", "DROP TAB...")]⟩ := by
    decide +kernel
  rw [hrejected] at hends
  rw [hannounced] at hwrites
  cases hends
  exact ⟨hlog, hwrites⟩

end Client

end SqlCatalog
