import SqlCatalog.Proofs.Client.Recording
import SqlCatalog.Proofs.Client.Reuse
import SqlCatalog.Proofs.Template.Reading
/-!
# When the store is reached

A request that runs a statement is refused before the store notices anything, or
makes one call. Which of the two, and for which reason, `bound` settles without a
look at the session: the id comes first, then the template, then the number of
arguments. So it is the same after any run, and so is the SQL of the call
(`store_reached_exactly`).
-/
namespace SqlCatalog

variable {σ ρ : Type}

/-- A request that runs a statement with arguments by a call of this kind. -/
inductive Request.Runs : Request → CallKind → String → List Value → Prop
  | query (id : String) (args : List Value) (slot : Nat) : Runs (.query id args slot) .query id args
  | execute (id : String) (args : List Value) : Runs (.execute id args) .execute id args
  | fetchAll (id : String) (args : List Value) : Runs (.fetchAll id args) .query id args
  | fetchFirst (id : String) (args : List Value) : Runs (.fetchFirst id args) .query id args

/-- A store whose calls fail for no reason but that the store rejects them. -/
structure Store.OwnFailures (s : Store σ ρ) : Prop where
  query : ∀ sql params state e, (s.query sql params state).1 = .error e → e.fromStore = true
  execute : ∀ sql params state e, (s.execute sql params state).1 = .error e → e.fromStore = true

theorem Script.fromStore_of_rejection {s : Script} {sql : String} {e : Failure}
    (h : s.rejection sql = some e) : e.fromStore = true := by
  unfold Script.rejection at h
  split at h
  · split at h
    · cases h
      rfl
    · cases h
  · cases h

/-- A script rejects statements as a store does. -/
theorem Script.ownFailures (s : Script) : s.store.OwnFailures := by
  constructor
  · intro sql params calls e he
    cases hr : s.rejection sql with
    | none => simp [Script.store, Script.query, hr] at he
    | some e' =>
      obtain rfl : e' = e := by simpa [Script.store, Script.query, hr] using he
      exact Script.fromStore_of_rejection hr
  · intro sql params calls e he
    cases hr : s.rejection sql with
    | none => simp [Script.store, Script.execute, hr] at he
    | some e' =>
      obtain rfl : e' = e := by simpa [Script.store, Script.execute, hr] using he
      exact Script.fromStore_of_rejection hr

namespace Client

variable {c : Client σ ρ} {id : String} {args : List Value}

/-! ## What is handed to the store -/

theorem bound_of_unknown (hid : c.catalog.find? id = none) :
    c.bound id args = .error (.unknownStatement id) := by
  simp only [bound, Catalog.compile, hid]

theorem bound_of_malformed {t : String} {e : Failure} (hid : c.catalog.find? id = some t)
    (ht : Template.compile t c.dialect = .error e) : c.bound id args = .error e := by
  simp only [bound, Catalog.compile, hid, ht]

theorem bound_of_odd {t : String} {q : Compiled} (hid : c.catalog.find? id = some t)
    (ht : Template.compile t c.dialect = .ok q) (hargs : args.length % 2 = 1) :
    c.bound id args = .error (.oddArgumentCount args.length) := by
  simp only [bound, Catalog.compile, hid, ht, Arguments.bind_of_odd hargs]

theorem bound_of_even {t : String} {q : Compiled} (hid : c.catalog.find? id = some t)
    (ht : Template.compile t c.dialect = .ok q) (hargs : args.length % 2 = 0) :
    ∃ params, params.length = q.names.length ∧ c.bound id args = .ok (q, params) := by
  refine ⟨_, Arguments.length_project q.names (Arguments.addPairs KeyMap.empty args), ?_⟩
  simp only [bound, Catalog.compile, hid, ht, Arguments.bind_of_even hargs]

/-- A statement that is refused is not refused by the store. -/
theorem fromStore_of_bound {e : Failure} (h : c.bound id args = .error e) :
    e.fromStore = false := by
  cases hid : c.catalog.find? id with
  | none =>
    rw [bound_of_unknown hid] at h
    cases h
    rfl
  | some t =>
    cases ht : Template.compile t c.dialect with
    | error e' =>
      rw [bound_of_malformed hid ht] at h
      cases h
      obtain ⟨i, rfl⟩ := Template.malformed_of_compile ht
      rfl
    | ok q =>
      rcases Nat.mod_two_eq_zero_or_one args.length with heven | hodd
      · obtain ⟨params, -, hok⟩ := bound_of_even hid ht heven
        rw [hok] at h
        cases h
      · rw [bound_of_odd hid ht hodd] at h
        cases h
        rfl

/-! ## One request -/

variable {d : Desk σ ρ} {r : Request} {kind : CallKind}

theorem callsOf_of_runs (h : r.Runs kind id args) :
    c.callsOf d r = callFor kind (c.bindCall id args d.session).1 := by
  cases h <;> rfl

theorem callFor_of_error (hd : c.Faithful d.session) {e : Failure}
    (hb : c.bound id args = .error e) : callFor kind (c.bindCall id args d.session).1 = [] := by
  have hval := bindCall_value hd id args
  rw [hb] at hval
  rw [Except.map_eq_error_iff.1 hval, callFor]

theorem callFor_of_ok (hd : c.Faithful d.session) {q : Compiled} {params : List Value}
    (hb : c.bound id args = .ok (q, params)) :
    callFor kind (c.bindCall id args d.session).1 = [⟨kind, q.sql, params⟩] := by
  have hval := bindCall_value hd id args
  rw [hb] at hval
  obtain ⟨⟨p, params'⟩, hok, hp⟩ := Except.map_eq_ok_iff.1 hval
  cases hp
  rw [hok, callFor]

/-- A call that is refused leaves the store as it is. -/
theorem run_of_refused {α : Type} {s : Session σ} (hs : c.Faithful s) {e : Failure}
    (hb : c.bound id args = .error e) (kind : CallKind)
    (call : String → List Value → σ → Except Failure α × σ) (elapsed : Nat) :
    (c.run kind call elapsed id args s).1 = .error e ∧
      (c.run kind call elapsed id args s).2.2.state = s.state := by
  have hval := run_value hs kind call elapsed id args
  rw [hb] at hval
  exact Prod.mk.inj hval

/-- A call that gets through fails as the store does. -/
theorem fromStore_of_run {α : Type} {s : Session σ} (hs : c.Faithful s)
    {call : String → List Value → σ → Except Failure α × σ}
    (hcall : ∀ sql params state e, (call sql params state).1 = .error e → e.fromStore = true)
    {q : Compiled} {params : List Value} (hb : c.bound id args = .ok (q, params))
    {elapsed : Nat} {e : Failure} (he : (c.run kind call elapsed id args s).1 = .error e) :
    e.fromStore = true := by
  have hval := run_value hs kind call elapsed id args
  rw [hb] at hval
  obtain ⟨hresult, -⟩ := Prod.mk.inj hval
  exact hcall q.sql params s.state e (hresult.symm.trans he)

theorem answer_of_refused (hd : c.Faithful d.session) (h : r.Runs kind id args) {e : Failure}
    (hb : c.bound id args = .error e) (elapsed : Nat) :
    (c.answer elapsed d r).1 = .failed e ∧
      (c.answer elapsed d r).2.2.session.state = d.session.state := by
  cases h with
  | query id args slot =>
    obtain ⟨hresult, hstate⟩ := run_of_refused hd hb .query c.store.query elapsed
    simp only [answer, query]
    rcases hq : c.run .query c.store.query elapsed id args d.session with ⟨result, events, s⟩
    rw [hq] at hresult hstate
    obtain rfl : result = .error e := hresult
    exact ⟨rfl, hstate⟩
  | execute id args =>
    obtain ⟨hresult, hstate⟩ := run_of_refused hd hb .execute c.store.execute elapsed
    refine ⟨?_, hstate⟩
    simp only [answer, execute, hresult, Reply.ofResult]
  | fetchAll id args =>
    obtain ⟨hresult, hstate⟩ := run_of_refused hd hb .query c.store.query elapsed
    refine ⟨?_, hstate⟩
    simp only [answer, fetchAll, query, hresult, Except.bind, Reply.ofResult]
  | fetchFirst id args =>
    obtain ⟨hresult, hstate⟩ := run_of_refused hd hb .query c.store.query elapsed
    refine ⟨?_, hstate⟩
    simp only [answer, fetchFirst, query, hresult, Except.bind, Reply.ofResult]

theorem query_of_failed {slot elapsed : Nat} {e : Failure}
    (he : (c.answer elapsed d (.query id args slot)).1 = .failed e) :
    (c.query elapsed id args d.session).1 = .error e := by
  simp only [answer] at he
  rcases hq : c.query elapsed id args d.session with ⟨e' | cursor, events, s⟩
  · rw [hq] at he
    cases he
    rfl
  · rw [hq] at he
    cases he

theorem execute_of_failed {elapsed : Nat} {e : Failure}
    (he : (c.answer elapsed d (.execute id args)).1 = .failed e) :
    (c.execute elapsed id args d.session).1 = .error e := by
  simp only [answer] at he
  rcases hq : c.execute elapsed id args d.session with ⟨e' | n, events, s⟩
  · rw [hq] at he
    cases he
    rfl
  · rw [hq] at he
    cases he

/-! ## At the end of a run -/

theorem desk_answerAll_concat (c : Client σ ρ) (d : Desk σ ρ) (rs : List (Nat × Request))
    (x : Nat × Request) :
    (c.answerAll d (rs ++ [x])).2 = (c.answer x.1 (c.answerAll d rs).2 x.2).2.2 := by
  induction rs generalizing d with
  | nil => rfl
  | cons y rest ih =>
    obtain ⟨elapsed, r⟩ := y
    simp only [List.cons_append, answerAll, ih]

theorem replies_answerAll_concat (c : Client σ ρ) (d : Desk σ ρ) (rs : List (Nat × Request))
    (x : Nat × Request) :
    (c.answerAll d (rs ++ [x])).1 = (c.answerAll d rs).1 ++
      [((c.answer x.1 (c.answerAll d rs).2 x.2).1,
        (c.answer x.1 (c.answerAll d rs).2 x.2).2.1)] := by
  induction rs generalizing d with
  | nil => rfl
  | cons y rest ih =>
    obtain ⟨elapsed, r⟩ := y
    simp only [List.cons_append, answerAll, ih]

theorem callsOfAll_concat (c : Client σ ρ) (d : Desk σ ρ) (rs : List (Nat × Request))
    (x : Nat × Request) :
    c.callsOfAll d (rs ++ [x]) = c.callsOfAll d rs ++ c.callsOf (c.answerAll d rs).2 x.2 := by
  induction rs generalizing d with
  | nil => simp [callsOfAll, answerAll]
  | cons y rest ih =>
    obtain ⟨elapsed, r⟩ := y
    simp only [List.cons_append, callsOfAll, answerAll, ih, List.append_assoc]

/-- What one more request adds to the traffic. -/
theorem traffic_concat (c : Client σ ρ) (state : σ) (rs : List (Nat × Request))
    (x : Nat × Request) :
    let d := (c.answerAll (c.openDesk state) rs).2
    c.traffic state (rs ++ [x]) =
      ((c.answer x.1 d x.2).2.2.session.state, (c.traffic state rs).2 ++ c.callsOf d x.2) := by
  intro d
  rw [traffic_eq, traffic_eq, desk_answerAll_concat, callsOfAll_concat]

theorem faithful_answerAll (c : Client σ ρ) (state : σ) (rs : List (Nat × Request)) :
    c.Faithful (c.answerAll (c.openDesk state) rs).2.session :=
  (told_answerAll (.start c state) rs).faithful

/-- The reply to one more request, after a run from new on. -/
def replyTo (c : Client σ ρ) (state : σ) (rs : List (Nat × Request)) (x : Nat × Request) :
    Reply ρ :=
  (c.answer x.1 (c.answerAll (c.openDesk state) rs).2 x.2).1

/-- After the run, this request fails with `e`, and the store receives no call
and is left in its state. -/
structure Refuses (c : Client σ ρ) (state : σ) (rs : List (Nat × Request)) (x : Nat × Request)
    (e : Failure) : Prop where
  reply : c.replyTo state rs x = .failed e
  traffic : c.traffic state (rs ++ [x]) = c.traffic state rs

/-- After the run, the store receives this call for the request and no other. -/
def Calls (c : Client σ ρ) (state : σ) (rs : List (Nat × Request)) (x : Nat × Request)
    (call : Call) : Prop :=
  (c.traffic state (rs ++ [x])).2 = (c.traffic state rs).2 ++ [call]

theorem refuses_of_bound (h : r.Runs kind id args) {e : Failure} (hb : c.bound id args = .error e)
    (state : σ) (rs : List (Nat × Request)) (elapsed : Nat) :
    c.Refuses state rs (elapsed, r) e := by
  have hd := c.faithful_answerAll state rs
  obtain ⟨hreply, hstate⟩ := answer_of_refused hd h hb elapsed
  refine ⟨hreply, ?_⟩
  rw [traffic_concat, callsOf_of_runs h, callFor_of_error hd hb, List.append_nil, hstate,
    traffic_eq]

theorem calls_of_bound (h : r.Runs kind id args) {q : Compiled} {params : List Value}
    (hb : c.bound id args = .ok (q, params)) (state : σ) (rs : List (Nat × Request))
    (elapsed : Nat) : c.Calls state rs (elapsed, r) ⟨kind, q.sql, params⟩ := by
  rw [Calls, traffic_concat, callsOf_of_runs h, callFor_of_ok (c.faithful_answerAll state rs) hb]

/-- When a statement reaches the store. It is refused if its id is unknown, else
if its template is malformed, else if the arguments do not pair up; else the
store receives one call, whose SQL is what the template compiles to, after
whatever run and with whatever arguments, and whose parameters are as many as
the names. If the store fails for its own reasons only, a query or an execution
fails for such a reason exactly if it reached the store. -/
theorem store_reached_exactly (c : Client σ ρ) (id : String) :
    (c.catalog.find? id = none → ∀ state rs elapsed r kind args, r.Runs kind id args →
      c.Refuses state rs (elapsed, r) (.unknownStatement id)) ∧
    (∀ t, c.catalog.find? id = some t →
      (∀ e, Template.compile t c.dialect = .error e → (∃ i, e = .malformedTemplate i) ∧
        ∀ state rs elapsed r kind args, r.Runs kind id args →
          c.Refuses state rs (elapsed, r) e) ∧
      ∀ q, Template.compile t c.dialect = .ok q →
        ∀ state rs elapsed r kind args, r.Runs kind id args →
          (args.length % 2 = 1 →
            c.Refuses state rs (elapsed, r) (.oddArgumentCount args.length)) ∧
          (args.length % 2 = 0 → ∃ params, params.length = q.names.length ∧
            c.Calls state rs (elapsed, r) ⟨kind, q.sql, params⟩)) ∧
    (c.store.OwnFailures → ∀ state rs elapsed r args e,
      (∃ slot, r = .query id args slot) ∨ r = .execute id args →
      c.replyTo state rs (elapsed, r) = .failed e →
      (e.fromStore = true ↔
        (c.traffic state (rs ++ [(elapsed, r)])).2 ≠ (c.traffic state rs).2)) := by
  refine ⟨fun hid state rs elapsed r kind args h =>
      refuses_of_bound h (bound_of_unknown hid) state rs elapsed,
    fun t hid => ⟨fun e ht => ⟨Template.malformed_of_compile ht,
      fun state rs elapsed r kind args h =>
        refuses_of_bound h (bound_of_malformed hid ht) state rs elapsed⟩,
      fun q ht state rs elapsed r kind args h => ⟨fun hodd =>
        refuses_of_bound h (bound_of_odd hid ht hodd) state rs elapsed, fun heven => ?_⟩⟩,
    fun hstore state rs elapsed r args e hr hreply => ?_⟩
  · obtain ⟨params, hlength, hb⟩ := bound_of_even hid ht heven
    exact ⟨params, hlength, calls_of_bound h hb state rs elapsed⟩
  · obtain ⟨kind, h⟩ : ∃ kind, r.Runs kind id args := by
      rcases hr with ⟨slot, rfl⟩ | rfl
      · exact ⟨_, .query id args slot⟩
      · exact ⟨_, .execute id args⟩
    cases hb : c.bound id args with
    | error e' =>
      have href := refuses_of_bound h hb state rs elapsed
      obtain rfl : e' = e := by
        rw [href.reply] at hreply
        cases hreply
        rfl
      simp [href.traffic, fromStore_of_bound hb]
    | ok b =>
      obtain ⟨q, params⟩ := b
      have hcalls := calls_of_bound h hb state rs elapsed
      have hd := c.faithful_answerAll state rs
      have hown : e.fromStore = true := by
        rcases hr with ⟨slot, rfl⟩ | rfl
        · exact fromStore_of_run hd hstore.query hb (query_of_failed hreply)
        · exact fromStore_of_run hd hstore.execute hb (execute_of_failed hreply)
      rw [Calls] at hcalls
      simp [hcalls, hown]

/-- Two faults at once, after a run: the template counts before the arguments.
Another statement goes through, and a call that the script rejects is a failure
of the store. -/
theorem store_reached_exactly_scripted :
    let script : Script := ⟨"postgres", some "DROP", 1, none⟩
    let catalog : Catalog := KeyMap.ofList
      [("bad", "SELECT :a:b"), ("find", "SELECT * FROM t WHERE k = :k"), ("drop", "DROP TABLE t")]
    let c : Client (List Call) (List Value) := ⟨script.store, catalog, Settings.default⟩
    let rs : List (Nat × Request) := [(0, .prepare "find"), (1, .fetchAll "find" [])]
    c.Refuses [] rs (2, .execute "bad" [.null]) (.malformedTemplate 9) ∧
      (∃ params, params.length = 1 ∧ c.Calls [] rs (2, .fetchFirst "find" [.text "k", .null])
        ⟨.query, "SELECT * FROM t WHERE k = $1", params⟩) ∧
      (c.traffic [] (rs ++ [(2, .execute "drop" [])])).2 ≠ (c.traffic [] rs).2 := by
  intro script catalog c rs
  have hbad : catalog.find? "bad" = some "SELECT :a:b" := by decide +kernel
  have hfind : catalog.find? "find" = some "SELECT * FROM t WHERE k = :k" := by decide +kernel
  have hmalformed : Template.compile "SELECT :a:b" c.dialect = .error (.malformedTemplate 9) := by
    decide +kernel
  have hok : Template.compile "SELECT * FROM t WHERE k = :k" c.dialect =
      .ok ⟨"SELECT * FROM t WHERE k = $1", ["k"]⟩ := by decide +kernel
  obtain ⟨e, hreply, hown⟩ : ∃ e, c.replyTo [] rs (2, .execute "drop" []) = .failed e ∧
      e.fromStore = true := by
    have hcheck : (match c.replyTo [] rs (2, .execute "drop" []) with
        | .failed e => e.fromStore
        | _ => false) = true := by decide +kernel
    cases hr : c.replyTo [] rs (2, .execute "drop" []) with
    | failed e =>
      rw [hr] at hcheck
      exact ⟨e, rfl, hcheck⟩
    | _ =>
      rw [hr] at hcheck
      cases hcheck
  exact ⟨(((store_reached_exactly c "bad").2.1 _ hbad).1 _ hmalformed).2 [] rs 2 _ .execute _
      (.execute "bad" [.null]),
    (((store_reached_exactly c "find").2.1 _ hfind).2 _ hok [] rs 2 _ .query _
      (.fetchFirst "find" [.text "k", .null])).2 rfl,
    ((store_reached_exactly c "drop").2.2 script.ownFailures [] rs 2 _ _ e (.inr rfl)
      hreply).1 hown⟩

end Client

end SqlCatalog
