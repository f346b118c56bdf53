import SqlCatalog.Proofs.Client.Dispatch
/-!
# What a cursor delivers

A cursor delivers the results of its query one by one, failures among them, and
then the end for good; collecting gives the rows that are left, or the first
failure in them. Whatever else is asked of the client in the meantime, only
reading from its own slot moves a cursor (`cursor?_answerAll`). The two fetches
are a query and one read of its cursor (`cursors_deliver_all`).
-/
namespace SqlCatalog

variable {σ ρ : Type}

/-! ## One cursor -/

namespace Cursor

theorem fst_next (c : Cursor ρ) : c.next.1 = c.pending.head? := by
  obtain ⟨_ | ⟨r, rest⟩⟩ := c <;> rfl

theorem pending_next (c : Cursor ρ) : c.next.2.pending = c.pending.tail := by
  obtain ⟨_ | ⟨r, rest⟩⟩ := c <;> rfl

/-- The cursor behind `k` results. -/
def after (c : Cursor ρ) : Nat → Cursor ρ
  | 0 => c
  | k + 1 => (c.after k).next.2

theorem pending_after (c : Cursor ρ) (k : Nat) : (c.after k).pending = c.pending.drop k := by
  induction k with
  | zero => rfl
  | succ k ih => rw [after, pending_next, ih, List.tail_drop]

theorem fst_next_after (c : Cursor ρ) (k : Nat) : (c.after k).next.1 = c.pending[k]? := by
  rw [fst_next, pending_after, List.head?_drop]

theorem after_after (c : Cursor ρ) (j k : Nat) : (c.after j).after k = c.after (j + k) := by
  induction k with
  | zero => rfl
  | succ k ih => rw [after, ih, ← Nat.add_assoc, after]

theorem collect_eq_ok_iff {c : Cursor ρ} {rows : List ρ} :
    c.collect = .ok rows ↔ c.pending = rows.map .ok := by
  obtain ⟨rs⟩ := c
  show collectRows rs = .ok rows ↔ rs = rows.map .ok
  induction rs generalizing rows with
  | nil => simp [collectRows, eq_comm]
  | cons r rest ih =>
    cases r with
    | error e => cases rows <;> simp [collectRows]
    | ok row =>
      rw [collectRows, Except.map_eq_ok_iff]
      cases rows with
      | nil => simp
      | cons row' rows => simp [ih, and_comm]

theorem collect_eq_error_iff {c : Cursor ρ} {e : Failure} :
    c.collect = .error e ↔
      ∃ before after, c.pending = List.map .ok before ++ .error e :: after := by
  obtain ⟨rs⟩ := c
  show collectRows rs = .error e ↔ ∃ before after, rs = List.map .ok before ++ .error e :: after
  induction rs with
  | nil => simp [collectRows]
  | cons r rest ih =>
    cases r with
    | error e' =>
      constructor
      · intro h
        cases h
        exact ⟨[], rest, rfl⟩
      · rintro ⟨_ | ⟨row, before⟩, after, h⟩
        · cases h
          rfl
        · cases h
    | ok row =>
      rw [collectRows, Except.map_eq_error_iff, ih]
      constructor
      · rintro ⟨before, after, rfl⟩
        exact ⟨row :: before, after, rfl⟩
      · rintro ⟨_ | ⟨row', before⟩, after, h⟩
        · cases h
        · cases h
          exact ⟨before, after, rfl⟩

end Cursor

/-! ## Slots -/

namespace Desk

variable (d : Desk σ ρ)

theorem cursor?_place_self (slot : Nat) (cursor : Cursor ρ) :
    (d.place slot cursor).cursor? slot = some cursor := List.lookup_cons_self

theorem cursor?_release_ne {slot other : Nat} (h : other ≠ slot) :
    (d.release other).cursor? slot = d.cursor? slot := by
  show (d.cursors.filter (fun e => e.1 != other)).lookup slot = d.cursors.lookup slot
  induction d.cursors with
  | nil => rfl
  | cons e rest ih =>
    obtain ⟨s, cursor⟩ := e
    by_cases hs : s = other
    · have hslot : (slot == s) = false := by simpa [hs] using h.symm
      simp only [hs, bne_self_eq_false, Bool.false_eq_true, not_false_eq_true,
        List.filter_cons_of_neg, ih]
      rw [List.lookup_cons, ← hs, hslot]
    · rw [List.filter_cons_of_pos (by simpa using hs), List.lookup_cons, List.lookup_cons, ih]

theorem cursor?_place_ne {slot other : Nat} (h : other ≠ slot) (cursor : Cursor ρ) :
    (d.place other cursor).cursor? slot = d.cursor? slot := by
  have hslot : (slot == other) = false := by simpa using h.symm
  show ((other, cursor) :: (d.release other).cursors).lookup slot = d.cursor? slot
  rw [List.lookup_cons, hslot]
  exact d.cursor?_release_ne h

end Desk

/-- A request that takes the cursor out of a slot: another query into it, collecting what
is left, closing it. -/
inductive Request.Ends (slot : Nat) : Request → Prop
  | query (id : String) (args : List Value) : Ends slot (.query id args slot)
  | collect : Ends slot (.collect slot)
  | close : Ends slot (.close slot)

/-- How many of some requests read the next result in a slot. -/
def readsOf (slot : Nat) (rs : List (Nat × Request)) : Nat :=
  rs.countP fun x => match x.2 with
    | .next s => s == slot
    | _ => false

namespace Reply

/-- The reply to a read of the next result. -/
def ofNext : Option (Except Failure ρ) → Reply ρ
  | none => .finished
  | some (.ok r) => .row r
  | some (.error e) => .failed e

/-- The reply to a fetch of the first row, from the reply to a read. -/
def asFirst : Reply ρ → Reply ρ
  | .finished => .first none
  | .row r => .first (some r)
  | reply => reply

end Reply

namespace Client

variable {c : Client σ ρ} {d : Desk σ ρ} {slot : Nat} {cursor : Cursor ρ}

/-- A request moves a cursor by reading from its slot, and in no other way. -/
theorem cursor?_answer (hd : d.cursor? slot = some cursor) {r : Request} (hr : ¬r.Ends slot)
    (elapsed : Nat) :
    (c.answer elapsed d r).2.2.cursor? slot =
      some (cursor.after (readsOf slot [(elapsed, r)])) := by
  cases r with
  | query id args other =>
    have hne : other ≠ slot := by
      rintro rfl
      exact hr (.query id args)
    simp only [answer]
    rcases c.query elapsed id args d.session with ⟨e | opened, events, s⟩
    · exact hd
    · exact (Desk.cursor?_place_ne _ hne opened).trans hd
  | next other =>
    by_cases hother : other = slot
    · subst hother
      have hreads : readsOf other [(elapsed, .next other)] = 1 := by simp [readsOf]
      simp only [answer, hd, hreads]
      exact Desk.cursor?_place_self _ other _
    · have hreads : readsOf slot [(elapsed, .next other)] = 0 := by simp [readsOf, hother]
      rw [hreads]
      simp only [answer]
      cases d.cursor? other with
      | none => exact hd
      | some read => exact (d.cursor?_place_ne hother _).trans hd
  | collect other =>
    have hne : other ≠ slot := by
      rintro rfl
      exact hr .collect
    simp only [answer]
    cases d.cursor? other with
    | none => exact hd
    | some _ => exact (d.cursor?_release_ne hne).trans hd
  | close other =>
    have hne : other ≠ slot := by
      rintro rfl
      exact hr .close
    simp only [answer]
    cases d.cursor? other with
    | none => exact hd
    | some _ => exact (d.cursor?_release_ne hne).trans hd
  | prepare | bindCall | execute | fetchAll | fetchFirst | validate | clearCache => exact hd

/-- So along a run the place of a cursor is the number of reads from its slot. -/
theorem cursor?_answerAll (hd : d.cursor? slot = some cursor) {rs : List (Nat × Request)}
    (hrs : ∀ x ∈ rs, ¬x.2.Ends slot) :
    (c.answerAll d rs).2.cursor? slot = some (cursor.after (readsOf slot rs)) := by
  induction rs using List.reverseRecOn with
  | nil => exact hd
  | append_singleton rs x ih =>
    have hbefore := ih fun y hy => hrs y (List.mem_append_left _ hy)
    have hlast := cursor?_answer (c := c) hbefore (hrs x (by simp)) x.1
    rw [desk_answerAll_concat, hlast, Cursor.after_after, readsOf, readsOf, readsOf,
      List.countP_append]

/-! ## Replies -/

theorem answer_next (hd : d.cursor? slot = some cursor) (elapsed : Nat) :
    (c.answer elapsed d (.next slot)).1 = .ofNext cursor.next.1 := by
  simp only [answer, hd]
  rcases cursor.next.1 with _ | e | row <;> rfl

theorem answer_collect (hd : d.cursor? slot = some cursor) (elapsed : Nat) :
    (c.answer elapsed d (.collect slot)).1 = .ofResult .rows cursor.collect := by
  simp only [answer, hd]

/-- From the end of the run `rs` on, a slot delivers these results: the one whose number
is that of the reads so far, or all that are left behind that many. -/
structure Delivers (c : Client σ ρ) (state : σ) (rs : List (Nat × Request)) (slot : Nat)
    (items : List (Except Failure ρ)) : Prop where
  next : ∀ more elapsed, (∀ x ∈ more, ¬x.2.Ends slot) →
    c.replyTo state (rs ++ more) (elapsed, .next slot) = .ofNext items[readsOf slot more]?
  rows : ∀ more elapsed rows, (∀ x ∈ more, ¬x.2.Ends slot) →
    items.drop (readsOf slot more) = rows.map .ok →
    c.replyTo state (rs ++ more) (elapsed, .collect slot) = .rows rows
  failed : ∀ more elapsed before e after, (∀ x ∈ more, ¬x.2.Ends slot) →
    items.drop (readsOf slot more) = List.map .ok before ++ .error e :: after →
    c.replyTo state (rs ++ more) (elapsed, .collect slot) = .failed e

theorem desk_answerAll_append (c : Client σ ρ) (d : Desk σ ρ) (rs more : List (Nat × Request)) :
    (c.answerAll d (rs ++ more)).2 = (c.answerAll (c.answerAll d rs).2 more).2 := by
  induction rs generalizing d with
  | nil => rfl
  | cons x rest ih => exact ih _

theorem delivers_of_cursor? {state : σ} {rs : List (Nat × Request)}
    {items : List (Except Failure ρ)}
    (h : (c.answerAll (c.openDesk state) rs).2.cursor? slot = some ⟨items⟩) :
    c.Delivers state rs slot items := by
  have hmore (more : List (Nat × Request)) (hspared : ∀ x ∈ more, ¬x.2.Ends slot) :
      (c.answerAll (c.openDesk state) (rs ++ more)).2.cursor? slot =
        some (Cursor.after ⟨items⟩ (readsOf slot more)) := by
    rw [desk_answerAll_append]
    exact cursor?_answerAll h hspared
  refine ⟨fun more elapsed hspared => ?_, fun more elapsed rows hspared hrows => ?_,
    fun more elapsed before e after hspared hfail => ?_⟩
  · rw [replyTo, answer_next (hmore more hspared), Cursor.fst_next_after]
  · rw [← Cursor.pending_after ⟨items⟩] at hrows
    rw [replyTo, answer_collect (hmore more hspared), Cursor.collect_eq_ok_iff.2 hrows]
    rfl
  · rw [← Cursor.pending_after ⟨items⟩] at hfail
    rw [replyTo, answer_collect (hmore more hspared),
      Cursor.collect_eq_error_iff.2 ⟨before, after, hfail⟩]
    rfl

/-! ## Queries and fetches -/

variable {id : String} {args : List Value}

/-- The reply to a query, and if that opens a cursor, to a read that follows it. -/
def queryThen (c : Client σ ρ) (state : σ) (rs : List (Nat × Request)) (elapsed : Nat)
    (id : String) (args : List Value) (slot : Nat) (read : Nat × Request) : Reply ρ :=
  match c.replyTo state rs (elapsed, .query id args slot) with
  | .opened => c.replyTo state (rs ++ [(elapsed, .query id args slot)]) read
  | reply => reply

/-- Two runs from new on leave the same session, and the store has received the same calls. -/
def EndAlike (c : Client σ ρ) (state : σ) (rs rs' : List (Nat × Request)) : Prop :=
  (c.answerAll (c.openDesk state) rs).2.session = (c.answerAll (c.openDesk state) rs').2.session ∧
    (c.traffic state rs).2 = (c.traffic state rs').2

theorem answer_query_ok {elapsed : Nat} (h : (c.query elapsed id args d.session).1 = .ok cursor)
    (slot : Nat) :
    (c.answer elapsed d (.query id args slot)).1 = .opened ∧
      (c.answer elapsed d (.query id args slot)).2.2.cursor? slot = some cursor := by
  simp only [answer]
  rcases hq : c.query elapsed id args d.session with ⟨result, events, s⟩
  rw [hq] at h
  obtain rfl : result = .ok cursor := h
  exact ⟨rfl, Desk.cursor?_place_self _ slot cursor⟩

theorem answer_query_error {elapsed : Nat} {e : Failure}
    (h : (c.query elapsed id args d.session).1 = .error e) (slot : Nat) :
    (c.answer elapsed d (.query id args slot)).1 = .failed e := by
  simp only [answer]
  rcases hq : c.query elapsed id args d.session with ⟨result, events, s⟩
  rw [hq] at h
  obtain rfl : result = .error e := h
  rfl

theorem query_of_bound {s : Session σ} (hs : c.Faithful s) {q : Compiled} {params : List Value}
    (hb : c.bound id args = .ok (q, params)) (elapsed : Nat) :
    (c.query elapsed id args s).1 = (c.store.query q.sql params s.state).1 := by
  have hval := run_value hs .query c.store.query elapsed id args
  rw [hb] at hval
  exact congrArg Prod.fst hval

theorem answer_fetchAll (c : Client σ ρ) (d : Desk σ ρ) (elapsed : Nat) (id : String)
    (args : List Value) :
    (c.answer elapsed d (.fetchAll id args)).1 =
      .ofResult .rows ((c.query elapsed id args d.session).1.bind Cursor.collect) := rfl

theorem answer_fetchFirst (c : Client σ ρ) (d : Desk σ ρ) (elapsed : Nat) (id : String)
    (args : List Value) :
    (c.answer elapsed d (.fetchFirst id args)).1 =
      .ofResult .first ((c.query elapsed id args d.session).1.bind Cursor.first) := rfl

theorem ofResult_first (cursor : Cursor ρ) :
    Reply.ofResult .first cursor.first = (Reply.ofNext cursor.next.1).asFirst := by
  obtain ⟨_ | ⟨e | row, rest⟩⟩ := cursor <;> rfl

section

variable {state : σ} {rs : List (Nat × Request)} {elapsed : Nat}

theorem queryThen_of_error {e : Failure}
    (h : (c.query elapsed id args (c.answerAll (c.openDesk state) rs).2.session).1 = .error e)
    (slot : Nat) (read : Nat × Request) :
    c.queryThen state rs elapsed id args slot read = .failed e := by
  unfold queryThen replyTo
  rw [answer_query_error h slot]

/-- A query that opens a cursor is read where it has put it. -/
theorem queryThen_of_ok
    (h : (c.query elapsed id args (c.answerAll (c.openDesk state) rs).2.session).1 = .ok cursor)
    (slot : Nat) (read : Nat × Request) :
    ∃ d : Desk σ ρ, d.cursor? slot = some cursor ∧
      c.queryThen state rs elapsed id args slot read = (c.answer read.1 d read.2).1 := by
  obtain ⟨hreply, hcursor⟩ := answer_query_ok h slot
  refine ⟨_, hcursor, ?_⟩
  unfold queryThen replyTo
  rw [hreply, desk_answerAll_concat]

end

/-- A fetch is a query and one read of its cursor, wherever that cursor is kept. -/
theorem replyTo_fetchAll (c : Client σ ρ) (state : σ) (rs : List (Nat × Request)) (elapsed : Nat)
    (id : String) (args : List Value) (slot t : Nat) :
    c.replyTo state rs (elapsed, .fetchAll id args) =
      c.queryThen state rs elapsed id args slot (t, .collect slot) := by
  rw [replyTo, answer_fetchAll]
  cases hq : (c.query elapsed id args (c.answerAll (c.openDesk state) rs).2.session).1 with
  | error e =>
    rw [queryThen_of_error hq]
    rfl
  | ok cursor =>
    obtain ⟨d, hd, hread⟩ := queryThen_of_ok hq slot (t, .collect slot)
    rw [hread, answer_collect hd]
    rfl

theorem replyTo_fetchFirst (c : Client σ ρ) (state : σ) (rs : List (Nat × Request))
    (elapsed : Nat) (id : String) (args : List Value) (slot t : Nat) :
    c.replyTo state rs (elapsed, .fetchFirst id args) =
      (c.queryThen state rs elapsed id args slot (t, .next slot)).asFirst := by
  rw [replyTo, answer_fetchFirst]
  cases hq : (c.query elapsed id args (c.answerAll (c.openDesk state) rs).2.session).1 with
  | error e =>
    rw [queryThen_of_error hq]
    rfl
  | ok cursor =>
    obtain ⟨d, hd, hread⟩ := queryThen_of_ok hq slot (t, .next slot)
    rw [hread, answer_next hd]
    exact ofResult_first cursor

theorem session_answer_query (c : Client σ ρ) (d : Desk σ ρ) (elapsed : Nat) (id : String)
    (args : List Value) (slot : Nat) :
    (c.answer elapsed d (.query id args slot)).2.2.session =
      (c.query elapsed id args d.session).2.2 := by
  simp only [answer]
  rcases c.query elapsed id args d.session with ⟨e | cursor, events, s⟩ <;> rfl

/-- Reading from a cursor leaves the session as it is. -/
theorem session_answer_of_read {read : Request} (h : read = .next slot ∨ read = .collect slot)
    (d : Desk σ ρ) (elapsed : Nat) : (c.answer elapsed d read).2.2.session = d.session := by
  rcases h with rfl | rfl
  · simp only [answer]
    cases d.cursor? slot <;> rfl
  · simp only [answer]
    cases d.cursor? slot <;> rfl

theorem endAlike_of_read (c : Client σ ρ) (state : σ) (rs : List (Nat × Request)) (elapsed t : Nat)
    {fetch read : Request} (hfetch : fetch = .fetchAll id args ∨ fetch = .fetchFirst id args)
    (hread : read = .next slot ∨ read = .collect slot) :
    c.EndAlike state (rs ++ [(elapsed, fetch)])
      (rs ++ [(elapsed, .query id args slot), (t, read)]) := by
  have hsplit : rs ++ [(elapsed, .query id args slot), (t, read)] =
      rs ++ [(elapsed, .query id args slot)] ++ [(t, read)] := by
    rw [List.append_assoc]
    rfl
  have hcalls (d : Desk σ ρ) : c.callsOf d read = [] := by
    rcases hread with rfl | rfl <;> rfl
  rw [hsplit, EndAlike, traffic_concat, traffic_concat, traffic_concat, hcalls, List.append_nil]
  simp only [desk_answerAll_concat, session_answer_of_read hread, session_answer_query]
  rcases hfetch with rfl | rfl
  · exact ⟨rfl, rfl⟩
  · exact ⟨rfl, rfl⟩

/-- If all rows can be fetched, the first of them is what a fetch of the first row gives. -/
theorem fetchFirst_of_fetchAll {state : σ} {rs : List (Nat × Request)} {elapsed : Nat}
    {rows : List ρ} (h : c.replyTo state rs (elapsed, .fetchAll id args) = .rows rows) :
    c.replyTo state rs (elapsed, .fetchFirst id args) = .first rows.head? := by
  rw [replyTo, answer_fetchAll] at h
  rw [replyTo, answer_fetchFirst]
  cases hq : (c.query elapsed id args (c.answerAll (c.openDesk state) rs).2.session).1 with
  | error e =>
    rw [hq] at h
    cases h
  | ok cursor =>
    rw [hq, Except.bind] at h
    have hcollect : cursor.collect = .ok rows := by
      cases hc : cursor.collect with
      | error e =>
        rw [hc] at h
        cases h
      | ok rows' =>
        rw [hc] at h
        cases h
        rfl
    rw [Except.bind, ofResult_first, Cursor.fst_next, Cursor.collect_eq_ok_iff.1 hcollect]
    cases rows <;> rfl

/-- Cursors lose nothing and repeat nothing, and the fetches agree with them.

A query whose results are `items` opens a cursor that delivers them in order, whatever
the run before and the requests in between. A fetch replies what the query and one read
of its cursor reply, and ends alike; if the statement gets to the store, each of the
three makes one call, and none otherwise. So a fetch of the first row knows nothing of
the results behind it, and is the head of the rows if all of them can be fetched. -/
theorem cursors_deliver_all (c : Client σ ρ) (state : σ) (rs : List (Nat × Request))
    (elapsed : Nat) (id : String) (args : List Value) :
    (∀ q params items, c.bound id args = .ok (q, params) →
      (c.store.query q.sql params (c.traffic state rs).1).1 = .ok ⟨items⟩ →
      (∀ slot, c.replyTo state rs (elapsed, .query id args slot) = .opened ∧
        c.Delivers state (rs ++ [(elapsed, .query id args slot)]) slot items) ∧
      c.replyTo state rs (elapsed, .fetchFirst id args) = (Reply.ofNext items.head?).asFirst) ∧
    (∀ slot t,
      c.replyTo state rs (elapsed, .fetchAll id args) =
        c.queryThen state rs elapsed id args slot (t, .collect slot) ∧
      c.EndAlike state (rs ++ [(elapsed, .fetchAll id args)])
        (rs ++ [(elapsed, .query id args slot), (t, .collect slot)]) ∧
      c.replyTo state rs (elapsed, .fetchFirst id args) =
        (c.queryThen state rs elapsed id args slot (t, .next slot)).asFirst ∧
      c.EndAlike state (rs ++ [(elapsed, .fetchFirst id args)])
        (rs ++ [(elapsed, .query id args slot), (t, .next slot)])) ∧
    (∀ r, r.Runs .query id args →
      (∀ e, c.bound id args = .error e → c.Refuses state rs (elapsed, r) e) ∧
      ∀ q params, c.bound id args = .ok (q, params) →
        c.Calls state rs (elapsed, r) ⟨.query, q.sql, params⟩) ∧
    ∀ rows, c.replyTo state rs (elapsed, .fetchAll id args) = .rows rows →
      c.replyTo state rs (elapsed, .fetchFirst id args) = .first rows.head? := by
  refine ⟨fun q params items hb hitems => ?_, fun slot t => ?_, fun r h => ?_, fun rows h => ?_⟩
  · have hquery := query_of_bound (c.faithful_answerAll state rs) hb elapsed
    rw [traffic_eq] at hitems
    rw [hitems] at hquery
    refine ⟨fun slot => ?_, ?_⟩
    · obtain ⟨hreply, hcursor⟩ := answer_query_ok hquery slot
      refine ⟨hreply, delivers_of_cursor? ?_⟩
      rw [desk_answerAll_concat]
      exact hcursor
    · rw [replyTo, answer_fetchFirst, hquery]
      rw [Except.bind, ofResult_first, Cursor.fst_next]
  · exact ⟨replyTo_fetchAll c state rs elapsed id args slot t,
      endAlike_of_read c state rs elapsed t (.inl rfl) (.inr rfl),
      replyTo_fetchFirst c state rs elapsed id args slot t,
      endAlike_of_read c state rs elapsed t (.inr rfl) (.inl rfl)⟩
  · exact ⟨fun e hb => refuses_of_bound h hb state rs elapsed,
      fun q params hb => calls_of_bound h hb state rs elapsed⟩
  · exact fetchFirst_of_fetchAll h

/-- Three results, the second of them a failure. It is read past, with another cursor
opened and collected in between; a cursor that is collected at once stops at it. -/
theorem cursors_deliver_all_scripted :
    let script : Script := ⟨"postgres", none, 3, some 1⟩
    let catalog : Catalog := KeyMap.ofList [("all", "SELECT * FROM t")]
    let c : Client (List Call) (List Value) := ⟨script.store, catalog, Settings.default⟩
    let rs : List (Nat × Request) := [(0, .execute "all" []), (1, .query "all" [] 7)]
    let more : List (Nat × Request) :=
      [(2, .next 7), (3, .query "all" [] 8), (4, .collect 8), (5, .next 7), (6, .clearCache)]
    c.replyTo [] (rs ++ more) (7, .next 7) = .row [.int 2] ∧
      c.replyTo [] rs (2, .collect 7) = .failed (.store "row 1 failed") ∧
      c.replyTo [] [(0, .execute "all" [])] (1, .fetchFirst "all" []) = .first (some [.int 0]) := by
  intro script catalog c rs more
  have hid : catalog.find? "all" = some "SELECT * FROM t" := by decide +kernel
  have hok : Template.compile "SELECT * FROM t" c.dialect = .ok ⟨"SELECT * FROM t", []⟩ := by
    decide +kernel
  have heven : ([] : List Value).length % 2 = 0 := rfl
  obtain ⟨params, hlength, hb⟩ := bound_of_even hid hok heven
  obtain rfl := List.length_eq_zero_iff.1 hlength
  obtain ⟨hqueries, hfirst⟩ := (cursors_deliver_all c [] [(0, .execute "all" [])] 1 "all" []).1
    _ _ ((List.range 3).map (script.row [])) hb rfl
  obtain ⟨-, hdelivers⟩ := hqueries 7
  have hspared : ∀ x ∈ more, ¬x.2.Ends 7 := by
    simp only [more, List.forall_mem_cons]
    exact ⟨nofun, nofun, nofun, nofun, nofun, nofun⟩
  exact ⟨hdelivers.next more 7 hspared,
    hdelivers.failed [] 2 [[.int 0]] _ _ nofun rfl, hfirst⟩

end Client

end SqlCatalog
