import SqlCatalog.Proofs.Client.Dispatch
/-!
# Where failures come from

A request fails because its statement is refused, because the store rejects a
call, because a row cannot be read, or because the catalog is not valid. So a
property of all of these holds of every failure that a run replies with
(`failed_of_answerAll`).
-/
namespace SqlCatalog

variable {σ ρ : Type} {P : Failure → Prop}

/-! ## Cursors -/

/-- Every row that cannot be read fails like this. -/
def Cursor.FailsWith (P : Failure → Prop) (c : Cursor ρ) : Prop := ∀ e, .error e ∈ c.pending → P e

theorem Cursor.mem_of_collectRows {e : Failure} {rows : List (Except Failure ρ)}
    (h : collectRows rows = .error e) : .error e ∈ rows := by
  induction rows with
  | nil => cases h
  | cons r rows ih =>
    cases r with
    | error e' =>
      cases h
      exact List.mem_cons_self
    | ok row => exact List.mem_cons_of_mem _ (ih (Except.map_eq_error_iff.1 h))

namespace Cursor.FailsWith

variable {c : Cursor ρ} {e : Failure}

theorem collect (h : c.FailsWith P) (he : c.collect = .error e) : P e :=
  h e (mem_of_collectRows he)

theorem first (h : c.FailsWith P) (he : c.first = .error e) : P e := by
  obtain ⟨_ | ⟨r | row, rest⟩⟩ := c
  · cases he
  · cases he
    exact h e List.mem_cons_self
  · cases he

theorem fst_next (h : c.FailsWith P) (he : c.next.1 = some (.error e)) : P e := by
  obtain ⟨_ | ⟨r, rest⟩⟩ := c
  · cases he
  · cases he
    exact h e List.mem_cons_self

theorem snd_next (h : c.FailsWith P) : c.next.2.FailsWith P := by
  obtain ⟨_ | ⟨r, rest⟩⟩ := c
  · exact h
  · exact fun e he => h e (List.mem_cons_of_mem _ he)

end Cursor.FailsWith

/-! ## Stores and clients -/

/-- Every call that the store rejects and every row that it cannot read fails like this. -/
structure Store.FailsWith (s : Store σ ρ) (P : Failure → Prop) : Prop where
  query : ∀ sql params state e, (s.query sql params state).1 = .error e → P e
  rows : ∀ sql params state cursor, (s.query sql params state).1 = .ok cursor → cursor.FailsWith P
  execute : ∀ sql params state e, (s.execute sql params state).1 = .error e → P e

theorem Store.FailsWith.imp {Q : Failure → Prop} {s : Store σ ρ} (h : s.FailsWith P)
    (hPQ : ∀ e, P e → Q e) : s.FailsWith Q :=
  ⟨fun sql params state e he => hPQ e (h.query sql params state e he),
    fun sql params state cursor hc e he => hPQ e (h.rows sql params state cursor hc e he),
    fun sql params state e he => hPQ e (h.execute sql params state e he)⟩

/-- A rejection by a store is never about a malformed template. -/
theorem Failure.isMalformedTemplate_of_fromStore {e : Failure} (h : e.fromStore = true) :
    e.isMalformedTemplate = false := by
  cases e with
  | malformedTemplate i => cases h
  | _ => rfl

/-- A script fails as stores do. -/
theorem Script.failsWith (s : Script) : s.store.FailsWith (·.fromStore = true) := by
  refine ⟨s.ownFailures.query, fun sql params calls cursor hc e he => ?_, s.ownFailures.execute⟩
  cases hr : s.rejection sql with
  | some e' => simp [Script.store, Script.query, hr] at hc
  | none =>
    obtain rfl : ⟨(List.range s.rows).map (s.row params)⟩ = cursor := by
      simpa [Script.store, Script.query, hr] using hc
    obtain ⟨i, -, hi⟩ := List.mem_map.1 he
    unfold Script.row at hi
    split at hi
    · cases hi
      rfl
    · cases hi

theorem Reply.error_of_ofResult {α : Type} {f : α → Reply ρ} (hf : ∀ a e, f a ≠ .failed e)
    {r : Except Failure α} {e : Failure} (h : Reply.ofResult f r = .failed e) : r = .error e := by
  cases r with
  | ok a => exact absurd h (hf a e)
  | error e' =>
    cases h
    rfl

namespace Client

/-- Everything that can fail fails like this. -/
structure FailsWith (c : Client σ ρ) (P : Failure → Prop) : Prop where
  bound : ∀ id args e, c.bound id args = .error e → P e
  validate : ∀ e, c.validate.1 = .error e → P e
  store : c.store.FailsWith P

/-- A desk after some requests, with cursors whose rows fail like this. -/
structure SafeDesk (c : Client σ ρ) (P : Failure → Prop) (d : Desk σ ρ) : Prop where
  told : ∃ m, c.Told m d.session
  cursors : ∀ x ∈ d.cursors, x.2.FailsWith P

variable {c : Client σ ρ} {d : Desk σ ρ} {e : Failure} {id : String} {args : List Value}
  {elapsed : Nat}

namespace SafeDesk

theorem openDesk (c : Client σ ρ) (state : σ) : c.SafeDesk P (c.openDesk state) :=
  ⟨⟨[], .start c state⟩, nofun⟩

theorem faithful (h : c.SafeDesk P d) : c.Faithful d.session := by
  obtain ⟨m, hm⟩ := h.told
  exact hm.faithful

theorem cursor? (h : c.SafeDesk P d) {slot : Nat} {cursor : Cursor ρ}
    (hc : d.cursor? slot = some cursor) : cursor.FailsWith P := by
  obtain ⟨before, after, hl, -⟩ := List.lookup_eq_some_iff.1 hc
  exact h.cursors (slot, cursor) (by simp [hl])

end SafeDesk

theorem cursors_release (h : ∀ x ∈ d.cursors, x.2.FailsWith P) (slot : Nat) :
    ∀ x ∈ (d.release slot).cursors, x.2.FailsWith P :=
  fun x hx => h x (List.mem_filter.1 hx).1

theorem cursors_place (h : ∀ x ∈ d.cursors, x.2.FailsWith P) (slot : Nat) {cursor : Cursor ρ}
    (hc : cursor.FailsWith P) : ∀ x ∈ (d.place slot cursor).cursors, x.2.FailsWith P :=
  List.forall_mem_cons.2 ⟨hc, cursors_release h slot⟩

/-! ## One request -/

/-- What comes back from a statement that is run. -/
theorem run_cases {α : Type} {s : Session σ} (hs : c.Faithful s) (kind : CallKind)
    (call : String → List Value → σ → Except Failure α × σ) :
    (∃ e, c.bound id args = .error e ∧ (c.run kind call elapsed id args s).1 = .error e) ∨
      ∃ (q : Compiled) (params : List Value),
        (c.run kind call elapsed id args s).1 = (call q.sql params s.state).1 := by
  have hval := run_value hs kind call elapsed id args
  cases hb : c.bound id args with
  | error e =>
    rw [hb] at hval
    exact .inl ⟨e, rfl, congrArg Prod.fst hval⟩
  | ok b =>
    rw [hb] at hval
    exact .inr ⟨b.1, b.2, congrArg Prod.fst hval⟩

theorem FailsWith.query_error (h : c.FailsWith P) {s : Session σ} (hs : c.Faithful s)
    (he : (c.query elapsed id args s).1 = .error e) : P e := by
  unfold query at he
  rcases run_cases hs .query c.store.query with ⟨e', hb, hrun⟩ | ⟨q, params, hrun⟩
  · rw [hrun] at he
    cases he
    exact h.bound id args _ hb
  · rw [hrun] at he
    exact h.store.query _ _ _ e he

theorem FailsWith.query_ok (h : c.FailsWith P) {s : Session σ} (hs : c.Faithful s)
    {cursor : Cursor ρ} (hc : (c.query elapsed id args s).1 = .ok cursor) :
    cursor.FailsWith P := by
  unfold query at hc
  rcases run_cases hs .query c.store.query with ⟨e', -, hrun⟩ | ⟨q, params, hrun⟩
  · rw [hrun] at hc
    cases hc
  · rw [hrun] at hc
    exact h.store.rows _ _ _ cursor hc

theorem FailsWith.execute_error (h : c.FailsWith P) {s : Session σ} (hs : c.Faithful s)
    (he : (c.execute elapsed id args s).1 = .error e) : P e := by
  unfold execute at he
  rcases run_cases hs .execute c.store.execute with ⟨e', hb, hrun⟩ | ⟨q, params, hrun⟩
  · rw [hrun] at he
    cases he
    exact h.bound id args _ hb
  · rw [hrun] at he
    exact h.store.execute _ _ _ e he

/-- Rows read from a query fail as the query or as its cursor does. -/
theorem FailsWith.fetch_error {α : Type} (h : c.FailsWith P) {s : Session σ} (hs : c.Faithful s)
    {f : Cursor ρ → Except Failure α}
    (hf : ∀ cursor : Cursor ρ, cursor.FailsWith P → ∀ e, f cursor = .error e → P e)
    (he : (c.query elapsed id args s).1.bind f = .error e) : P e := by
  cases hq : (c.query elapsed id args s).1 with
  | error e' =>
    rw [hq] at he
    cases he
    exact h.query_error hs hq
  | ok cursor =>
    rw [hq] at he
    exact hf cursor (h.query_ok hs hq) e he

theorem FailsWith.prepare_error (h : c.FailsWith P) {s : Session σ} (hs : c.Faithful s)
    (he : (c.prepare id s).1 = .error e) : P e := by
  have hval := prepare_value hs id
  rw [he] at hval
  refine h.bound id [] e ?_
  rw [Client.bound, ← hval]
  rfl

theorem FailsWith.bindCall_error (h : c.FailsWith P) {s : Session σ} (hs : c.Faithful s)
    (he : (c.bindCall id args s).1 = .error e) : P e := by
  have hval := bindCall_value hs id args
  rw [he] at hval
  exact h.bound id args e hval.symm

/-- The failure of one request. -/
theorem failed_of_answer (h : c.FailsWith P) (hd : c.SafeDesk P d) {r : Request}
    (he : (c.answer elapsed d r).1 = .failed e) : P e := by
  have hs := hd.faithful
  cases r with
  | prepare id => exact h.prepare_error hs (Reply.error_of_ofResult (by simp) he)
  | bindCall id args => exact h.bindCall_error hs (Reply.error_of_ofResult (by simp) he)
  | query id args slot => exact h.query_error hs (query_of_failed he)
  | execute id args => exact h.execute_error hs (execute_of_failed he)
  | fetchAll id args =>
    exact h.fetch_error hs (fun _ hc _ => hc.collect) (Reply.error_of_ofResult (by simp) he)
  | fetchFirst id args =>
    exact h.fetch_error hs (fun _ hc _ => hc.first) (Reply.error_of_ofResult (by simp) he)
  | next slot =>
    simp only [answer] at he
    cases hc : d.cursor? slot with
    | none =>
      rw [hc] at he
      cases he
    | some cursor =>
      rw [hc] at he
      cases hn : cursor.next.1 with
      | none =>
        simp only [hn] at he
        cases he
      | some row =>
        simp only [hn] at he
        rw [Reply.error_of_ofResult (by simp) he] at hn
        exact (hd.cursor? hc).fst_next hn
  | collect slot =>
    simp only [answer] at he
    cases hc : d.cursor? slot with
    | none =>
      rw [hc] at he
      cases he
    | some cursor =>
      rw [hc] at he
      exact (hd.cursor? hc).collect (Reply.error_of_ofResult (by simp) he)
  | close slot =>
    simp only [answer] at he
    cases hc : d.cursor? slot <;> rw [hc] at he <;> cases he
  | validate => exact h.validate e (Reply.error_of_ofResult (by simp) he)
  | clearCache => cases he

/-- A desk stays as it is, gets a cursor from the store, or loses one. -/
theorem SafeDesk.answer (h : c.FailsWith P) (hd : c.SafeDesk P d) (elapsed : Nat) (r : Request) :
    c.SafeDesk P (c.answer elapsed d r).2.2 := by
  obtain ⟨m, hm⟩ := hd.told
  refine ⟨⟨_, told_answer hm elapsed r⟩, ?_⟩
  cases r with
  | query id args slot =>
    simp only [Client.answer]
    cases hq : (c.query elapsed id args d.session).1 with
    | error e => exact hd.cursors
    | ok cursor => exact cursors_place hd.cursors slot (h.query_ok hd.faithful hq)
  | next slot =>
    simp only [Client.answer]
    cases hc : d.cursor? slot with
    | none => exact hd.cursors
    | some cursor => exact cursors_place hd.cursors slot (hd.cursor? hc).snd_next
  | collect slot | close slot =>
    simp only [Client.answer]
    cases hc : d.cursor? slot with
    | none => exact hd.cursors
    | some cursor => exact cursors_release hd.cursors slot
  | prepare | bindCall | execute | fetchAll | fetchFirst | validate | clearCache =>
    exact hd.cursors

/-! ## Along a run -/

/-- Every failure that a run replies with. -/
theorem failed_of_answerAll (h : c.FailsWith P) (hd : c.SafeDesk P d) {rs : List (Nat × Request)}
    {a : Reply ρ × List Event} (ha : a ∈ (c.answerAll d rs).1) (he : a.1 = .failed e) : P e := by
  induction rs generalizing d with
  | nil => cases ha
  | cons x rest ih =>
    obtain ⟨elapsed, r⟩ := x
    rcases List.mem_cons.1 ha with rfl | ha
    · exact failed_of_answer h hd he
    · exact ih (hd.answer h elapsed r) ha

end Client

end SqlCatalog
