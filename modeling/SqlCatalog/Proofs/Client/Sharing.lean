import Mathlib.Data.Finset.Card
import SqlCatalog.Proofs.Client.Preparation
import SqlCatalog.Proofs.KeyMap
import SqlCatalog.Store.Scripted
/-!
# Callers that share a session

Preparing a statement takes two steps, each under the lock of the cache: to look
it up and, if it was not found, to compile it and put it in
(`prepare_eq_lookUp_complete`). Callers take their steps in turns, in any order,
so that several of them may fail to find the same statement, and statements may
be evicted and put in again between the two steps of a caller.

`Moves` is all that a turn can do to the session. Whatever the schedule, a caller
gets what the catalog compiles, and callers get the same object as long as it is
not evicted or cleared; so they all do if there is room for every statement
(`prepare_shares_object`).
-/
namespace SqlCatalog

variable {σ ρ : Type}

/-- A step of one caller, or of one that clears the cache. -/
inductive Turn
  /-- Begin to prepare a statement: look it up. -/
  | lookUp (caller : Nat) (id : String)
  /-- Compile the statement that was not found, and put it in the cache. -/
  | complete (caller : Nat)
  | clear
deriving DecidableEq

/-- A session with the callers that did not find their statement in it. -/
structure Shared (σ : Type) where
  session : Session σ
  waiting : List (Nat × String)

/-- A statement that a caller prepared, and what it got. -/
abbrev Return := String × Except Failure Prepared

namespace Client

/-! ## Turns -/

/-- Compile a statement that was not found. The object to use is the one that is
in the cache by then, if there is one. -/
def complete (c : Client σ ρ) (id : String) (s : Session σ) :
    Except Failure Prepared × Session σ :=
  match c.catalog.compile id c.dialect with
  | .error e => (.error e, s)
  | .ok compiled =>
    let (kept, s) := s.keep id ⟨s.compilations, compiled⟩
    (.ok kept, { s with compilations := s.compilations + 1 })

/-- To prepare a statement is to look it up and to complete it if it is not there. -/
theorem prepare_eq_lookUp_complete (c : Client σ ρ) (id : String) (s : Session σ) :
    c.prepare id s =
      match s.lookUp id with
      | (some hit, s) => (.ok hit, s)
      | (none, s) => c.complete id s := by
  unfold prepare complete
  rcases s.lookUp id with ⟨_ | hit, s'⟩ <;> rfl

/-- One turn, with what a caller gets if it is done. A turn that a caller cannot
take is passed over. -/
def turn (c : Client σ ρ) (h : Shared σ) : Turn → Option Return × Shared σ
  | .lookUp caller id =>
    match h.waiting.lookup caller with
    | some _ => (none, h)
    | none =>
      match h.session.lookUp id with
      | (some hit, session) => (some (id, .ok hit), { h with session })
      | (none, session) => (none, ⟨session, (caller, id) :: h.waiting⟩)
  | .complete caller =>
    match h.waiting.lookup caller with
    | none => (none, h)
    | some id =>
      let (result, session) := c.complete id h.session
      (some (id, result), ⟨session, h.waiting.filter (fun w => w.1 != caller)⟩)
  | .clear => (none, { h with session := clearCache h.session })

/-- A caller that takes both steps in a row prepares the statement. -/
theorem turn_lookUp_complete (c : Client σ ρ) (h : Shared σ) {caller : Nat} (id : String)
    (hfree : h.waiting.lookup caller = none) :
    let first := c.turn h (.lookUp caller id)
    let second := c.turn first.2 (.complete caller)
    (first.1.or second.1, second.2.session) =
      (some (id, (c.prepare id h.session).1), (c.prepare id h.session).2) := by
  intro first second
  rw [prepare_eq_lookUp_complete]
  rcases hlook : h.session.lookUp id with ⟨_ | hit, s⟩
  · have hfirst : first = (none, ⟨s, (caller, id) :: h.waiting⟩) := by
      simp only [first, turn, hfree, hlook]
    simp [second, hfirst, turn]
  · have hfirst : first = (some (id, .ok hit), { h with session := s }) := by
      simp only [first, turn, hfree, hlook]
    simp [second, hfirst, turn, hfree]

/-- All that a turn can do to the session. -/
inductive Moves (c : Client σ ρ) (s : Session σ) : Turn → Option Return → Session σ → Prop
  | idle (t : Turn) : Moves c s t none s
  | clear : Moves c s .clear none (clearCache s)
  | refused {id : String} {e : Failure} (t : Turn)
      (hcomp : c.catalog.compile id c.dialect = .error e) : Moves c s t (some (id, .error e)) s
  | hit {id : String} {p : Prepared} (t : Turn) (hp : s.cached? id = some p) :
      Moves c s t (some (id, .ok p)) (s.lookUp id).2
  | kept {id : String} {q : Compiled} (t : Turn)
      (hcomp : c.catalog.compile id c.dialect = .ok q) :
      Moves c s t (some (id, .ok (s.keep id ⟨s.compilations, q⟩).1))
        { (s.keep id ⟨s.compilations, q⟩).2 with compilations := s.compilations + 1 }

theorem moves_turn (c : Client σ ρ) (h : Shared σ) (t : Turn) :
    c.Moves h.session t (c.turn h t).1 (c.turn h t).2.session := by
  cases t with
  | lookUp caller id =>
    simp only [turn]
    cases h.waiting.lookup caller with
    | some id' => exact .idle _
    | none =>
      have hfst := h.session.fst_lookUp id
      cases hcached : h.session.cached? id with
      | none =>
        rw [Session.lookUp_of_none hcached]
        exact .idle _
      | some p =>
        rw [show h.session.lookUp id = (some p, (h.session.lookUp id).2) from
          Prod.ext (hfst.trans hcached) rfl]
        exact .hit _ hcached
  | complete caller =>
    simp only [turn]
    cases h.waiting.lookup caller with
    | none => exact .idle _
    | some id =>
      cases hcomp : c.catalog.compile id c.dialect with
      | error e =>
        simp only [complete, hcomp]
        exact .refused _ hcomp
      | ok q =>
        simp only [complete, hcomp, Session.compilations_keep]
        exact .kept _ hcomp
  | clear => exact .clear

namespace Moves

variable {c : Client σ ρ} {s s' : Session σ} {t : Turn} {out : Option Return} {id : String}
  {p q : Prepared}

theorem faithful (h : c.Moves s t out s') (hs : c.Faithful s) : c.Faithful s' := by
  cases h with
  | idle => exact hs
  | clear => exact c.faithful_clearCache s
  | refused => exact hs
  | hit => exact hs.lookUp _
  | kept _ hcomp => exact hs.keep hcomp

/-- A caller gets what the catalog compiles, or its failure. -/
theorem value {r : Except Failure Prepared} (h : c.Moves s t (some (id, r)) s')
    (hs : c.Faithful s) : r.map Prepared.compiled = c.catalog.compile id c.dialect := by
  cases h with
  | refused _ hcomp => exact hcomp.symm
  | hit _ hp => exact (hs id _ hp).symm
  | kept _ hcomp =>
    rw [Session.fst_keep]
    cases hcached : s.cached? id with
    | none => exact hcomp.symm
    | some x => exact (hs id x hcached).symm

/-- A caller gets the object that is in the cache. -/
theorem eq_of_cached (h : c.Moves s t (some (id, .ok q)) s') (hp : s.cached? id = some p) :
    q = p := by
  cases h with
  | hit _ hq => exact Option.some.inj (hq.symm.trans hp)
  | kept => rw [Session.fst_keep, hp, Option.getD_some]

/-- What is in the cache afterwards is the object that the caller got. -/
theorem cached?_of_returned (h : c.Moves s t (some (id, .ok p)) s') (hq : s'.cached? id = some q) :
    q = p := by
  cases h with
  | hit _ hp =>
    rw [Session.cached?_lookUp] at hq
    exact Option.some.inj (hq.symm.trans hp)
  | kept =>
    rw [Session.fst_keep]
    rcases Session.cached?_of_keep hq with hold | ⟨-, rfl, hnone⟩
    · rw [hold, Option.getD_some]
    · rw [hnone, Option.getD_none]

/-- An object in the cache is not replaced by another one. -/
theorem cached?_of_cached (h : c.Moves s t out s') (hp : s.cached? id = some p)
    (hq : s'.cached? id = some q) : q = p := by
  cases h with
  | idle => exact Option.some.inj (hq.symm.trans hp)
  | clear =>
    rw [Session.cached?_clearCache] at hq
    cases hq
  | refused => exact Option.some.inj (hq.symm.trans hp)
  | hit =>
    rw [Session.cached?_lookUp] at hq
    exact Option.some.inj (hq.symm.trans hp)
  | kept =>
    rcases Session.cached?_of_keep hq with hold | ⟨rfl, -, hnone⟩
    · exact Option.some.inj (hold.symm.trans hp)
    · rw [hnone] at hp
      cases hp

/-- A statement that a caller gets becomes the one used last; nothing else counts as a use. -/
theorem follows {n : Nat} {log : List String} (h : c.Moves s t out s') (ht : t ≠ .clear)
    (hs : s.Follows n log) :
    s'.Follows n log ∧ (∀ j x, out ≠ some (j, .ok x)) ∨
      ∃ j x, out = some (j, .ok x) ∧ s'.Follows n (j :: log) := by
  cases h with
  | idle => exact .inl ⟨hs, by simp⟩
  | clear => exact absurd rfl ht
  | refused => exact .inl ⟨hs, by simp⟩
  | hit _ hp => exact .inr ⟨_, _, rfl, hs.lookUp hp⟩
  | kept => exact .inr ⟨_, _, rfl, hs.keep _ _⟩

end Moves

/-! ## Schedules -/

/-- The session after these turns, from new on. -/
def shared (c : Client σ ρ) (state : σ) (ts : List Turn) : Shared σ :=
  ts.foldl (fun h t => (c.turn h t).2) ⟨c.start state, []⟩

/-- What is in the cache for a statement after the first `k` turns. -/
def cachedAfter (c : Client σ ρ) (state : σ) (ts : List Turn) (k : Nat) (id : String) :
    Option Prepared :=
  (c.shared state (ts.take k)).session.cached? id

/-- In turn `k`, a caller is done with preparing the statement and gets `r`. -/
def Returns (c : Client σ ρ) (state : σ) (ts : List Turn) (k : Nat) (id : String)
    (r : Except Failure Prepared) : Prop :=
  ∃ t, ts[k]? = some t ∧ (c.turn (c.shared state (ts.take k)) t).1 = some (id, r)

variable {c : Client σ ρ} {state : σ} {ts : List Turn} {id : String} {p q : Prepared}

/-- One more turn: there is none left, or the session moves. -/
theorem moves_shared (c : Client σ ρ) (state : σ) (ts : List Turn) (k : Nat) :
    (ts[k]? = none ∧ c.shared state (ts.take (k + 1)) = c.shared state (ts.take k)) ∨
      ∃ t, ts[k]? = some t ∧
        c.Moves (c.shared state (ts.take k)).session t (c.turn (c.shared state (ts.take k)) t).1
          (c.shared state (ts.take (k + 1))).session := by
  rw [List.take_add_one]
  cases hk : ts[k]? with
  | none => exact .inl ⟨rfl, by simp⟩
  | some t =>
    refine .inr ⟨t, rfl, ?_⟩
    have hlast : c.shared state (ts.take k ++ [t]) = (c.turn (c.shared state (ts.take k)) t).2 := by
      simp [shared, List.foldl_append]
    rw [Option.toList_some, hlast]
    exact c.moves_turn _ t

theorem Returns.moves {k : Nat} {r : Except Failure Prepared} (h : c.Returns state ts k id r) :
    ∃ t, c.Moves (c.shared state (ts.take k)).session t (some (id, r))
      (c.shared state (ts.take (k + 1))).session := by
  obtain ⟨t, hk, hout⟩ := h
  rcases c.moves_shared state ts k with ⟨hnone, -⟩ | ⟨t', ht', hmoves⟩
  · rw [hnone] at hk
    cases hk
  · rw [hk] at ht'
    cases ht'
    exact ⟨t, hout ▸ hmoves⟩

theorem faithful_shared (c : Client σ ρ) (state : σ) (ts : List Turn) (k : Nat) :
    c.Faithful (c.shared state (ts.take k)).session := by
  induction k with
  | zero =>
    rw [List.take_zero]
    exact c.faithful_start state
  | succ k ih =>
    rcases c.moves_shared state ts k with ⟨-, hsame⟩ | ⟨t, -, hmoves⟩
    · rw [hsame]
      exact ih
    · exact hmoves.faithful ih

/-- As long as the statement stays in the cache after a caller got it, it is the
same object. -/
theorem Returns.cachedAfter_eq {i : Nat} (h : c.Returns state ts i id (.ok p)) {k : Nat}
    (hik : i < k) (hstays : ∀ m, i < m → m ≤ k → (c.cachedAfter state ts m id).isSome) :
    c.cachedAfter state ts k id = some p := by
  induction k with
  | zero => omega
  | succ k ih =>
    obtain ⟨x, hx⟩ := Option.isSome_iff_exists.1 (hstays (k + 1) hik le_rfl)
    rw [hx]
    rcases (by omega : i = k ∨ i < k) with rfl | hlt
    · obtain ⟨t, hmoves⟩ := h.moves
      rw [hmoves.cached?_of_returned hx]
    · have hk := ih hlt fun m him hmk => hstays m him (by omega)
      rcases c.moves_shared state ts k with ⟨-, hsame⟩ | ⟨t, -, hmoves⟩
      · rw [← hx, ← hk, cachedAfter, cachedAfter, hsame]
      · rw [hmoves.cached?_of_cached hk hx]

theorem Returns.eq_of_stays {i j : Nat} (hp : c.Returns state ts i id (.ok p))
    (hq : c.Returns state ts j id (.ok q)) (hij : i ≤ j)
    (hstays : ∀ m, i < m → m ≤ j → (c.cachedAfter state ts m id).isSome) : p = q := by
  rcases Nat.eq_or_lt_of_le hij with rfl | hlt
  · obtain ⟨t, ht, hout⟩ := hp
    obtain ⟨t', ht', hout'⟩ := hq
    rw [ht] at ht'
    cases ht'
    rw [hout] at hout'
    cases hout'
    rfl
  · obtain ⟨t, hmoves⟩ := hq.moves
    exact (hmoves.eq_of_cached (hp.cachedAfter_eq hlt hstays)).symm

/-! ## Without a clearing -/

/-- The cache goes by a log of the statements that callers got in the first `k` turns. -/
structure LoggedAfter (c : Client σ ρ) (state : σ) (ts : List Turn) (k : Nat)
    (log : List String) : Prop where
  follows : (c.shared state (ts.take k)).session.Follows c.settings.cacheCapacity log
  mem_iff : ∀ id, id ∈ log ↔ ∃ i < k, ∃ p, c.Returns state ts i id (.ok p)

theorem exists_loggedAfter (c : Client σ ρ) (state : σ) {ts : List Turn} (hclear : .clear ∉ ts)
    (k : Nat) : ∃ log, c.LoggedAfter state ts k log := by
  induction k with
  | zero =>
    refine ⟨[], ?_, by simp⟩
    rw [List.take_zero]
    exact .start c state
  | succ k ih =>
    obtain ⟨log, hfollows, hmem⟩ := ih
    -- the returns of the first `k + 1` turns are those before and those of turn `k`
    have hsplit : ∀ id, (∃ i < k + 1, ∃ p, c.Returns state ts i id (.ok p)) ↔
        id ∈ log ∨ ∃ p, c.Returns state ts k id (.ok p) := by
      intro id
      rw [hmem]
      constructor
      · rintro ⟨i, hi, hreturns⟩
        rcases (by omega : i < k ∨ i = k) with hlt | rfl
        · exact .inl ⟨i, hlt, hreturns⟩
        · exact .inr hreturns
      · rintro (⟨i, hi, hreturns⟩ | hreturns)
        · exact ⟨i, by omega, hreturns⟩
        · exact ⟨k, by omega, hreturns⟩
    rcases c.moves_shared state ts k with ⟨hnone, hsame⟩ | ⟨t, ht, hmoves⟩
    · refine ⟨log, hsame ▸ hfollows, fun id => ?_⟩
      rw [hsplit]
      simp [Returns, hnone]
    · have hne : t ≠ .clear := fun heq => hclear (heq ▸ List.mem_of_getElem? ht)
      rcases hmoves.follows hne hfollows with ⟨hfollows', hout⟩ | ⟨j, x, hout, hfollows'⟩
      · refine ⟨log, hfollows', fun id => ?_⟩
        rw [hsplit]
        simp [Returns, ht, hout]
      · refine ⟨j :: log, hfollows', fun id => ?_⟩
        rw [hsplit, List.mem_cons]
        simp [Returns, ht, hout, or_comm, eq_comm]

/-- With room for every statement that callers get, none of these is evicted. -/
theorem Returns.stays (hclear : .clear ∉ ts) {ids : Finset String}
    (hroom : ids.card ≤ c.settings.cacheCapacity)
    (hids : ∀ k id p, c.Returns state ts k id (.ok p) → id ∈ ids) {i : Nat}
    (h : c.Returns state ts i id (.ok p)) {m : Nat} (him : i < m) :
    (c.cachedAfter state ts m id).isSome := by
  obtain ⟨log, hfollows, hmem⟩ := c.exists_loggedAfter state hclear m
  refine hfollows.resident_iff.2 ⟨(hmem id).2 ⟨i, him, p, h⟩, ?_⟩
  have hid : id ∈ ids := hids i id p h
  have hsub : (log.takeWhile (· ≠ id)).toFinset ⊆ ids.erase id := by
    intro j hj
    rw [List.mem_toFinset] at hj
    obtain ⟨i', -, p', hreturns⟩ := (hmem j).1 ((List.takeWhile_sublist _).mem hj)
    refine Finset.mem_erase.2 ⟨?_, hids i' j p' hreturns⟩
    simpa using List.all_eq_true.1 List.all_takeWhile j hj
  calc (log.takeWhile (· ≠ id)).toFinset.card
      ≤ (ids.erase id).card := Finset.card_le_card hsub
    _ < ids.card := Finset.card_erase_lt_of_mem hid
    _ ≤ c.settings.cacheCapacity := hroom

/-- Callers that prepare statements in any schedule. What a caller gets is what
the catalog compiles. If the cache is never cleared and has room for all
statements that callers get, those that get a statement get the same object. In
any case those do whose last turns fall into a time during which the statement is
in the cache. -/
theorem prepare_shares_object (c : Client σ ρ) (state : σ) (ts : List Turn) :
    (∀ k id r, c.Returns state ts k id r →
      r.map Prepared.compiled = c.catalog.compile id c.dialect) ∧
    (∀ ids : Finset String, .clear ∉ ts → ids.card ≤ c.settings.cacheCapacity →
      (∀ k id p, c.Returns state ts k id (.ok p) → id ∈ ids) →
      ∀ id i j p q, c.Returns state ts i id (.ok p) → c.Returns state ts j id (.ok q) → p = q) ∧
    (∀ id first last,
      (∀ k, first ≤ k → k ≤ last → (c.cachedAfter state ts (k + 1) id).isSome) →
      ∀ i j p q, first ≤ i → i ≤ last → first ≤ j → j ≤ last →
        c.Returns state ts i id (.ok p) → c.Returns state ts j id (.ok q) → p = q) := by
  refine ⟨?_, ?_, ?_⟩
  · intro k id r h
    obtain ⟨t, hmoves⟩ := h.moves
    exact hmoves.value (c.faithful_shared state ts k)
  · intro ids hclear hroom hids id i j p q hp hq
    rcases Nat.le_total i j with hij | hji
    · exact hp.eq_of_stays hq hij fun m him _ => hp.stays hclear hroom hids him
    · exact (hq.eq_of_stays hp hji fun m hjm _ => hq.stays hclear hroom hids hjm).symm
  · intro id first last hresident i j p q hi hi' hj hj' hp hq
    have hstays : ∀ k m, first ≤ k → k < m → m ≤ last → (c.cachedAfter state ts m id).isSome := by
      intro k m hk hkm hm
      obtain ⟨m, rfl⟩ : ∃ m', m = m' + 1 := ⟨m - 1, by omega⟩
      exact hresident m (by omega) (by omega)
    rcases Nat.le_total i j with hij | hji
    · exact hp.eq_of_stays hq hij fun m him hmj => hstays i m hi him (by omega)
    · exact (hq.eq_of_stays hp hji fun m hjm hmi => hstays j m hj hjm (by omega)).symm

/-- Two callers that both miss a statement, and a third with another one. With
room for both statements the two get the same object, though one of them was put
in between its steps. With room for one they do not, since the second statement
evicts the first; the object put in last is then shared. -/
theorem prepare_shares_object_raced :
    let script : Script := ⟨"postgres", none, 0, none⟩
    let catalog : Catalog := KeyMap.ofList [("a", "x = :x"), ("b", "1")]
    let c (n : Nat) : Client (List Call) (List Value) :=
      ⟨script.store, catalog, Settings.build [.cacheCapacity n]⟩
    let ts : List Turn := [.lookUp 0 "a", .lookUp 1 "a", .lookUp 2 "b", .complete 1, .complete 2,
      .complete 0, .lookUp 1 "a"]
    (∃ p q, (c 2).Returns [] ts 3 "a" (.ok p) ∧ (c 2).Returns [] ts 5 "a" (.ok q) ∧ p = q) ∧
      (∃ p q, (c 1).Returns [] ts 3 "a" (.ok p) ∧ (c 1).Returns [] ts 5 "a" (.ok q) ∧ p ≠ q) ∧
      ∃ p q, (c 1).Returns [] ts 5 "a" (.ok p) ∧ (c 1).Returns [] ts 6 "a" (.ok q) ∧ p = q := by
  intro script catalog c ts
  have hroom : (c 2).Returns [] ts 3 "a" (.ok ⟨0, "x = $1", ["x"]⟩) ∧
      (c 2).Returns [] ts 5 "a" (.ok ⟨0, "x = $1", ["x"]⟩) :=
    ⟨⟨.complete 1, rfl, by decide +kernel⟩, ⟨.complete 0, rfl, by decide +kernel⟩⟩
  have hevicted : (c 1).Returns [] ts 3 "a" (.ok ⟨0, "x = $1", ["x"]⟩) ∧
      (c 1).Returns [] ts 5 "a" (.ok ⟨2, "x = $1", ["x"]⟩) ∧
      (c 1).Returns [] ts 6 "a" (.ok ⟨2, "x = $1", ["x"]⟩) :=
    ⟨⟨.complete 1, rfl, by decide +kernel⟩, ⟨.complete 0, rfl, by decide +kernel⟩,
      ⟨.lookUp 1 "a", rfl, by decide +kernel⟩⟩
  have hshare := prepare_shares_object (c 2) [] ts
  have hids : ∀ k id p, (c 2).Returns [] ts k id (.ok p) → id ∈ ({"a", "b"} : Finset String) := by
    intro k id p h
    have hentries : catalog.entries = [("a", "x = :x"), ("b", "1")] := by decide +kernel
    have hcomp : .ok p.compiled = catalog.compile id (c 2).dialect := hshare.1 k id _ h
    cases hid : catalog.find? id with
    | none =>
      rw [Catalog.compile, hid] at hcomp
      cases hcomp
    | some t =>
      have hmem := KeyMap.mem_entries_iff.2 hid
      rw [hentries] at hmem
      simp only [List.mem_cons, Prod.mk.injEq, List.not_mem_nil, or_false] at hmem
      rcases hmem with ⟨rfl, -⟩ | ⟨rfl, -⟩ <;> decide
  have hresident : ∀ k, 5 ≤ k → k ≤ 6 → ((c 1).cachedAfter [] ts (k + 1) "a").isSome := by
    intro k hk hk'
    rcases (by omega : k = 5 ∨ k = 6) with rfl | rfl <;> decide +kernel
  refine ⟨⟨_, _, hroom.1, hroom.2, ?_⟩, ⟨_, _, hevicted.1, hevicted.2.1, by decide⟩,
    ⟨_, _, hevicted.2.1, hevicted.2.2, ?_⟩⟩
  · exact hshare.2.1 {"a", "b"} (by decide) (by decide) hids "a" 3 5 _ _ hroom.1 hroom.2
  · exact (prepare_shares_object (c 1) [] ts).2.2 "a" 5 6 hresident 5 6 _ _ le_rfl (by decide)
      (by decide) le_rfl hevicted.2.1 hevicted.2.2

end Client

end SqlCatalog
