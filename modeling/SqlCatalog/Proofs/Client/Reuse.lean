import Mathlib.Data.Finset.Card
import SqlCatalog.Client.Request
import SqlCatalog.Proofs.Client.Preparation
/-!
# When a compiled statement is reused

Every request that runs, binds or prepares a statement prepares it once, also if
it fails later (`session_answer_of_statement`). `marks` writes down what became
of that, request by request: the object that was used, a clearing, or nothing.

`Told` ties a session to the marks before it: the cache goes by recency of the
prepared ids, what it holds for an id is the last object prepared for it, and
the objects so far have smaller serial numbers than the next one. So a statement
is reused exactly if its last preparation can be recalled (`Recalls`): nothing
was cleared since, and fewer other ids were prepared since than the cache holds
(`reuse_iff_recalls`).
-/
namespace SqlCatalog

variable {σ ρ : Type}

/-! ## What a request prepares -/

/-- The statement that a request prepares. -/
def Request.statement? : Request → Option String
  | .prepare id | .bindCall id _ | .query id _ _ | .execute id _ | .fetchAll id _
  | .fetchFirst id _ => some id
  | .next _ | .collect _ | .close _ | .validate | .clearCache => none

/-- What a request came to for the compiled statements. -/
inductive Mark
  | prepared (id : String) (p : Prepared)
  | cleared
  | nothing

/-- The id of a successful preparation. -/
def Mark.id? : Mark → Option String
  | .prepared id _ => some id
  | _ => none

namespace Client

/-- What preparing a statement comes to. -/
def markOf (c : Client σ ρ) (id : String) (s : Session σ) : Mark :=
  match (c.prepare id s).1 with
  | .ok p => .prepared id p
  | .error _ => .nothing

/-- What a request comes to. -/
def mark (c : Client σ ρ) (d : Desk σ ρ) : Request → Mark
  | .prepare id | .bindCall id _ | .query id _ _ | .execute id _ | .fetchAll id _
  | .fetchFirst id _ => c.markOf id d.session
  | .clearCache => .cleared
  | .next _ | .collect _ | .close _ | .validate => .nothing

/-- What the requests of a run come to, in order. -/
def marks (c : Client σ ρ) (d : Desk σ ρ) : List (Nat × Request) → List Mark
  | [] => []
  | (elapsed, r) :: rest => c.mark d r :: c.marks (c.answer elapsed d r).2.2 rest

theorem mark_of_statement {c : Client σ ρ} {d : Desk σ ρ} {r : Request} {id : String}
    (h : r.statement? = some id) : c.mark d r = c.markOf id d.session := by
  cases r <;> cases h <;> rfl

/-- Whatever else a request does, it leaves the cache as preparing its statement does. -/
theorem session_answer_of_statement (c : Client σ ρ) (elapsed : Nat) (d : Desk σ ρ)
    {r : Request} {id : String} (h : r.statement? = some id) :
    (c.answer elapsed d r).2.2.session =
      { (c.prepare id d.session).2 with state := (c.answer elapsed d r).2.2.session.state } := by
  cases r <;> cases h
  case prepare => rfl
  case bindCall args =>
    show (c.bindCall id args d.session).2 = { (c.prepare id d.session).2 with
      state := (c.bindCall id args d.session).2.state }
    rw [session_bindCall]
  case query args slot =>
    have hrun := c.session_run .query c.store.query elapsed id args d.session
    have hsession : (c.answer elapsed d (.query id args slot)).2.2.session =
        (c.query elapsed id args d.session).2.2 := by
      simp only [answer]
      rcases c.query elapsed id args d.session with ⟨e | cursor, events, s⟩ <;> rfl
    rw [hsession]
    exact hrun
  case execute args => exact c.session_run .execute c.store.execute elapsed id args d.session
  case fetchAll args => exact c.session_run .query c.store.query elapsed id args d.session
  case fetchFirst args => exact c.session_run .query c.store.query elapsed id args d.session

/-- Preparing a statement answers the object that was used. -/
theorem mark_prepare_iff {c : Client σ ρ} {d : Desk σ ρ} {elapsed : Nat} {id : String}
    {p : Prepared} :
    (c.answer elapsed d (.prepare id)).1 = .prepared p ↔
      c.mark d (.prepare id) = .prepared id p := by
  simp only [answer, mark, markOf]
  rcases (c.prepare id d.session).1 with e | q <;> simp [Reply.ofResult]

/-- So does binding it, if the arguments go through. -/
theorem mark_bindCall {c : Client σ ρ} {d : Desk σ ρ} {elapsed : Nat} {id : String}
    {args : List Value} {p : Prepared} {params : List Value}
    (h : (c.answer elapsed d (.bindCall id args)).1 = .bound p params) :
    c.mark d (.bindCall id args) = .prepared id p := by
  simp only [answer, bindCall] at h
  simp only [mark, markOf]
  rcases hp : c.prepare id d.session with ⟨e | q, s⟩
  · rw [hp] at h; cases h
  · rw [hp] at h
    rcases hb : Arguments.bind args with e | b
    · rw [hb] at h; cases h
    · rw [hb] at h; cases h; rfl

/-! ## Marks, the latest first -/

/-- The ids prepared since the last clearing. -/
def preparedIds : List Mark → List String
  | [] => []
  | .prepared id _ :: m => id :: preparedIds m
  | .cleared :: _ => []
  | .nothing :: m => preparedIds m

/-- The object that the last preparation of an id used. -/
def lastObject? (id : String) : List Mark → Option Prepared
  | [] => none
  | .prepared j p :: m => if j = id then some p else lastObject? id m
  | _ :: m => lastObject? id m

theorem mem_of_lastObject? {id : String} {p : Prepared} {m : List Mark}
    (h : lastObject? id m = some p) : .prepared id p ∈ m := by
  induction m with
  | nil => cases h
  | cons x m ih =>
    cases x with
    | prepared j q =>
      rw [lastObject?] at h
      split at h
      · rename_i hj
        cases h
        exact hj ▸ List.mem_cons_self
      · exact List.mem_cons_of_mem _ (ih h)
    | cleared => exact List.mem_cons_of_mem _ (ih h)
    | nothing => exact List.mem_cons_of_mem _ (ih h)

/-- A session that the marks before it tell all about. -/
structure Told (c : Client σ ρ) (m : List Mark) (s : Session σ) : Prop where
  follows : s.Follows c.settings.cacheCapacity (preparedIds m)
  faithful : c.Faithful s
  latest : ∀ id p, s.cached? id = some p → lastObject? id m = some p
  older : ∀ id p, .prepared id p ∈ m → p.serial < s.compilations

namespace Told

variable {c : Client σ ρ} {m : List Mark} {s : Session σ}

theorem start (c : Client σ ρ) (state : σ) : c.Told [] (c.start state) := by
  refine ⟨.start c state, faithful_start c state, fun id p hp => ?_, fun _ _ h => nomatch h⟩
  rw [Session.cached?_start] at hp
  cases hp

theorem withState (h : c.Told m s) (state : σ) : c.Told m { s with state } :=
  ⟨h.follows, h.faithful, h.latest, h.older⟩

theorem nothing (h : c.Told m s) : c.Told (.nothing :: m) s :=
  ⟨h.follows, h.faithful, h.latest, fun id p hp =>
    h.older id p ((List.mem_cons.1 hp).resolve_left (by simp))⟩

theorem clear (h : c.Told m s) : c.Told (.cleared :: m) (clearCache s) := by
  refine ⟨h.follows.clearCache, faithful_clearCache c s, fun id p hp => ?_, fun id p hp =>
    h.older id p ((List.mem_cons.1 hp).resolve_left (by simp))⟩
  rw [Session.cached?_clearCache] at hp
  cases hp

/-- A cached object has been used before. -/
theorem serial_lt (h : c.Told m s) {id : String} {p : Prepared}
    (hp : s.cached? id = some p) : p.serial < s.compilations :=
  h.older id p (mem_of_lastObject? (h.latest id p hp))

/-- One preparation. -/
theorem prepare (h : c.Told m s) (id : String) :
    c.Told (c.markOf id s :: m) (c.prepare id s).2 := by
  have hfaithful := h.faithful.prepare id
  unfold markOf
  rcases c.prepare_cases id s with ⟨p, hcached, hp⟩ | ⟨e, -, -, hp⟩ | ⟨q, hcached, -, hp⟩
  · -- a hit: the object was the last one of its id, and is so again
    rw [hp] at hfaithful ⊢
    refine ⟨h.follows.lookUp hcached, hfaithful, fun j y hj => ?_, fun j y hj => ?_⟩
    · rw [Session.cached?_lookUp] at hj
      show (if id = j then some p else lastObject? j m) = some y
      by_cases hid : id = j
      · rw [if_pos hid, ← hj, ← hid, hcached]
      · rw [if_neg hid]
        exact h.latest j y hj
    · rw [Session.compilations_lookUp]
      rcases List.mem_cons.1 hj with hj | hj
      · cases hj
        exact h.serial_lt hcached
      · exact h.older j y hj
  · rw [hp]
    exact h.nothing
  · -- a new object: for an id that had none, with the next serial number
    rw [hp] at hfaithful ⊢
    refine ⟨h.follows.keep id _, hfaithful, fun j y hj => ?_, fun j y hj => ?_⟩
    · show (if id = j then some _ else lastObject? j m) = some y
      rcases Session.cached?_of_keep hj with hold | ⟨rfl, rfl, -⟩
      · have hid : id ≠ j := by
          rintro rfl
          rw [hcached] at hold
          cases hold
        rw [if_neg hid]
        exact h.latest j y hold
      · rw [if_pos rfl]
    · rcases List.mem_cons.1 hj with hj | hj
      · cases hj
        exact Nat.lt_succ_self _
      · exact Nat.lt_succ_of_lt (h.older j y hj)

end Told

/-- One request. -/
theorem told_answer {c : Client σ ρ} {m : List Mark} {d : Desk σ ρ} (h : c.Told m d.session)
    (elapsed : Nat) (r : Request) :
    c.Told (c.mark d r :: m) (c.answer elapsed d r).2.2.session := by
  cases hst : r.statement? with
  | some id =>
    rw [mark_of_statement hst, c.session_answer_of_statement elapsed d hst]
    exact (h.prepare id).withState _
  | none =>
    cases r with
    | clearCache => exact h.clear
    | validate => exact h.nothing
    | next slot | collect slot | close slot =>
      simp only [answer]
      rcases d.cursor? slot with _ | cursor <;> exact h.nothing
    | prepare | bindCall | query | execute | fetchAll | fetchFirst => cases hst

/-- Any requests. -/
theorem told_answerAll {c : Client σ ρ} {m : List Mark} {d : Desk σ ρ} (h : c.Told m d.session)
    (rs : List (Nat × Request)) :
    c.Told ((c.marks d rs).reverse ++ m) (c.answerAll d rs).2.session := by
  induction rs generalizing d m with
  | nil => exact h
  | cons x rest ih =>
    obtain ⟨elapsed, r⟩ := x
    have := ih (told_answer h elapsed r)
    simpa only [marks, answerAll, List.reverse_cons, List.append_assoc, List.singleton_append]
      using this

/-! ## Recalling a preparation -/

/-- Among these marks, in order, the last preparation of `id` used `p`; nothing
was cleared since, and at most `n - 1` other ids were prepared since. -/
def Recalls (n : Nat) (id : String) (p : Prepared) (earlier : List Mark) : Prop :=
  ∃ before since, earlier = before ++ .prepared id p :: since ∧
    (∀ p', .prepared id p' ∉ since) ∧ .cleared ∉ since ∧
    1 ≤ n ∧ (since.filterMap Mark.id?).toFinset.card ≤ n - 1

/-- The ids prepared since a preparation, if nothing was cleared since. -/
theorem preparedIds_append {id : String} {p : Prepared} {since before : List Mark}
    (hclear : .cleared ∉ since) :
    preparedIds (since ++ .prepared id p :: before) =
      since.filterMap Mark.id? ++ id :: preparedIds before := by
  induction since with
  | nil => rfl
  | cons x since ih =>
    have ih := ih fun h => hclear (List.mem_cons_of_mem _ h)
    cases x with
    | prepared j q => exact congrArg (j :: ·) ih
    | cleared => exact absurd List.mem_cons_self hclear
    | nothing => exact ih

theorem lastObject?_append {id : String} {p : Prepared} {since before : List Mark}
    (hid : ∀ p', .prepared id p' ∉ since) :
    lastObject? id (since ++ .prepared id p :: before) = some p := by
  induction since with
  | nil => simp [lastObject?]
  | cons x since ih =>
    have ih := ih fun p' h => hid p' (List.mem_cons_of_mem _ h)
    cases x with
    | prepared j q =>
      have hj : j ≠ id := fun e => hid q (e ▸ List.mem_cons_self)
      rw [List.cons_append, lastObject?, if_neg hj, ih]
    | cleared => exact ih
    | nothing => exact ih

theorem id_not_mem_ids {id : String} {since : List Mark} (hid : ∀ p', .prepared id p' ∉ since) :
    id ∉ since.filterMap Mark.id? := by
  intro h
  obtain ⟨x, hx, hxid⟩ := List.mem_filterMap.1 h
  cases x with
  | prepared j q => cases hxid; exact hid q hx
  | cleared => cases hxid
  | nothing => cases hxid

/-- An id prepared since the last clearing has a last preparation, with no clearing since. -/
theorem exists_last_of_mem {id : String} {m : List Mark} (h : id ∈ preparedIds m) :
    ∃ since p before, m = since ++ .prepared id p :: before ∧
      (∀ p', .prepared id p' ∉ since) ∧ .cleared ∉ since := by
  induction m with
  | nil => cases h
  | cons x m ih =>
    cases x with
    | cleared => cases h
    | nothing =>
      obtain ⟨since, p, before, rfl, hid, hclear⟩ := ih h
      exact ⟨.nothing :: since, p, before, rfl, by simpa using hid, by simpa using hclear⟩
    | prepared j q =>
      by_cases hj : id = j
      · subst hj
        exact ⟨[], q, m, rfl, by simp, by simp⟩
      · obtain ⟨since, p, before, rfl, hid, hclear⟩ := ih ((List.mem_cons.1 h).resolve_left hj)
        refine ⟨.prepared j q :: since, p, before, rfl, ?_, by simpa using hclear⟩
        simpa [hj] using hid

/-- How many other ids were prepared since the last preparation of `id`. -/
theorem takeWhile_preparedIds {id : String} {p : Prepared} {since before : List Mark}
    (hid : ∀ p', .prepared id p' ∉ since) (hclear : .cleared ∉ since) :
    (preparedIds (since ++ .prepared id p :: before)).takeWhile (· ≠ id) =
      since.filterMap Mark.id? := by
  rw [preparedIds_append hclear, List.takeWhile_append_of_pos]
  · simp
  · intro j hj
    have : j ≠ id := fun e => id_not_mem_ids hid (e ▸ hj)
    simpa using this

/-- Recalling, told from the marks with the latest first. -/
theorem recalls_reverse_iff {n : Nat} {id : String} {p : Prepared} {m : List Mark} :
    Recalls n id p m.reverse ↔
      lastObject? id m = some p ∧ id ∈ preparedIds m ∧
        ((preparedIds m).takeWhile (· ≠ id)).toFinset.card < n := by
  constructor
  · rintro ⟨before, since, hm, hid, hclear, hn, hcard⟩
    obtain rfl : m = since.reverse ++ .prepared id p :: before.reverse := by
      rw [← List.reverse_reverse m, hm]
      simp
    have hid' : ∀ p', .prepared id p' ∉ since.reverse := by simpa using hid
    have hclear' : .cleared ∉ since.reverse := by simpa using hclear
    refine ⟨lastObject?_append hid', ?_, ?_⟩
    · rw [preparedIds_append hclear']
      exact List.mem_append_right _ List.mem_cons_self
    · rw [takeWhile_preparedIds hid' hclear', List.filterMap_reverse, List.toFinset_reverse]
      omega
  · rintro ⟨hlast, hmem, hcard⟩
    obtain ⟨since, p', before, rfl, hid, hclear⟩ := exists_last_of_mem hmem
    obtain rfl : p' = p := by
      rw [lastObject?_append hid] at hlast
      exact Option.some.inj hlast
    rw [takeWhile_preparedIds hid hclear] at hcard
    refine ⟨before.reverse, since.reverse, by simp, by simpa using hid, by simpa using hclear, ?_,
      ?_⟩
    · omega
    · rw [List.filterMap_reverse, List.toFinset_reverse]
      omega

/-- What can be recalled is what the cache holds. -/
theorem Told.recalls_iff {c : Client σ ρ} {m : List Mark} {s : Session σ} (h : c.Told m s)
    {id : String} {p : Prepared} :
    Recalls c.settings.cacheCapacity id p m.reverse ↔ s.cached? id = some p := by
  rw [recalls_reverse_iff, ← h.follows.resident_iff]
  constructor
  · rintro ⟨hlast, hin⟩
    obtain ⟨p', hp'⟩ := Option.isSome_iff_exists.1 hin
    rw [hp', ← h.latest id p' hp', hlast]
  · intro hp
    exact ⟨h.latest id p hp, by rw [hp]; rfl⟩

/-- A preparation uses the last object of its id again if it can be recalled,
and else one that was never used. -/
theorem Told.reuse {c : Client σ ρ} {m : List Mark} {s : Session σ} (h : c.Told m s)
    {id : String} {q : Prepared} (hq : (c.prepare id s).1 = .ok q) :
    Recalls c.settings.cacheCapacity id q m.reverse ∨
      (¬∃ p, Recalls c.settings.cacheCapacity id p m.reverse) ∧
        ∀ j p, .prepared j p ∈ m → p.serial ≠ q.serial := by
  rcases c.prepare_cases id s with ⟨p, hcached, hp⟩ | ⟨e, -, -, hp⟩ | ⟨q', hcached, -, hp⟩
  · rw [hp] at hq
    cases hq
    exact .inl (h.recalls_iff.2 hcached)
  · rw [hp] at hq
    cases hq
  · rw [hp] at hq
    cases hq
    refine .inr ⟨?_, fun j p hj => Nat.ne_of_lt (h.older j p hj)⟩
    rintro ⟨p, hrec⟩
    rw [h.recalls_iff, hcached] at hrec
    cases hrec

/-- Only one object can be recalled for an id. -/
theorem Recalls.unique {n : Nat} {id : String} {p p' : Prepared} {earlier : List Mark}
    (h : Recalls n id p earlier) (h' : Recalls n id p' earlier) : p = p' := by
  rw [← List.reverse_reverse earlier, recalls_reverse_iff] at h h'
  exact Option.some.inj (h.1.symm.trans h'.1)

/-! ## Along a run -/

/-- A mark of a run is that of one of its requests, met on the desk that the
requests before it leave. -/
theorem exists_request_of_marks {c : Client σ ρ} {d : Desk σ ρ} {rs : List (Nat × Request)}
    {earlier later : List Mark} {x : Mark} (h : c.marks d rs = earlier ++ x :: later) :
    ∃ xs r, c.marks d xs = earlier ∧ c.mark (c.answerAll d xs).2 r = x := by
  induction rs generalizing d earlier with
  | nil => simp [marks] at h
  | cons y rest ih =>
    obtain ⟨elapsed, r⟩ := y
    cases earlier with
    | nil => exact ⟨[], r, rfl, (List.cons.inj h).1⟩
    | cons z earlier =>
      obtain ⟨hz, hrest⟩ := List.cons.inj h
      obtain ⟨xs, r', hxs, hr'⟩ := ih hrest
      exact ⟨(elapsed, r) :: xs, r', by rw [marks, hz, hxs], hr'⟩

theorem ok_of_mark {c : Client σ ρ} {d : Desk σ ρ} {r : Request} {id : String} {q : Prepared}
    (h : c.mark d r = .prepared id q) : (c.prepare id d.session).1 = .ok q := by
  cases hst : r.statement? with
  | some j =>
    rw [mark_of_statement hst, markOf] at h
    rcases hp : (c.prepare j d.session).1 with e | p
    · rw [hp] at h; cases h
    · rw [hp] at h; cases h; exact hp
  | none =>
    cases r with
    | prepare | bindCall | query | execute | fetchAll | fetchFirst => cases hst
    | next | collect | close | validate | clearCache => cases h

/-- A statement that compiles is prepared, whatever comes of the request. -/
theorem mark_of_ok {c : Client σ ρ} {d : Desk σ ρ} (h : c.Faithful d.session) {r : Request}
    {id : String} {q : Compiled} (hst : r.statement? = some id)
    (hq : c.catalog.compile id c.dialect = .ok q) :
    ∃ p, c.mark d r = .prepared id p ∧ p.compiled = q := by
  have hval := prepare_value h id
  rw [hq] at hval
  rw [mark_of_statement hst, markOf]
  rcases hp : (c.prepare id d.session).1 with e | p
  · rw [hp] at hval; cases hval
  · rw [hp] at hval
    exact ⟨p, rfl, Except.ok.inj hval⟩

theorem mark_of_error {c : Client σ ρ} {d : Desk σ ρ} (h : c.Faithful d.session) {r : Request}
    {id : String} {e : Failure} (hst : r.statement? = some id)
    (he : c.catalog.compile id c.dialect = .error e) : c.mark d r = .nothing := by
  have hval := prepare_value h id
  rw [he] at hval
  rw [mark_of_statement hst, markOf]
  rcases hp : (c.prepare id d.session).1 with e' | p
  · rfl
  · rw [hp] at hval; cases hval

/-- A statement that does not compile leaves the desk as it is. -/
theorem answer_of_error {c : Client σ ρ} {d : Desk σ ρ} (h : c.Faithful d.session)
    {r : Request} {id : String} {e : Failure} (hst : r.statement? = some id)
    (he : c.catalog.compile id c.dialect = .error e) (elapsed : Nat) :
    (c.answer elapsed d r).2.2 = d := by
  have hp : c.prepare id d.session = (.error e, d.session) := by
    rcases c.prepare_cases id d.session with ⟨p, hcached, -⟩ | ⟨e', -, he', hp⟩ | ⟨q, -, hq, -⟩
    · rw [h id p hcached] at he; cases he
    · rw [he] at he'; cases he'; exact hp
    · rw [hq] at he; cases he
  cases r <;> cases hst <;>
    simp only [answer, fetchAll, fetchFirst, query, execute, run, bindCall, hp]

/-- When a statement is prepared again, along any run from new on. A successful
preparation uses an object of the same id again exactly if that one can be
recalled; if none can, it uses one that no preparation used before. This object
is what preparing and binding answer. It succeeds exactly if the statement is in
the catalog and compiles, also where the request fails later; if it does not, the
desk and so all that follows are as without it. -/
theorem reuse_iff_recalls (c : Client σ ρ) (state : σ) (rs : List (Nat × Request)) :
    let n := c.settings.cacheCapacity
    let d := (c.answerAll (c.openDesk state) rs).2
    (∀ earlier id q later, c.marks (c.openDesk state) rs = earlier ++ .prepared id q :: later →
        (∀ p, .prepared id p ∈ earlier → (q = p ↔ Recalls n id p earlier)) ∧
          ((¬∃ p, Recalls n id p earlier) →
            ∀ j p, .prepared j p ∈ earlier → p.serial ≠ q.serial)) ∧
      (∀ elapsed id args p params,
        ((c.answer elapsed d (.prepare id)).1 = .prepared p ↔
          c.mark d (.prepare id) = .prepared id p) ∧
        ((c.answer elapsed d (.bindCall id args)).1 = .bound p params →
          c.mark d (.bindCall id args) = .prepared id p)) ∧
      (∀ r id q, r.statement? = some id → c.catalog.compile id c.dialect = .ok q →
        ∃ p, c.mark d r = .prepared id p ∧ p.compiled = q) ∧
      ∀ elapsed r id e later, r.statement? = some id → c.catalog.compile id c.dialect = .error e →
        c.mark d r = .nothing ∧ (c.answer elapsed d r).2.2 = d ∧
          c.marks d ((elapsed, r) :: later) = .nothing :: c.marks d later := by
  intro n d
  have hopen : c.Told [] (c.openDesk state).session := .start c state
  have hd : c.Faithful d.session := (told_answerAll hopen rs).faithful
  refine ⟨fun earlier id q later h => ?_,
    fun elapsed id args p params => ⟨mark_prepare_iff, mark_bindCall⟩,
    fun r id q hst hq => mark_of_ok hd hst hq, fun elapsed r id e later hst he => ?_⟩
  · obtain ⟨xs, r, rfl, hr⟩ := exists_request_of_marks h
    have htold := told_answerAll hopen xs
    rw [List.append_nil] at htold
    have hreuse := htold.reuse (ok_of_mark hr)
    rw [List.reverse_reverse] at hreuse
    simp only [List.mem_reverse] at hreuse
    rcases hreuse with hrec | ⟨hnone, hfresh⟩
    · refine ⟨fun p _ => ⟨?_, hrec.unique⟩, fun hnone => absurd ⟨q, hrec⟩ hnone⟩
      rintro rfl
      exact hrec
    · refine ⟨fun p hp => ⟨?_, fun h => absurd ⟨p, h⟩ hnone⟩, fun _ => hfresh⟩
      rintro rfl
      exact absurd rfl (hfresh id q hp)
  · have hmark : c.mark d r = .nothing := mark_of_error hd hst he
    have hdesk : (c.answer elapsed d r).2.2 = d := answer_of_error hd hst he elapsed
    exact ⟨hmark, hdesk, by rw [marks, hmark, hdesk]⟩

end Client

end SqlCatalog
