import SqlCatalog.Client.Basic
import SqlCatalog.Proofs.Cache.Recency
/-!
# The cache of a session

A client without room for statements has no cache, any other has one of its
capacity. `Session.cached?` is what a session holds for a statement, nothing if
it has no cache. Looking up and keeping are told by it alone (`fst_lookUp`,
`fst_keep`, `cached?_of_keep`), so nothing later on asks whether there is a
cache. Nor does the order of eviction: `Session.Follows` says that the session
holds the `n` statements used last, also for `n = 0`.
-/
namespace SqlCatalog.Session

variable {σ : Type}

/-- The object that is cached for a statement. -/
def cached? (s : Session σ) (id : String) : Option Prepared :=
  s.cache.bind fun cache => cache.table.find? id

theorem cached?_start {ρ : Type} (c : Client σ ρ) (state : σ) (id : String) :
    (c.start state).cached? id = none := by
  unfold Client.start cached?
  by_cases hn : 0 < c.settings.cacheCapacity
  · simp only [if_pos hn]
    rfl
  · simp only [if_neg hn]
    rfl

theorem cached?_clearCache (s : Session σ) (id : String) :
    (Client.clearCache s).cached? id = none := by
  obtain ⟨_ | cache, compilations, state⟩ := s <;> rfl

/-! ## Looking up -/

theorem fst_lookUp (s : Session σ) (id : String) : (s.lookUp id).1 = s.cached? id := by
  unfold lookUp cached?
  cases s.cache with
  | none => rfl
  | some cache => exact cache.fst_get id

@[simp] theorem cached?_lookUp (s : Session σ) (id j : String) :
    (s.lookUp id).2.cached? j = s.cached? j := by
  unfold lookUp cached?
  cases hcache : s.cache with
  | none => simp [hcache]
  | some cache => simp [Cache.table_get]

/-- A look-up that finds nothing leaves no trace. -/
theorem lookUp_of_none {s : Session σ} {id : String} (h : s.cached? id = none) :
    s.lookUp id = (none, s) := by
  obtain ⟨_ | cache, compilations, state⟩ := s
  · rfl
  · have hnone : cache.table.find? id = none := h
    simp only [lookUp, Cache.get_of_none hnone]

theorem compilations_lookUp (s : Session σ) (id : String) :
    (s.lookUp id).2.compilations = s.compilations := by
  unfold lookUp
  cases s.cache <;> rfl

theorem state_lookUp (s : Session σ) (id : String) : (s.lookUp id).2.state = s.state := by
  unfold lookUp
  cases s.cache <;> rfl

/-! ## Keeping -/

theorem fst_keep (s : Session σ) (id : String) (p : Prepared) :
    (s.keep id p).1 = (s.cached? id).getD p := by
  unfold keep cached?
  cases s.cache with
  | none => rfl
  | some cache => exact cache.fst_insertIfAbsent id p

/-- What is held afterwards was held before, or is the object put in for a
statement that had none. -/
theorem cached?_of_keep {s : Session σ} {id j : String} {p q : Prepared}
    (h : (s.keep id p).2.cached? j = some q) :
    s.cached? j = some q ∨ (j = id ∧ q = p ∧ s.cached? id = none) := by
  obtain ⟨_ | cache, compilations, state⟩ := s
  · cases h
  · exact Cache.find?_of_insertIfAbsent h

theorem compilations_keep (s : Session σ) (id : String) (p : Prepared) :
    (s.keep id p).2.compilations = s.compilations := by
  unfold keep
  cases s.cache <;> rfl

theorem state_keep (s : Session σ) (id : String) (p : Prepared) :
    (s.keep id p).2.state = s.state := by
  unfold keep
  cases s.cache <;> rfl

/-! ## By recency -/

/-- A session with room for `n` statements holds those of the log that were used last. -/
def Follows (n : Nat) (s : Session σ) (log : List String) : Prop :=
  match s.cache with
  | some cache => cache.capacity = n ∧ cache.Follows log
  | none => n = 0

namespace Follows

variable {n : Nat} {s : Session σ} {log : List String}

theorem start {ρ : Type} (c : Client σ ρ) (state : σ) :
    Follows c.settings.cacheCapacity (c.start state) [] := by
  unfold Client.start Follows
  by_cases hn : 0 < c.settings.cacheCapacity
  · simp only [if_pos hn]
    exact ⟨rfl, .new _⟩
  · simp only [if_neg hn]
    omega

theorem resident_iff (h : s.Follows n log) {id : String} :
    (s.cached? id).isSome ↔ id ∈ log ∧ (log.takeWhile (· ≠ id)).toFinset.card < n := by
  obtain ⟨_ | cache, compilations, state⟩ := s
  · have hn : n = 0 := h
    simp [cached?, hn]
  · obtain ⟨hcap, hfollows⟩ := h
    rw [← hcap]
    exact hfollows.resident_iff

theorem lookUp (h : s.Follows n log) {id : String} {p : Prepared} (hp : s.cached? id = some p) :
    (s.lookUp id).2.Follows n (id :: log) := by
  obtain ⟨_ | cache, compilations, state⟩ := s
  · cases hp
  · obtain ⟨hcap, hfollows⟩ := h
    have hfind : cache.table.find? id = some p := hp
    have hget := hfollows.get id
    rw [hfind] at hget
    exact ⟨(cache.capacity_get id).trans hcap, hget⟩

theorem keep (h : s.Follows n log) (id : String) (p : Prepared) :
    (s.keep id p).2.Follows n (id :: log) := by
  obtain ⟨_ | cache, compilations, state⟩ := s
  · exact h
  · obtain ⟨hcap, hfollows⟩ := h
    exact ⟨(cache.capacity_insertIfAbsent id p).trans hcap, hfollows.insertIfAbsent id p⟩

theorem clearCache (h : s.Follows n log) : (Client.clearCache s).Follows n [] := by
  obtain ⟨_ | cache, compilations, state⟩ := s
  · exact h
  · exact ⟨h.1, .clear cache⟩

end Follows

end SqlCatalog.Session
