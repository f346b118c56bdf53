import SqlCatalog.Proofs.Client.Recording
/-!
# Settings that cannot be seen

Two clients over one store and one catalog that write one dialect may differ in
all other settings: how many statements they keep, what they log and how much of
it. Their desks stay `Alike` through any requests, and replies differ at most in
which object a compiled statement is (`alike_answerAll`). So a run gives the
same replies and makes the same calls under both (`run_same_under_settings`).
-/
namespace SqlCatalog

variable {σ ρ : Type}

/-- A reply without which object a compiled statement is. -/
def Reply.byValue : Reply ρ → Reply ρ
  | .prepared p => .prepared { p with serial := 0 }
  | .bound p params => .bound { p with serial := 0 } params
  | r => r

theorem Reply.byValue_prepared (r : Except Failure Prepared) :
    (Reply.ofResult .prepared r : Reply ρ).byValue =
      Reply.ofResult (fun q => .prepared ⟨0, q⟩) (r.map Prepared.compiled) := by
  cases r <;> rfl

theorem Reply.byValue_bound (r : Except Failure (Prepared × List Value)) :
    (Reply.ofResult (fun b => .bound b.1 b.2) r : Reply ρ).byValue =
      Reply.ofResult (fun b => .bound ⟨0, b.1⟩ b.2) (r.map fun b => (b.1.compiled, b.2)) := by
  cases r <;> rfl

namespace Client

/-- Two clients that differ at most in settings other than the dialect. -/
structure Same (c₁ c₂ : Client σ ρ) : Prop where
  store : c₁.store = c₂.store
  catalog : c₁.catalog = c₂.catalog
  dialect : c₁.dialect = c₂.dialect

/-- Sessions of two clients that cannot be told apart but by their caches. -/
structure Alike (c₁ c₂ : Client σ ρ) (s₁ s₂ : Session σ) : Prop where
  left : c₁.Faithful s₁
  right : c₂.Faithful s₂
  state : s₁.state = s₂.state

namespace Alike

variable {c₁ c₂ : Client σ ρ} {s₁ s₂ : Session σ}

theorem start (c₁ c₂ : Client σ ρ) (state : σ) : Alike c₁ c₂ (c₁.start state) (c₂.start state) :=
  ⟨faithful_start c₁ state, faithful_start c₂ state, rfl⟩

theorem prepare (h : Alike c₁ c₂ s₁ s₂) (id : String) :
    Alike c₁ c₂ (c₁.prepare id s₁).2 (c₂.prepare id s₂).2 :=
  ⟨h.left.prepare id, h.right.prepare id, by rw [state_prepare, state_prepare, h.state]⟩

theorem clearCache (h : Alike c₁ c₂ s₁ s₂) :
    Alike c₁ c₂ (Client.clearCache s₁) (Client.clearCache s₂) :=
  ⟨faithful_clearCache c₁ s₁, faithful_clearCache c₂ s₂, h.state⟩

end Alike

namespace Same

variable {c₁ c₂ : Client σ ρ} {s₁ s₂ : Session σ}

theorem recording (h : Same c₁ c₂) : Same c₁.recording c₂.recording :=
  ⟨congrArg Store.recording h.store, h.catalog, h.dialect⟩

theorem compile (h : Same c₁ c₂) (id : String) :
    c₁.catalog.compile id c₁.dialect = c₂.catalog.compile id c₂.dialect := by
  rw [h.catalog, h.dialect]

theorem bound (h : Same c₁ c₂) (id : String) (args : List Value) :
    c₁.bound id args = c₂.bound id args := by
  rw [Client.bound, Client.bound, h.compile]

theorem prepare_eq (h : Same c₁ c₂) (hs : Alike c₁ c₂ s₁ s₂) (id : String) :
    (c₁.prepare id s₁).1.map Prepared.compiled = (c₂.prepare id s₂).1.map Prepared.compiled := by
  rw [prepare_value hs.left, prepare_value hs.right, h.compile]

theorem bindCall_eq (h : Same c₁ c₂) (hs : Alike c₁ c₂ s₁ s₂) (id : String) (args : List Value) :
    (c₁.bindCall id args s₁).1.map (fun r => (r.1.compiled, r.2)) =
      (c₂.bindCall id args s₂).1.map (fun r => (r.1.compiled, r.2)) := by
  rw [bindCall_value hs.left, bindCall_value hs.right, h.bound]

/-- One call of the store, with the same result under both. -/
theorem run_eq {α : Type} (h : Same c₁ c₂) (hs : Alike c₁ c₂ s₁ s₂) (kind : CallKind)
    (call : String → List Value → σ → Except Failure α × σ) (e₁ e₂ : Nat) (id : String)
    (args : List Value) :
    (c₁.run kind call e₁ id args s₁).1 = (c₂.run kind call e₂ id args s₂).1 ∧
      Alike c₁ c₂ (c₁.run kind call e₁ id args s₁).2.2 (c₂.run kind call e₂ id args s₂).2.2 := by
  have hval := run_value hs.left kind call e₁ id args
  rw [h.bound, hs.state, ← run_value hs.right kind call e₂ id args] at hval
  obtain ⟨hres, hstate⟩ := Prod.mk.inj hval
  refine ⟨hres, ?_, ?_, hstate⟩
  · rw [session_run]
    exact (hs.left.prepare id).withState _
  · rw [session_run]
    exact (hs.right.prepare id).withState _

theorem query_eq (h : Same c₁ c₂) (hs : Alike c₁ c₂ s₁ s₂) (e₁ e₂ : Nat) (id : String)
    (args : List Value) :
    (c₁.query e₁ id args s₁).1 = (c₂.query e₂ id args s₂).1 ∧
      Alike c₁ c₂ (c₁.query e₁ id args s₁).2.2 (c₂.query e₂ id args s₂).2.2 := by
  unfold query
  rw [h.store]
  exact h.run_eq hs .query _ e₁ e₂ id args

theorem execute_eq (h : Same c₁ c₂) (hs : Alike c₁ c₂ s₁ s₂) (e₁ e₂ : Nat) (id : String)
    (args : List Value) :
    (c₁.execute e₁ id args s₁).1 = (c₂.execute e₂ id args s₂).1 ∧
      Alike c₁ c₂ (c₁.execute e₁ id args s₁).2.2 (c₂.execute e₂ id args s₂).2.2 := by
  unfold execute
  rw [h.store]
  exact h.run_eq hs .execute _ e₁ e₂ id args

theorem validate_eq (h : Same c₁ c₂) : c₁.validate.1 = c₂.validate.1 := by
  unfold validate
  rw [h.catalog, h.dialect]
  rcases c₂.catalog.validate c₂.dialect with ⟨id, e⟩ | _ <;> rfl

end Same

/-- Desks with the same open cursors over sessions that are alike. -/
structure AlikeDesks (c₁ c₂ : Client σ ρ) (d₁ d₂ : Desk σ ρ) : Prop where
  session : Alike c₁ c₂ d₁.session d₂.session
  cursors : d₁.cursors = d₂.cursors

theorem alike_openDesk (c₁ c₂ : Client σ ρ) (state : σ) :
    AlikeDesks c₁ c₂ (c₁.openDesk state) (c₂.openDesk state) :=
  ⟨.start c₁ c₂ state, rfl⟩

/-- One request. -/
theorem alike_answer {c₁ c₂ : Client σ ρ} (h : Same c₁ c₂) {d₁ d₂ : Desk σ ρ}
    (hd : AlikeDesks c₁ c₂ d₁ d₂) (e₁ e₂ : Nat) (r : Request) :
    (c₁.answer e₁ d₁ r).1.byValue = (c₂.answer e₂ d₂ r).1.byValue ∧
      AlikeDesks c₁ c₂ (c₁.answer e₁ d₁ r).2.2 (c₂.answer e₂ d₂ r).2.2 := by
  obtain ⟨hs, hcur⟩ := hd
  cases r with
  | prepare id =>
    refine ⟨?_, hs.prepare id, hcur⟩
    simp only [answer, Reply.byValue_prepared, h.prepare_eq hs]
  | bindCall id args =>
    refine ⟨?_, ?_, hcur⟩
    · simp only [answer, Reply.byValue_bound, h.bindCall_eq hs]
    · simp only [answer, session_bindCall]
      exact hs.prepare id
  | query id args slot =>
    obtain ⟨hres, hs'⟩ := h.query_eq hs e₁ e₂ id args
    simp only [answer, hres]
    rcases (c₂.query e₂ id args d₂.session).1 with e | cursor
    · exact ⟨rfl, hs', hcur⟩
    · refine ⟨rfl, hs', ?_⟩
      simp only [Desk.place, Desk.release, hcur]
  | execute id args =>
    obtain ⟨hres, hs'⟩ := h.execute_eq hs e₁ e₂ id args
    refine ⟨?_, hs', hcur⟩
    simp only [answer, hres]
  | fetchAll id args =>
    obtain ⟨hres, hs'⟩ := h.query_eq hs e₁ e₂ id args
    refine ⟨?_, hs', hcur⟩
    simp only [answer, fetchAll, hres]
  | fetchFirst id args =>
    obtain ⟨hres, hs'⟩ := h.query_eq hs e₁ e₂ id args
    refine ⟨?_, hs', hcur⟩
    simp only [answer, fetchFirst, hres]
  | next slot =>
    simp only [answer, Desk.cursor?, hcur]
    rcases d₂.cursors.lookup slot with _ | cursor
    · exact ⟨rfl, hs, hcur⟩
    · refine ⟨rfl, hs, ?_⟩
      simp only [Desk.place, Desk.release, hcur]
  | collect slot | close slot =>
    simp only [answer, Desk.cursor?, hcur]
    rcases d₂.cursors.lookup slot with _ | cursor
    · exact ⟨rfl, hs, hcur⟩
    · refine ⟨rfl, hs, ?_⟩
      simp only [Desk.release, hcur]
  | validate =>
    refine ⟨?_, hs, hcur⟩
    simp only [answer, h.validate_eq]
  | clearCache =>
    exact ⟨rfl, hs.clearCache, hcur⟩

/-- Any requests, each taking its own time under each client. -/
theorem alike_answerAll {c₁ c₂ : Client σ ρ} (h : Same c₁ c₂) {d₁ d₂ : Desk σ ρ}
    (hd : AlikeDesks c₁ c₂ d₁ d₂) {xs ys : List (Nat × Request)}
    (hxy : xs.map Prod.snd = ys.map Prod.snd) :
    (c₁.answerAll d₁ xs).1.map (fun a => a.1.byValue) =
        (c₂.answerAll d₂ ys).1.map (fun a => a.1.byValue) ∧
      AlikeDesks c₁ c₂ (c₁.answerAll d₁ xs).2 (c₂.answerAll d₂ ys).2 := by
  induction xs generalizing ys d₁ d₂ with
  | nil =>
    obtain rfl : ys = [] := List.map_eq_nil_iff.1 hxy.symm
    exact ⟨rfl, hd⟩
  | cons x xs ih =>
    obtain ⟨y, ys', rfl, hy, hxs⟩ := List.map_eq_cons_iff.1 hxy.symm
    obtain ⟨e₁, r⟩ := x
    obtain ⟨e₂, r'⟩ := y
    obtain rfl : r' = r := hy
    obtain ⟨hreply, hdesk⟩ := alike_answer h hd e₁ e₂ r'
    obtain ⟨hmore, hlast⟩ := ih hdesk hxs.symm
    refine ⟨?_, hlast⟩
    simp only [answerAll, List.map_cons, hreply, hmore]

/-- A run under two settings that come to one dialect: the replies are the same
but for which object a compiled statement is, the store receives the same calls
and ends in the same state, and whatever is prepared next is what the catalog
compiles. -/
theorem run_same_under_settings (store : Store σ ρ) (catalog : Catalog)
    (settings₁ settings₂ : Settings) (state : σ) (xs ys : List (Nat × Request))
    (hdialect : settings₁.dialect.getD (Dialect.ofDriver store.driver) =
      settings₂.dialect.getD (Dialect.ofDriver store.driver))
    (hrequests : xs.map Prod.snd = ys.map Prod.snd) :
    let c₁ : Client σ ρ := ⟨store, catalog, settings₁⟩
    let c₂ : Client σ ρ := ⟨store, catalog, settings₂⟩
    (c₁.answerAll (c₁.openDesk state) xs).1.map (fun a => a.1.byValue) =
        (c₂.answerAll (c₂.openDesk state) ys).1.map (fun a => a.1.byValue) ∧
      c₁.traffic state xs = c₂.traffic state ys ∧
      ∀ id, (c₁.prepare id (c₁.answerAll (c₁.openDesk state) xs).2.session).1.map
          Prepared.compiled = catalog.compile id c₁.dialect := by
  intro c₁ c₂
  have h : Same c₁ c₂ := ⟨rfl, rfl, hdialect⟩
  obtain ⟨hreplies, hdesks⟩ := alike_answerAll h (alike_openDesk c₁ c₂ state) hrequests
  -- the list of calls is part of the state of the recording store, where both runs end alike
  have hrec := alike_answerAll h.recording
    (alike_openDesk c₁.recording c₂.recording (state, [])) hrequests
  exact ⟨hreplies, hrec.2.session.state, fun id => prepare_value hdesks.session.left id⟩

/-- A client that keeps nothing and logs, and one that keeps statements and does not. One
row fails, and so does a request with an odd argument; the store is called once. -/
theorem run_same_cached_and_quiet :
    let script : Script := ⟨"sqlite3", none, 2, some 1⟩
    let catalog : Catalog := KeyMap.ofList [("find", "SELECT :k")]
    let settings₁ : Settings := Settings.default
    let settings₂ : Settings := ⟨some .question, 2, some 5, false, none⟩
    let c₁ : Client (List Call) (List Value) := ⟨script.store, catalog, settings₁⟩
    let c₂ : Client (List Call) (List Value) := ⟨script.store, catalog, settings₂⟩
    let xs : List (Nat × Request) :=
      [(7, .prepare "find"), (0, .fetchAll "find" [.text "k", .text "v"]), (0, .clearCache),
        (3, .execute "find" [.null])]
    let ys : List (Nat × Request) :=
      [(0, .prepare "find"), (9, .fetchAll "find" [.text "k", .text "v"]), (1, .clearCache),
        (2, .execute "find" [.null])]
    let replies : List (Reply (List Value)) :=
      [.prepared ⟨0, ⟨"SELECT ?", ["k"]⟩⟩, .failed (.store "row 1 failed"), .cleared,
        .failed (.oddArgumentCount 1)]
    let call : Call := ⟨.query, "SELECT ?", [.text "v"]⟩
    settings₁.dialect.getD (Dialect.ofDriver script.driver) =
        settings₂.dialect.getD (Dialect.ofDriver script.driver) ∧
      xs.map Prod.snd = ys.map Prod.snd ∧
      ((c₁.answerAll (c₁.openDesk []) xs).1.map (fun a => a.1.byValue) = replies ∧
        c₁.traffic [] xs = ([call], [call])) ∧
      (c₂.answerAll (c₂.openDesk []) ys).1.map (fun a => a.1.byValue) = replies ∧
        c₂.traffic [] ys = ([call], [call]) := by
  intro script catalog settings₁ settings₂ c₁ c₂ xs ys replies call
  have hdialect : settings₁.dialect.getD (Dialect.ofDriver script.store.driver) =
      settings₂.dialect.getD (Dialect.ofDriver script.store.driver) := by decide
  obtain ⟨hreplies, htraffic, -⟩ :=
    run_same_under_settings script.store catalog settings₁ settings₂ [] xs ys hdialect rfl
  have hreplies₁ : (c₁.answerAll (c₁.openDesk []) xs).1.map (fun a => a.1.byValue) = replies := rfl
  have htraffic₁ : c₁.traffic [] xs = ([call], [call]) := rfl
  exact ⟨hdialect, rfl, ⟨hreplies₁, htraffic₁⟩, hreplies.symm.trans hreplies₁,
    htraffic.symm.trans htraffic₁⟩

end Client

end SqlCatalog
