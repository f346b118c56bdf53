import SqlCatalog.Proofs.Arguments.Order
import SqlCatalog.Proofs.Client.Dispatch
import SqlCatalog.Proofs.Client.Transparency
/-!
# Calls do not depend on the order of arguments

What a statement with arguments hands to the store looks at the arguments only
through the names of its template. Arguments under other names may come and go,
and pairs under different names may change places; only pairs under one name
must stay in order, for the last of them counts. Lists that differ in no more
than that are bound alike (`bound_eq_of_rearranged`), whatever the client did
before (`same_call_of_rearranged`).
-/
namespace SqlCatalog.Client

open Arguments

variable {σ ρ : Type} {c : Client σ ρ} {id : String} {args₁ args₂ : List Value}

theorem bound_eq_of_rearranged (heven₁ : args₁.length % 2 = 0) (heven₂ : args₂.length % 2 = 0)
    (h : ∀ q, c.catalog.compile id c.dialect = .ok q →
      Rearranged (relevant q.names args₁) (relevant q.names args₂)) :
    c.bound id args₁ = c.bound id args₂ := by
  unfold bound
  cases hq : c.catalog.compile id c.dialect with
  | error e => rfl
  | ok q =>
    simp only [bind_of_even heven₁, bind_of_even heven₂]
    rw [project_eq_of_rearranged (h q hq)]

/-- The reply to binding a statement, but for which object the statement is. -/
theorem byValue_bindCall (c : Client σ ρ) (state : σ) (rs : List (Nat × Request)) (elapsed : Nat)
    (id : String) (args : List Value) :
    (c.replyTo state rs (elapsed, .bindCall id args)).byValue =
      Reply.ofResult (fun b => .bound ⟨0, b.1⟩ b.2) (c.bound id args) := by
  have hval := bindCall_value (c.faithful_answerAll state rs) id args
  rw [← hval, ← Reply.byValue_bound]
  rfl

/-- The calls for a request that runs a statement, after any run. -/
theorem calls_eq_of_bound {r₁ r₂ : Request} {kind : CallKind} (h₁ : r₁.Runs kind id args₁)
    (h₂ : r₂.Runs kind id args₂) (hb : c.bound id args₁ = c.bound id args₂) (state₁ state₂ : σ)
    (rs₁ rs₂ : List (Nat × Request)) :
    c.callsOf (c.answerAll (c.openDesk state₁) rs₁).2 r₁ =
      c.callsOf (c.answerAll (c.openDesk state₂) rs₂).2 r₂ := by
  have hd₁ := c.faithful_answerAll state₁ rs₁
  have hd₂ := c.faithful_answerAll state₂ rs₂
  rw [callsOf_of_runs h₁, callsOf_of_runs h₂]
  cases hb₁ : c.bound id args₁ with
  | error e => rw [callFor_of_error hd₁ hb₁, callFor_of_error hd₂ (hb ▸ hb₁)]
  | ok b => rw [callFor_of_ok hd₁ hb₁, callFor_of_ok hd₂ (hb ▸ hb₁)]

/-- Two even argument lists that, of the pairs under the names of the statement,
hold the same ones, those under each name in the same order. Whatever the
client did before either of them, binding the statement gives the same compiled
statement and the same parameters, and a request that runs it makes the same
call of the store. -/
theorem same_call_of_rearranged (c : Client σ ρ) (id : String) (args₁ args₂ : List Value)
    (heven₁ : args₁.length % 2 = 0) (heven₂ : args₂.length % 2 = 0)
    (h : ∀ q, c.catalog.compile id c.dialect = .ok q →
      Rearranged (relevant q.names args₁) (relevant q.names args₂))
    (state₁ state₂ : σ) (rs₁ rs₂ : List (Nat × Request)) (elapsed₁ elapsed₂ : Nat) :
    (c.replyTo state₁ rs₁ (elapsed₁, .bindCall id args₁)).byValue =
        (c.replyTo state₂ rs₂ (elapsed₂, .bindCall id args₂)).byValue ∧
      ∀ kind r₁ r₂, r₁.Runs kind id args₁ → r₂.Runs kind id args₂ → ∃ calls,
        (c.traffic state₁ (rs₁ ++ [(elapsed₁, r₁)])).2 = (c.traffic state₁ rs₁).2 ++ calls ∧
          (c.traffic state₂ (rs₂ ++ [(elapsed₂, r₂)])).2 = (c.traffic state₂ rs₂).2 ++ calls := by
  have hb := bound_eq_of_rearranged heven₁ heven₂ h
  refine ⟨?_, fun kind r₁ r₂ h₁ h₂ => ⟨_, congrArg Prod.snd (traffic_concat c state₁ rs₁ _), ?_⟩⟩
  · rw [byValue_bindCall, byValue_bindCall, hb]
  · rw [calls_eq_of_bound h₁ h₂ hb state₁ state₂ rs₁ rs₂]
    exact congrArg Prod.snd (traffic_concat c state₂ rs₂ _)

/-- `b` goes in front of `a`, which is given twice, and two pairs that the statement
has no use for come in; one client has prepared the statement before. -/
theorem same_call_of_rearranged_surplus :
    let script : Script := ⟨"postgres", none, 1, none⟩
    let catalog : Catalog := KeyMap.ofList [("find", "SELECT * FROM t WHERE a = :a AND b < :b")]
    let c : Client (List Call) (List Value) := ⟨script.store, catalog, Settings.default⟩
    let args₁ : List Value := [.text "a", .int 1, .text "b", .int 2, .text "a", .int 3]
    let args₂ : List Value := [.text "b", .int 2, .null, .text "b", .text "a", .int 1, .text "c",
      .int 9, .text "a", .int 3]
    let call : Call :=
      ⟨.execute, "SELECT * FROM t WHERE a = $1 AND b < $2", [.int 3, .int 2]⟩
    args₁.length % 2 = 0 ∧ args₂.length % 2 = 0 ∧
      Rearranged (relevant ["a", "b"] args₁) (relevant ["a", "b"] args₂) ∧
      (c.traffic [] [(0, .execute "find" args₁)]).2 = [call] ∧
      (c.traffic [] [(5, .prepare "find"), (1, .execute "find" args₂)]).2 = [call] := by
  intro script catalog c args₁ args₂ call
  have heven₁ : args₁.length % 2 = 0 := by simp [args₁]
  have heven₂ : args₂.length % 2 = 0 := by simp [args₂]
  have hrel₁ : relevant ["a", "b"] args₁ = [("a", .int 1), ("b", .int 2), ("a", .int 3)] := by
    simp [relevant, namedPairs, pairs, named?, args₁]
  have hrel₂ : relevant ["a", "b"] args₂ = [("b", .int 2), ("a", .int 1), ("a", .int 3)] := by
    simp [relevant, namedPairs, pairs, named?, args₂, List.filterMap_cons]
  have hrearranged : Rearranged (relevant ["a", "b"] args₁) (relevant ["a", "b"] args₂) := by
    rw [hrel₁, hrel₂]
    refine ⟨.swap _ _ _, fun name => ?_⟩
    by_cases ha : "a" = name
    · have hb : "b" ≠ name := ha ▸ by decide
      simp [ha, hb]
    · simp [ha, List.filter_cons]
  have hcompile : c.catalog.compile "find" c.dialect =
      .ok ⟨"SELECT * FROM t WHERE a = $1 AND b < $2", ["a", "b"]⟩ := by decide +kernel
  have h : ∀ q, c.catalog.compile "find" c.dialect = .ok q →
      Rearranged (relevant q.names args₁) (relevant q.names args₂) := by
    intro q hq
    rw [hcompile] at hq
    cases hq
    exact hrearranged
  have hbound : c.bound "find" args₁ =
      .ok (⟨"SELECT * FROM t WHERE a = $1 AND b < $2", ["a", "b"]⟩, [.int 3, .int 2]) := by
    rw [bound, hcompile]
    simp only [bind_of_even heven₁]
    rfl
  have hcall : (c.traffic [] [(0, .execute "find" args₁)]).2 = (c.traffic [] []).2 ++ [call] :=
    calls_of_bound (.execute "find" args₁) hbound [] [] 0
  have hprepared : (c.traffic [] [(5, .prepare "find")]).2 = [] := by
    rw [traffic_eq]
    rfl
  obtain ⟨calls, hfirst, hsecond⟩ :=
    (same_call_of_rearranged c "find" args₁ args₂ heven₁ heven₂ h [] [] [] [(5, .prepare "find")]
      0 1).2 .execute _ _ (.execute "find" args₁) (.execute "find" args₂)
  obtain rfl : calls = [call] := List.append_cancel_left (hfirst.symm.trans hcall)
  rw [hprepared] at hsecond
  exact ⟨heven₁, heven₂, hrearranged, hcall, hsecond⟩

end SqlCatalog.Client
