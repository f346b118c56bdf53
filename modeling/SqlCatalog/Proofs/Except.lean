/-!
# Results and failures

When a result that goes through a function, or on to another step, is a success
and when it is a failure.
-/
namespace Except

variable {ε α β γ : Type}

theorem map_map (f : α → β) (g : β → γ) (r : Except ε α) : (r.map f).map g = r.map (g ∘ f) := by
  cases r <;> rfl

theorem map_eq_ok_iff {f : α → β} {r : Except ε α} {b : β} :
    r.map f = .ok b ↔ ∃ a, r = .ok a ∧ f a = b := by
  cases r <;> simp [Except.map]

theorem map_eq_error_iff {f : α → β} {r : Except ε α} {e : ε} :
    r.map f = .error e ↔ r = .error e := by
  cases r <;> simp [Except.map]

theorem bind_eq_ok_iff {r : Except ε α} {f : α → Except ε β} {b : β} :
    r.bind f = .ok b ↔ ∃ a, r = .ok a ∧ f a = .ok b := by
  cases r <;> simp [Except.bind]

end Except
