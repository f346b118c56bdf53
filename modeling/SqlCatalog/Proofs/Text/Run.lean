import Mathlib.Data.List.TakeWhile
/-!
# The longest run

The longest run of characters of a class at the front of a text, told by what the
run is made of and what stands behind it.
-/
namespace SqlCatalog

variable {p : Char → Bool} {run rest : List Char}

/-- A run is taken whole if what follows does not go on with it. -/
theorem takeWhile_run (hrun : ∀ c ∈ run, p c = true)
    (hstop : ∀ c, rest.head? = some c → p c = false) : (run ++ rest).takeWhile p = run := by
  rw [List.takeWhile_append_of_pos hrun]
  cases rest with
  | nil => simp
  | cons c rest =>
    have hc : p c = false := hstop c rfl
    simp [hc]

theorem dropWhile_run (hrun : ∀ c ∈ run, p c = true)
    (hstop : ∀ c, rest.head? = some c → p c = false) : (run ++ rest).dropWhile p = rest := by
  rw [List.dropWhile_append_of_pos hrun]
  cases rest with
  | nil => rfl
  | cons c rest =>
    have hc : p c = false := hstop c rfl
    simp [hc]

/-- What is left behind the longest run does not go on with it. -/
theorem not_of_head?_dropWhile {text : List Char} {c : Char}
    (h : (text.dropWhile p).head? = some c) : p c = false := by
  have hhead := List.head?_dropWhile_not p text
  rw [h] at hhead
  simpa using hhead

end SqlCatalog
