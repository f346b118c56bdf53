import Mathlib.Data.List.Basic
import SqlCatalog.Proofs.Template.Placeholders
/-!
# Templates one behind the other

A text is `Settled` if it is read as the same pieces whatever follows it: it
ends neither in the middle of a name nor behind a `:`. Whatever compiles is
settled unless its last character says otherwise (`Reads.settled`).

A template fails at the `:` behind a name, and what stands before that name is
settled (`Reads.exists_failsAt`, `Reads.of_failsAt`). So a failure is decided by
the characters up to it, and nothing that follows can undo it. Behind a settled
template another one compiles as it does alone, with its parameters counted on
(`compile_append`).
-/
namespace SqlCatalog.Template

/-! ## What may follow a name -/

/-- Only the first character behind a name counts. -/
theorem EndsName.of_head?_eq {name rest rest' : List Char} (h : EndsName name rest)
    (hhead : rest'.head? = rest.head?) : EndsName name rest' := by
  refine ⟨h.chars, fun c hc => h.stop c (hhead ▸ hc), hhead ▸ h.no_colon, fun hname => ?_⟩
  obtain ⟨hne, hequals⟩ := h.opens hname
  refine ⟨fun hnil => hne ?_, hhead ▸ hequals⟩
  rw [hnil] at hhead
  exact List.head?_eq_none_iff.1 hhead.symm

/-- A name at the very end, which is not empty. -/
theorem endsName_nil {name : List Char} (hne : name ≠ [])
    (hchars : ∀ c ∈ name, isNameChar c = true) : EndsName name [] :=
  ⟨hchars, nofun, nofun, fun hnil => absurd hnil hne⟩

/-- A name with a `:` behind it is refused there. -/
theorem Reads.refused {name : List Char} (hne : name ≠ [])
    (hchars : ∀ c ∈ name, isNameChar c = true) (i : Nat) (rest : List Char) :
    Reads i (':' :: (name ++ ':' :: rest)) (.error (.malformedTemplate (i + 1 + name.length))) := by
  have hstop : ∀ c, (':' :: rest).head? = some c → isNameChar c = false := by
    rintro _ ⟨⟩
    decide +kernel
  have hopen : Opens (name ++ ':' :: rest) := by
    cases name with
    | nil => exact absurd rfl hne
    | cons c name =>
      have hc : isNameChar c = true := hchars c List.mem_cons_self
      exact ⟨nofun, fun h => ne_colon_of_isNameChar hc (Option.some.inj h),
        fun h => ne_equals_of_isNameChar hc (Option.some.inj h)⟩
  have hmal := Reads.malformed (i := i) hopen
  rw [takeWhile_run hchars hstop, dropWhile_run hchars hstop] at hmal
  exact hmal rfl

/-! ## Settled texts -/

/-- The text is read as these pieces, wherever it stands and whatever follows. -/
def Settled (a : List Char) (ps : List Piece) : Prop :=
  ∀ i b r, Reads (i + a.length) b r → Reads i (a ++ b) (r.map (ps ++ ·))

namespace Settled

variable {a name : List Char} {ps : List Piece} {c : Char}

theorem nil : Settled [] [] := by
  intro i b r h
  have hmap : r.map (([] : List Piece) ++ ·) = r := by cases r <;> rfl
  rw [hmap]
  exact h

theorem literal (hc : c ≠ ':') (h : Settled a ps) : Settled (c :: a) (.literal c :: ps) := by
  intro i b r hr
  rw [List.length_cons, Nat.add_comm a.length, ← Nat.add_assoc] at hr
  have hread := Reads.literal hc (h (i + 1) b r hr)
  rwa [Except.map_map] at hread

theorem colon (h : Settled a ps) : Settled (':' :: ':' :: a) (.literal ':' :: ps) := by
  intro i b r hr
  rw [List.length_cons, List.length_cons, Nat.add_assoc a.length, Nat.add_comm a.length,
    ← Nat.add_assoc] at hr
  have hread := Reads.colon (h (i + 2) b r hr)
  rwa [Except.map_map] at hread

theorem assign (h : Settled a ps) :
    Settled (':' :: '=' :: a) (.literal ':' :: .literal '=' :: ps) := by
  intro i b r hr
  rw [List.length_cons, List.length_cons, Nat.add_assoc a.length, Nat.add_comm a.length,
    ← Nat.add_assoc] at hr
  have hread := Reads.assign (h (i + 2) b r hr)
  rwa [Except.map_map] at hread

/-- A name is settled by a character behind it. -/
theorem parameter (hname : EndsName name a) (ha : a ≠ []) (h : Settled a ps) :
    Settled (':' :: (name ++ a)) (.parameter name :: ps) := by
  intro i b r hr
  have hends : EndsName name (a ++ b) := hname.of_head?_eq (List.head?_append_of_ne_nil a ha)
  have hindex : i + (':' :: (name ++ a)).length = i + 1 + name.length + a.length := by
    simp only [List.length_cons, List.length_append]
    omega
  rw [hindex] at hr
  have hread := Reads.parameter_append hends (h _ b r hr)
  rw [Except.map_map] at hread
  rwa [List.cons_append, List.append_assoc]

end Settled

variable {i : Nat} {t : List Char} {ps : List Piece} {e : Failure}

/-- May this be the last character of a text that is to go on? -/
def Closes (c : Char) : Prop := c ≠ ':' ∧ isNameChar c = false

/-- What compiles is settled, unless its last character may go on with a name
or is a `:`. -/
theorem Reads.settled (h : Reads i t (.ok ps)) (hlast : ∀ c, t.getLast? = some c → Closes c) :
    Settled t ps := by
  -- what is left has the last character of the whole, if anything is left
  induction h using Reads.ok_induction with
  | done => exact .nil
  | @literal i c rest ps hc _ ih =>
    refine .literal hc (ih fun x hx => hlast x ?_)
    rw [List.getLast?_cons, hx, Option.getD_some]
  | @colon i rest ps _ ih =>
    refine .colon (ih fun x hx => hlast x ?_)
    rw [List.getLast?_cons, List.getLast?_cons, hx, Option.getD_some, Option.getD_some]
  | @assign i rest ps _ ih =>
    refine .assign (ih fun x hx => hlast x ?_)
    rw [List.getLast?_cons, List.getLast?_cons, hx, Option.getD_some, Option.getD_some]
  | trailing => exact absurd rfl (hlast ':' rfl).1
  | @parameter i name rest ps hname _ ih =>
    have hrest : rest ≠ [] := by
      rintro rfl
      have hne : name ≠ [] := fun hnil => (hname.opens hnil).1 rfl
      have hclose := hlast (name.getLast hne) (by
        rw [List.append_nil, List.getLast?_cons, List.getLast?_eq_some_getLast hne,
          Option.getD_some])
      rw [Closes, hname.chars _ (List.getLast_mem hne)] at hclose
      exact absurd hclose.2 (by decide)
    refine .parameter hname hrest (ih fun x hx => hlast x ?_)
    rw [List.getLast?_cons, List.getLast?_append, hx, Option.some_or, Option.getD_some]

/-- Where a text starts does not matter. -/
theorem Reads.ok_anywhere (h : Reads i t (.ok ps)) (j : Nat) : Reads j t (.ok ps) := by
  induction h using Reads.ok_induction generalizing j with
  | done => exact .done
  | literal hc _ ih => exact .literal (r := .ok _) hc (ih _)
  | colon _ ih => exact .colon (r := .ok _) (ih _)
  | assign _ ih => exact .assign (r := .ok _) (ih _)
  | trailing => exact .trailing
  | parameter hname _ ih => exact .named hname (ih _)

/-! ## Where a template fails -/

/-- A text with a `:` at `index` behind a name, and a settled text before that name. -/
structure FailsAt (t : List Char) (index : Nat) (before : List Char) (ps : List Piece)
    (name rest : List Char) : Prop where
  text : t = before ++ ':' :: (name ++ ':' :: rest)
  settled : Settled before ps
  ne_nil : name ≠ []
  chars : ∀ c ∈ name, isNameChar c = true
  index_eq : index = before.length + 1 + name.length

/-- A failure stays one behind more text, if that text and what stood before is settled. -/
theorem FailsAt.behind {index : Nat} {before name rest : List Char}
    (h : FailsAt t index before ps name rest) {x : List Char} {qs : List Piece}
    (hx : Settled (x ++ before) qs) :
    FailsAt (x ++ t) (x.length + index) (x ++ before) qs name rest := by
  refine ⟨by rw [h.text, List.append_assoc], hx, h.ne_nil, h.chars, ?_⟩
  rw [h.index_eq, List.length_append]
  omega

/-- Reading fails only at a `:` behind a name, with all before that name settled. -/
theorem Reads.exists_failsAt (h : Reads i t (.error e)) :
    ∃ index before ps name rest, FailsAt t index before ps name rest ∧
      e = .malformedTemplate (i + index) := by
  generalize hr : (Except.error e : Except Failure (List Piece)) = r at h
  induction h with
  | done | trailing => cases hr
  | @literal i c rest r hc _ ih =>
    obtain ⟨index, before, ps, name, tail, hfail, rfl⟩ :=
      ih (Except.map_eq_error_iff.1 hr.symm).symm
    refine ⟨_, _, _, name, tail, hfail.behind (x := [c]) (hfail.settled.literal hc), ?_⟩
    rw [Nat.add_assoc, List.length_singleton]
  | @colon i rest r _ ih =>
    obtain ⟨index, before, ps, name, tail, hfail, rfl⟩ :=
      ih (Except.map_eq_error_iff.1 hr.symm).symm
    exact ⟨_, _, _, name, tail, hfail.behind (x := [':', ':']) hfail.settled.colon,
      by rw [Nat.add_assoc]; rfl⟩
  | @assign i rest r _ ih =>
    obtain ⟨index, before, ps, name, tail, hfail, rfl⟩ :=
      ih (Except.map_eq_error_iff.1 hr.symm).symm
    exact ⟨_, _, _, name, tail, hfail.behind (x := [':', '=']) hfail.settled.assign,
      by rw [Nat.add_assoc]; rfl⟩
  | @parameter i after r hopen hcolon _ ih =>
    obtain ⟨index, before, ps, name, tail, hfail, rfl⟩ :=
      ih (Except.map_eq_error_iff.1 hr.symm).symm
    have hends := EndsName.of_opens hopen hcolon
    rw [hfail.text] at hends
    have hbefore : before ≠ [] := fun hnil => hends.no_colon (by rw [hnil]; rfl)
    have hname := hends.of_head?_eq (List.head?_append_of_ne_nil before hbefore).symm
    have hwhole := hfail.behind (x := ':' :: after.takeWhile isNameChar)
      (hfail.settled.parameter hname hbefore)
    rw [List.cons_append, List.takeWhile_append_dropWhile] at hwhole
    refine ⟨_, _, _, name, tail, hwhole, ?_⟩
    rw [List.length_cons, Failure.malformedTemplate.injEq]
    omega
  | @malformed i after hopen hcolon =>
    obtain ⟨tail, htail⟩ := List.head?_eq_some_iff.1 hcolon
    have htext : ':' :: after = ':' :: (after.takeWhile isNameChar ++ ':' :: tail) := by
      rw [← htail, List.takeWhile_append_dropWhile]
    have hne : after.takeWhile isNameChar ≠ [] := fun hnil =>
      hopen.no_colon (by rw [← dropWhile_of_takeWhile_nil hnil, hcolon])
    cases hr
    refine ⟨1 + (after.takeWhile isNameChar).length, [], [], after.takeWhile isNameChar, tail,
      ⟨htext, .nil, hne, fun c => List.mem_takeWhile_imp, ?_⟩, ?_⟩
    · rw [List.length_nil, Nat.zero_add]
    · rw [Nat.add_assoc]

theorem Reads.of_failsAt {index : Nat} {before name rest : List Char}
    (h : FailsAt t index before ps name rest) (i : Nat) :
    Reads i t (.error (.malformedTemplate (i + index))) := by
  have hread := h.settled i _ _ (.refused h.ne_nil h.chars _ rest)
  rw [h.text, h.index_eq, ← Nat.add_assoc, ← Nat.add_assoc]
  exact hread

/-- More text behind a failure is not read. -/
theorem FailsAt.append {index : Nat} {before name rest : List Char}
    (h : FailsAt t index before ps name rest) (b : List Char) :
    FailsAt (t ++ b) index before ps name (rest ++ b) := by
  refine ⟨?_, h.settled, h.ne_nil, h.chars, h.index_eq⟩
  rw [h.text, List.append_assoc, List.cons_append, List.append_assoc, List.cons_append]

/-- What stands before the `:` that is refused can be read, and ends in a name. -/
theorem FailsAt.prefix_reads {index : Nat} {before name rest : List Char}
    (h : FailsAt t index before ps name rest) :
    ∃ head c, t = head ++ c :: ':' :: rest ∧ index = head.length + 1 ∧ isNameChar c = true ∧
      ∃ qs, Reads 0 (head ++ [c]) (.ok qs) := by
  have hread := h.settled 0 (':' :: (name ++ [])) _
    (.named (endsName_nil h.ne_nil h.chars) (.done (i := _)))
  obtain ⟨init, c, rfl⟩ := (List.eq_nil_or_concat' name).resolve_left h.ne_nil
  rw [List.append_nil] at hread
  refine ⟨before ++ ':' :: init, c, ?_, ?_, h.chars c (by simp),
    ps ++ [.parameter (init ++ [c])], ?_⟩
  · rw [h.text]
    simp
  · rw [h.index_eq]
    simp only [List.length_append, List.length_cons, List.length_nil]
    omega
  · rwa [List.append_assoc, List.cons_append]

/-! ## Compiling -/

/-- The SQL of a reading whose `k`-th parameter takes the placeholder `n + k`. -/
def filledFrom (d : Dialect) (n : Nat) (ps : List Piece) : String :=
  String.join (ps.mapIdx fun j p => p.filled d (n + ordinal ps j))

theorem filledFrom_zero (d : Dialect) (ps : List Piece) : filledFrom d 0 ps = filled d ps := by
  simp only [filledFrom, filled, Nat.zero_add]

theorem render_eq_filledFrom (d : Dialect) (n : Nat) (ps : List Piece) :
    render d (n + 1) ps = filledFrom d n ps := render_eq_join d ps n

/-- Where placeholders have no numbers, they do not change. -/
theorem filledFrom_of_unnumbered {d : Dialect} (hd : d = .question ∨ d = .unknown ∨ d = .named)
    (n : Nat) (ps : List Piece) : filledFrom d n ps = filled d ps := by
  have hsame : ∀ m n p, Piece.filled d m p = p.filled d n := by
    rintro m n (c | name) <;> rcases hd with rfl | rfl | rfl <;> rfl
  rw [← filledFrom_zero, ← render_eq_filledFrom, ← render_eq_filledFrom,
    render_of_unnumbered hsame]

theorem compile_error_iff_reads {t : String} {d : Dialect} {e : Failure} :
    compile t d = .error e ↔ Reads 0 t.toList (.error e) :=
  compile_error_iff.trans pieces_eq_iff

/-- A settled template that goes on with another one. -/
theorem compile_append_of_settled {a b : String} {ps : List Piece} (h : Settled a.toList ps)
    {r : Except Failure (List Piece)} (hr : Reads a.length b.toList r) (d : Dialect) :
    compile (a ++ b) d =
      r.map fun qs => ⟨render d 1 (ps ++ qs), (ps ++ qs).filterMap Piece.name?⟩ := by
  have hread := h 0 b.toList r (by rwa [Nat.zero_add, String.length_toList])
  rw [← String.toList_append, ← pieces_eq_iff] at hread
  rw [compile_eq, hread, Except.map_map]
  rfl

/-- Templates one behind the other. If the first one fails, so does the whole, at
the same place: at a `:` with a name before it, up to which the template
compiles. If the first is empty or compiles with a last character that closes
it, the second one decides: the whole fails where that fails, and else it is one
behind the other, with the placeholders of the second counted on. -/
theorem compile_append (d : Dialect) (a b : String) :
    (∀ e, compile a d = .error e → compile (a ++ b) d = .error e ∧
      ∃ head c rest, a.toList = head ++ c :: ':' :: rest ∧
        e = .malformedTemplate (head.length + 1) ∧ isNameChar c = true ∧
        ∃ q, compile (String.ofList (head ++ [c])) d = .ok q) ∧
    ((a = "" ∨ (∃ q, compile a d = .ok q) ∧ ∃ c, a.toList.getLast? = some c ∧ Closes c) →
      ∃ q, compile a d = .ok q ∧
        (∀ e, compile b d = .error e → ∃ i, e = .malformedTemplate i ∧
          compile (a ++ b) d = .error (.malformedTemplate (a.length + i))) ∧
        ∀ q', compile b d = .ok q' → ∃ qs, Reads 0 b.toList (.ok qs) ∧
          q' = ⟨filled d qs, qs.filterMap Piece.name?⟩ ∧
          compile (a ++ b) d =
            .ok ⟨q.sql ++ filledFrom d q.names.length qs, q.names ++ q'.names⟩ ∧
          (d = .question ∨ d = .unknown ∨ d = .named →
            filledFrom d q.names.length qs = q'.sql)) := by
  constructor
  · intro e he
    obtain ⟨index, before, ps, name, rest, hfail, rfl⟩ :=
      (compile_error_iff_reads.1 he).exists_failsAt
    have hwhole := Reads.of_failsAt (hfail.append b.toList) 0
    rw [← String.toList_append] at hwhole
    obtain ⟨head, c, htext, hindex, hc, qs, hqs⟩ := hfail.prefix_reads
    refine ⟨compile_error_iff_reads.2 hwhole, head, c, rest, htext, by rw [hindex, Nat.zero_add],
      hc, _, compile_eq_ok_iff.2 ⟨qs, ?_, rfl⟩⟩
    rwa [String.toList_ofList]
  · intro ha
    obtain ⟨ps, hps, hsettled⟩ : ∃ ps, Reads 0 a.toList (.ok ps) ∧ Settled a.toList ps := by
      rcases ha with rfl | ⟨⟨q, hq⟩, c, hlast, hc⟩
      · exact ⟨[], .done, .nil⟩
      · obtain ⟨ps, hps, -⟩ := compile_eq_ok_iff.1 hq
        refine ⟨ps, hps, hps.settled fun x hx => ?_⟩
        rw [hlast] at hx
        cases hx
        exact hc
    refine ⟨_, compile_eq_ok_iff.2 ⟨ps, hps, rfl⟩, fun e he => ?_, fun q' hq' => ?_⟩
    · obtain ⟨i, before, qs, name, rest, hfail, rfl⟩ :=
        (compile_error_iff_reads.1 he).exists_failsAt
      refine ⟨0 + i, rfl, ?_⟩
      rw [compile_append_of_settled hsettled (.of_failsAt hfail a.length), Nat.zero_add]
      rfl
    · obtain ⟨qs, hqs, rfl⟩ := compile_eq_ok_iff.1 hq'
      have hsql : render d 1 qs = filled d qs := by
        rw [← filledFrom_zero, ← render_eq_filledFrom]
      have hwhole := compile_append_of_settled hsettled (hqs.ok_anywhere a.length) d
      refine ⟨qs, hqs, by rw [hsql], ?_, fun hd => ?_⟩
      · rw [hwhole, length_names, ← render_eq_filledFrom, Nat.add_comm _ 1]
        simp only [Except.map, render_append, List.filterMap_append]
      · rw [filledFrom_of_unnumbered hd, hsql]

/-- The second template counts on from the first, and nothing mends a failure. -/
theorem compile_append_counts_on :
    compile "x = :a, " .dollar = .ok ⟨"x = $1, ", ["a"]⟩ ∧
      compile "y = :b" .dollar = .ok ⟨"y = $1", ["b"]⟩ ∧
      compile ":a:b" .dollar = .error (.malformedTemplate 2) ∧
      (∃ qs, Reads 0 "y = :b".toList (.ok qs) ∧
        compile ("x = :a, " ++ "y = :b") .dollar =
          .ok ⟨"x = $1, " ++ filledFrom .dollar 1 qs, ["a"] ++ ["b"]⟩) ∧
      compile (":a:b" ++ ":c") .dollar = .error (.malformedTemplate 2) := by
  have hx : compile "x = :a, " .dollar = .ok ⟨"x = $1, ", ["a"]⟩ := by decide +kernel
  have hy : compile "y = :b" .dollar = .ok ⟨"y = $1", ["b"]⟩ := by decide +kernel
  have hbad : compile ":a:b" .dollar = .error (.malformedTemplate 2) := by decide +kernel
  have hlast : ∃ c, "x = :a, ".toList.getLast? = some c ∧ Closes c :=
    ⟨' ', by decide, by decide, by decide +kernel⟩
  refine ⟨hx, hy, hbad, ?_, ((compile_append .dollar ":a:b" ":c").1 _ hbad).1⟩
  obtain ⟨q, hq, -, hok⟩ := (compile_append .dollar "x = :a, " "y = :b").2 (.inr ⟨⟨_, hx⟩, hlast⟩)
  obtain rfl : q = ⟨"x = $1, ", ["a"]⟩ := Except.ok.inj (hq.symm.trans hx)
  obtain ⟨qs, hqs, -, hwhole, -⟩ := hok _ hy
  exact ⟨qs, hqs, hwhole⟩

end SqlCatalog.Template
