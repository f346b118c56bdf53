import SqlCatalog.Proofs.Catalog.Validation
import SqlCatalog.Proofs.Client.Failures
/-!
# All checks agree

A catalog is validated, checked and printed by commands, and validated and run by
clients. If no statement is malformed, all of these succeed and no client ever
comes across a malformed one (`Catalog.Passes`); otherwise all of these stop at
one and the same statement (`Catalog.StopsAt`), the malformed one with the least
id (`Catalog.checks_agree`).
-/
namespace SqlCatalog

open Command (readDeclaration)

/-! ## Verdicts -/

namespace Catalog

/-- Every check succeeds, and no run of a client replies that a statement is
malformed unless its store does. -/
structure Passes (c : Catalog) : Prop where
  validate : ∀ d, c.validate d = .ok ()
  check : Command.check c = .ok ()
  runCheck : ∀ host path declaration, readDeclaration host path = .ok declaration →
    declaration.catalog = c →
    Command.runCheck path host = .ok s!"{path}: {c.size} statements ok\n"
  render : ∀ d, ∃ text, Command.render c d [] = .ok text
  runCompile : ∀ host (r : Command.CompileRequest) declaration,
    readDeclaration host r.catalog = .ok declaration → declaration.catalog = c →
    r.statements = [] → ∃ text, Command.runCompile r host = .ok text
  client : ∀ {σ ρ : Type} (store : Store σ ρ) (settings : Settings),
    (Client.mk store c settings).validate.1 = .ok ()
  run : ∀ {σ ρ : Type} (store : Store σ ρ) (settings : Settings),
    store.FailsWith (·.isMalformedTemplate = false) →
    let client : Client σ ρ := ⟨store, c, settings⟩
    ∀ state rs, ∀ a ∈ (client.answerAll (client.openDesk state) rs).1, ∀ i,
      a.1 ≠ .failed (.malformedTemplate i)

/-- Every check fails with this statement, malformed at this character, and a
client fails to prepare it, whatever it did before. -/
structure StopsAt (c : Catalog) (id : String) (i : Nat) : Prop where
  validate : ∀ d, c.validate d = .error (id, .malformedTemplate i)
  check : Command.check c = .error (id, .unknown, .malformedTemplate i)
  runCheck : ∀ host path declaration, readDeclaration host path = .ok declaration →
    declaration.catalog = c →
    Command.runCheck path host =
      .fail s!"{id} ({Dialect.unknown.name}): {(Failure.malformedTemplate i).message}"
  render : ∀ d, Command.render c d [] = .error (id, .malformedTemplate i)
  runCompile : ∀ host (r : Command.CompileRequest) declaration,
    readDeclaration host r.catalog = .ok declaration → declaration.catalog = c →
    r.statements = [] → Command.runCompile r host =
      .fail s!"failed to compile {id}: {(Failure.malformedTemplate i).message}"
  client : ∀ {σ ρ : Type} (store : Store σ ρ) (settings : Settings),
    (Client.mk store c settings).validate.1 = .error (.malformedTemplate i)
  prepare : ∀ {σ ρ : Type} (store : Store σ ρ) (settings : Settings) state rs elapsed,
    (Client.mk store c settings).replyTo state rs (elapsed, .prepare id) =
      .failed (.malformedTemplate i)

end Catalog

/-! ## Commands -/

namespace Command

variable {c : Catalog} {d : Dialect} {id : String} {e : Failure}

theorem check_of_ok (h : c.validate .unknown = .ok ()) : check c = .ok () := by
  rw [check_eq, h]
  rfl

theorem check_of_error (h : c.validate .unknown = .error (id, e)) :
    check c = .error (id, .unknown, e) := by
  rw [check_eq, h]
  rfl

theorem render_of_ok (h : c.validate d = .ok ()) : ∃ text, render c d [] = .ok text := by
  rw [← render_all_eq] at h
  obtain ⟨text, htext, -⟩ := Except.map_eq_ok_iff.1 h
  exact ⟨text, htext⟩

theorem render_of_error (h : c.validate d = .error (id, e)) : render c d [] = .error (id, e) := by
  rw [← render_all_eq] at h
  exact Except.map_eq_error_iff.1 h

end Command

/-! ## Clients -/

namespace Client

variable {σ ρ : Type} {c : Client σ ρ}

/-- Without malformed statements, a client fails as its store does, or over an id
or the number of arguments. -/
theorem failsWith_of_valid (hvalid : c.catalog.validate c.dialect = .ok ())
    (hstore : c.store.FailsWith (·.isMalformedTemplate = false)) :
    c.FailsWith (·.isMalformedTemplate = false) := by
  refine ⟨fun id args e he => ?_, fun e he => ?_, hstore⟩
  · cases hid : c.catalog.find? id with
    | none =>
      rw [bound_of_unknown hid] at he
      cases he
      rfl
    | some t =>
      cases ht : Template.compile t c.dialect with
      | error e' =>
        obtain ⟨i, rfl⟩ := Template.malformed_of_compile ht
        exact absurd ⟨t, hid, ht⟩ (Catalog.validate_eq_ok_iff.1 hvalid id i)
      | ok q =>
        rcases Nat.mod_two_eq_zero_or_one args.length with heven | hodd
        · obtain ⟨params, -, hok⟩ := bound_of_even hid ht heven
          rw [hok] at he
          cases he
        · rw [bound_of_odd hid ht hodd] at he
          cases he
          rfl
  · rw [validate_client_eq, hvalid] at he
    cases he

/-- A statement that does not compile is never prepared. -/
theorem replyTo_prepare_of_error {id : String} {e : Failure}
    (h : c.catalog.compile id c.dialect = .error e) (state : σ) (rs : List (Nat × Request))
    (elapsed : Nat) : c.replyTo state rs (elapsed, .prepare id) = .failed e := by
  have hval := prepare_value (c.faithful_answerAll state rs) id
  rw [h] at hval
  simp only [replyTo, answer, Except.map_eq_error_iff.1 hval, Reply.ofResult]

end Client

/-! ## Agreement -/

namespace Catalog

variable {c : Catalog}

theorem Passes.of_validate (h : ∀ d, c.validate d = .ok ()) : c.Passes where
  validate := h
  check := Command.check_of_ok (h .unknown)
  runCheck := by
    rintro host path declaration hread rfl
    simp only [Command.runCheck, hread, Command.check_of_ok (h .unknown)]
  render d := Command.render_of_ok (h d)
  runCompile := by
    rintro host r declaration hread rfl hall
    obtain ⟨text, htext⟩ := Command.render_of_ok (h (r.source.resolve declaration))
    refine ⟨text, ?_⟩
    simp only [Command.runCompile, hread, hall, htext]
  client store settings := by
    rw [Client.validate_client_eq, h]
    rfl
  run store settings hstore := by
    intro client state rs a ha i hi
    have hfails : client.FailsWith (·.isMalformedTemplate = false) :=
      Client.failsWith_of_valid (h client.dialect) hstore
    cases Client.failed_of_answerAll hfails (.openDesk client state) ha hi

theorem StopsAt.of_leastMalformed {d : Dialect} {id : String} {i : Nat}
    (h : c.LeastMalformed d id i) : c.StopsAt id i := by
  have hvalidate : ∀ d', c.validate d' = .error (id, .malformedTemplate i) := fun d' =>
    (c.validate_eq_of_dialects d' d).trans (validate_eq_error_iff.2 ⟨i, rfl, h⟩)
  have hcheck := Command.check_of_error (hvalidate .unknown)
  exact {
    validate := hvalidate
    check := hcheck
    runCheck := by
      rintro host path declaration hread rfl
      simp only [Command.runCheck, hread, hcheck]
    render := fun d' => Command.render_of_error (hvalidate d')
    runCompile := by
      rintro host r declaration hread rfl hall
      simp only [Command.runCompile, hread, hall,
        Command.render_of_error (hvalidate (r.source.resolve declaration))]
    client := fun store settings => by
      rw [Client.validate_client_eq, hvalidate]
      rfl
    prepare := fun {σ ρ} store settings state rs elapsed => by
      obtain ⟨t, hid, ht⟩ := h.malformed
      have hcompile : c.compile id (Client.mk store c settings).dialect =
          .error (.malformedTemplate i) := by
        rw [Catalog.compile, hid]
        exact Template.compile_error_iff.2 (Template.compile_error_iff.1 ht)
      exact Client.replyTo_prepare_of_error hcompile state rs elapsed }

/-- The checks of a catalog agree under every dialect: either no statement is
malformed and all of them pass, or all of them stop at the malformed statement
whose id has the least UTF-8 bytes. -/
theorem checks_agree (c : Catalog) (d : Dialect) :
    ((∀ id i, ¬c.MalformedAt d id i) ∧ c.Passes) ∨
      ∃ id i, c.LeastMalformed d id i ∧ c.StopsAt id i := by
  rcases hd : c.validate d with ⟨id, e⟩ | u
  · obtain ⟨i, rfl, hleast⟩ := validate_eq_error_iff.1 hd
    exact .inr ⟨id, i, hleast, .of_leastMalformed hleast⟩
  · exact .inl ⟨validate_eq_ok_iff.1 hd,
      .of_validate fun d' => (c.validate_eq_of_dialects d' d).trans hd⟩

/-- Both verdicts. Of three malformed statements the one reported is neither the
first one written nor the shortest; a script never says that a statement is
malformed. -/
theorem checks_agree_on :
    let good : Catalog := KeyMap.ofList [("a", "x = :x")]
    let bad : Catalog := KeyMap.ofList [("é", ":e:"), ("b", ":x:"), ("a", "1"), ("ab", ":k:v")]
    (∀ (script : Script) (settings : Settings) rs,
      let client : Client (List Call) (List Value) := ⟨script.store, good, settings⟩
      ∀ a ∈ (client.answerAll (client.openDesk []) rs).1, ∀ i,
        a.1 ≠ .failed (.malformedTemplate i)) ∧
      bad.StopsAt "ab" 2 := by
  intro good bad
  have hgood : good.validate .unknown = .ok () := by decide +kernel
  have hbad : bad.validate .unknown = .error ("ab", .malformedTemplate 2) := by decide +kernel
  constructor
  · intro script settings rs
    rcases good.checks_agree .unknown with ⟨-, hpasses⟩ | ⟨id, i, hleast, -⟩
    · exact hpasses.run script.store settings
        (script.failsWith.imp fun _ => Failure.isMalformedTemplate_of_fromStore) [] rs
    · exact absurd hleast.malformed (validate_eq_ok_iff.1 hgood id i)
  · rcases bad.checks_agree .unknown with ⟨hnone, -⟩ | ⟨id, i, -, hstops⟩
    · obtain ⟨i, -, hleast⟩ := validate_eq_error_iff.1 hbad
      exact absurd hleast.malformed (hnone "ab" i)
    · have hsame := (hstops.validate .unknown).symm.trans hbad
      cases hsame
      exact hstops

end Catalog

end SqlCatalog
