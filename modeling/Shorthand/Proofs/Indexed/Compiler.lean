import Shorthand.Compiler
import Shorthand.Proofs.Indexed.Dispatch
import Shorthand.Proofs.Indexed.Lowering

/-!
# Compilation is never trapped

A whole compilation, where lines are lexed and dispatched by position and code is filled in shared
containers.  Each of its functions looks at an index, cuts a slice or adds to a container wherever
it has to, and any of these can be a trap.  For every source, every list of families and all
constants that are given before, none of them is one, and the report is that of `Compiler.compile`
(`compile_never_traps`).
-/

namespace Shorthand

namespace Indexed

open Attempt

/-! ## Parsing -/

/-- The statements of one line. -/
def parseLine (handlers : List Handler) (line : String) : Attempt Problem (List Statement) := do
  let lexed ← lex line
  match lexed.problem? with
  | some problem => .error problem
  | none => dispatch handlers lexed.tokens

theorem parseLine_eq (handlers : List Handler) (line : String) :
    parseLine handlers line = safe (Shorthand.parseLine handlers line) := by
  rw [parseLine, lex_eq, ok_bind, Shorthand.parseLine]
  cases (Shorthand.lex line).problem? with
  | some problem => rfl
  | none => exact dispatch_eq handlers _

/-- Goes on with the lines after `last`; `done` are the statements before.  The number of lines that
were looked at is given with the statements and with a failure. -/
def parseOnto (handlers : List Handler) (ending? : Option Problem) (done : List Located)
    (seen : Nat) (last : Place) : List String → Attempt (Failure × Nat) (List Located × Nat)
  | [] =>
      match ending? with
      | some problem => .error (.on last problem, seen)
      | none => .ok (done, seen)
  | raw :: rest =>
      let place : Place := ⟨seen + 1, Text.trim raw⟩
      match parseLine handlers place.line with
      | .trapped trap => .trapped trap
      | .error problem => .error (.on place problem, seen + 1)
      | .ok statements =>
          parseOnto handlers ending? (done ++ statements.map (Located.mk place)) (seen + 1) place
            rest

/-- The statements of a source. -/
def parseSource (handlers : List Handler) (source : Source) :
    Attempt (Failure × Nat) (List Located × Nat) :=
  parseOnto handlers source.ending? [] 0 Place.start source.lines

/-- What was parsed, as an attempt. -/
def ofParsed (parsed : Parsed) : Attempt (Failure × Nat) (List Located × Nat) :=
  match parsed.failure? with
  | some failure => .error (failure, parsed.seen)
  | none => .ok (parsed.statements, parsed.seen)

theorem parseOnto_eq (handlers : List Handler) (ending? : Option Problem) (done : List Located)
    (seen : Nat) (last : Place) (lines : List String) :
    parseOnto handlers ending? done.reverse seen last lines =
      ofParsed (Shorthand.parseOnto handlers ending? done seen last lines) := by
  induction lines generalizing done seen last with
  | nil => cases ending? <;> rfl
  | cons raw rest ih =>
      rw [parseOnto, Shorthand.parseOnto]
      dsimp only
      rw [parseLine_eq]
      cases Shorthand.parseLine handlers (Text.trim raw) with
      | error problem => rfl
      | ok statements =>
          rw [← ih, List.reverse_append, List.reverse_reverse]
          rfl

theorem parseSource_eq (handlers : List Handler) (source : Source) :
    parseSource handlers source = ofParsed (Shorthand.parse handlers source) :=
  parseOnto_eq handlers source.ending? [] 0 Place.start source.lines

/-! ## Compiling -/

/-- Compiles a source, unless there is a trap. -/
def compile [Interpreter] (compiler : Compiler) (source : Source) : Except Trap Report :=
  match parseSource compiler.handlers source with
  | .trapped trap => .error trap
  | .error (failure, seen) =>
      .ok ⟨.error (.failure failure), Compiler.readEvents source seen⟩
  | .ok (statements, seen) =>
      let reading := Compiler.readEvents source seen
      match lower compiler.predefined statements with
      | .trapped trap => .error trap
      | .error interrupted =>
          .ok ⟨.error (Compiler.rejection interrupted), reading ++ interrupted.events.reverse⟩
      | .ok (listing, events) => .ok ⟨.ok listing, reading ++ events.reverse⟩

end Indexed

/-- A compilation ends, and is never trapped: no position is out of range, no block is put into a
second place, nothing is added to a sealed block or where there is no append point, and there is no
statement without an instruction.  It gives a listing or a failure. -/
theorem compile_never_traps [Interpreter] (compiler : Compiler) (source : Source) :
    Indexed.compile compiler source = .ok (compiler.compile source) ∧
      ((∃ listing, (compiler.compile source).outcome = .ok listing) ∨
        ∃ failure, (compiler.compile source).outcome = .error (.failure failure)) := by
  unfold Indexed.compile Compiler.compile
  rw [Indexed.parseSource_eq]
  generalize Shorthand.parse compiler.handlers source = parsed
  obtain ⟨statements, failure?, seen⟩ := parsed
  cases failure? with
  | some failure => exact ⟨rfl, .inr ⟨failure, rfl⟩⟩
  | none =>
      simp only [Indexed.ofParsed]
      rcases Indexed.lower_follow compiler.predefined statements with
        ⟨result, hlower, hstate⟩ | ⟨problem, place?, events, hlower, hstate⟩
      · rw [hlower, hstate]
        exact ⟨rfl, .inl ⟨result.1, rfl⟩⟩
      · rw [hlower, hstate]
        exact ⟨rfl, .inr ⟨⟨problem, place?⟩, rfl⟩⟩

end Shorthand
