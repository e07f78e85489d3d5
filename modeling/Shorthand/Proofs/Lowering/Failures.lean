import Mathlib.Data.List.Basic
import Shorthand.Expression.Execute
import Shorthand.Proofs.Lowering.Predefined

/-!
# Failures are decided up to their line

A failure that shows on a line is decided by the source up to this line: whatever lines that can be
parsed stand after it, the compilation fails on the same line for the same reason
(`failsOn_continued`).

## Strategy

A compilation has two passes over the lines, and a failure of the second one is met only if the
first one came to the end of the source.

* If the parse fails on a line, then it has read all lines before this one, and looks at none after
  it (`exists_of_parseOnto_failure`, `parseOnto_of_failure`).
* If the lowering fails on a line, then the statements of the lines up to this one come first among
  those of the source, and the others have larger numbers (`statements_parse_append`).  So the
  failure is one of the lowering of the first ones alone, which comes to it whatever statements
  follow (`steps_append`).

What fails at the end of the source shows on no line, except that a line can be too long to be read;
then the failure shows on the line before, and has no code.
-/

namespace Shorthand

open Text Lowering

/-! ## Lines of a parse -/

section parse

variable {handlers : List Handler} {ending? : Option Problem} {done : List Located} {seen : Nat}
  {last : Place} {first rest lines : List String} {failure : Failure} {located : Located}

/-- The place stands for one of the lines, which come after as many lines as were seen. -/
def Place.IsOn (place : Place) (seen : Nat) (lines : List String) : Prop :=
  ∃ before raw after, lines = before ++ raw :: after ∧
    place = ⟨(seen + before.length + 1 : Nat), trim raw⟩

theorem Place.IsOn.head {raw : String} : Place.IsOn ⟨seen + 1, trim raw⟩ seen (raw :: rest) :=
  ⟨[], raw, rest, rfl, rfl⟩

theorem Place.IsOn.cons {place : Place} {raw : String} (h : place.IsOn (seen + 1) lines) :
    place.IsOn seen (raw :: lines) := by
  obtain ⟨before, found, after, rfl, rfl⟩ := h
  refine ⟨raw :: before, found, after, rfl, ?_⟩
  rw [List.length_cons, Nat.add_right_comm seen 1, Nat.add_assoc seen]

theorem Place.IsOn.lt_number {place : Place} (h : place.IsOn seen lines) : seen < place.number := by
  obtain ⟨before, raw, after, rfl, rfl⟩ := h
  dsimp only
  omega

/-- The statements of further lines follow on those before, and stand on these lines. -/
theorem statements_parseOnto (handlers : List Handler) (ending? : Option Problem)
    (done : List Located) (seen : Nat) (last : Place) (lines : List String) :
    ∃ later, (parseOnto handlers ending? done seen last lines).statements =
        done.reverse ++ later ∧ ∀ located ∈ later, located.place.IsOn seen lines := by
  induction lines generalizing done seen last with
  | nil => exact ⟨[], (List.append_nil _).symm, List.forall_mem_nil _⟩
  | cons raw lines ih =>
      cases hline : parseLine handlers (trim raw) with
      | error problem =>
          refine ⟨[], ?_, List.forall_mem_nil _⟩
          simp [parseOnto, hline]
      | ok statements =>
          obtain ⟨later, hlater, hplaces⟩ := ih
            ((statements.map (Located.mk ⟨seen + 1, trim raw⟩)).reverse ++ done) (seen + 1)
            ⟨seen + 1, trim raw⟩
          refine ⟨statements.map (Located.mk ⟨seen + 1, trim raw⟩) ++ later, ?_, ?_⟩
          · simp only [parseOnto, hline, hlater]
            simp
          · intro located hmem
            rcases List.mem_append.mp hmem with hhere | hlater
            · obtain ⟨statement, -, rfl⟩ := List.mem_map.mp hhere
              exact .head
            · exact (hplaces located hlater).cons

/-- A parse that fails on a line does not look at the lines after it. -/
theorem parseOnto_of_failure
    (h : (parseOnto handlers none done seen last first).failure? = some failure) :
    parseOnto handlers ending? done seen last (first ++ rest) =
      parseOnto handlers none done seen last first := by
  induction first generalizing done seen last with
  | nil => cases h
  | cons raw first ih =>
      cases hline : parseLine handlers (trim raw) with
      | error problem => simp [parseOnto, hline]
      | ok statements =>
          simp only [parseOnto, hline, List.cons_append] at h ⊢
          exact ih h

/-- A parse that does not fail goes on with the lines that follow. -/
theorem parseOnto_append (ending? : Option Problem) (rest : List String)
    (h : (parseOnto handlers none done seen last first).failure? = none) :
    ∃ place, parseOnto handlers ending? done seen last (first ++ rest) =
      parseOnto handlers ending? (parseOnto handlers none done seen last first).statements.reverse
        (seen + first.length) place rest := by
  induction first generalizing done seen last with
  | nil => exact ⟨last, by simp [parseOnto]⟩
  | cons raw first ih =>
      cases hline : parseLine handlers (trim raw) with
      | error problem => simp [parseOnto, hline] at h
      | ok statements =>
          simp only [parseOnto, hline] at h
          obtain ⟨place, hplace⟩ := ih h
          refine ⟨place, ?_⟩
          simp only [List.cons_append, parseOnto, hline, hplace, List.length_cons]
          rw [Nat.add_right_comm, Nat.add_assoc]

/-- The statements of lines that follow come last, and have larger numbers. -/
theorem statements_parse_append (ending? : Option Problem) (rest : List String)
    (h : (parse handlers ⟨first, none⟩).failure? = none) :
    ∃ later, (parse handlers ⟨first ++ rest, ending?⟩).statements =
        (parse handlers ⟨first, none⟩).statements ++ later ∧
      ∀ located ∈ later, first.length < located.place.number := by
  obtain ⟨place, hplace⟩ := parseOnto_append ending? rest h
  obtain ⟨later, hlater, hplaces⟩ := statements_parseOnto handlers ending?
    (parse handlers ⟨first, none⟩).statements.reverse (0 + first.length) place rest
  refine ⟨later, ?_, fun located hmem => ?_⟩
  · rw [parse, hplace]
    exact hlater.trans (by rw [List.reverse_reverse])
  · have hnumber := (hplaces located hmem).lt_number
    omega

/-- A parse fails on the first line with a problem, or at the end of the lines. -/
theorem exists_of_parseOnto_failure
    (h : (parseOnto handlers ending? done seen last lines).failure? = some failure) :
    (∃ before raw after, lines = before ++ raw :: after ∧
      (parseOnto handlers none done seen last (before ++ [raw])).failure? = some failure ∧
      failure.place? = some ⟨(seen + before.length + 1 : Nat), trim raw⟩) ∨
      ending? = some failure.problem := by
  induction lines generalizing done seen last with
  | nil =>
      obtain ⟨problem, hproblem, rfl⟩ := Option.map_eq_some_iff.mp h
      exact .inr hproblem
  | cons raw lines ih =>
      cases hline : parseLine handlers (trim raw) with
      | error problem =>
          simp only [parseOnto, hline, Option.some.injEq] at h
          subst h
          refine .inl ⟨[], raw, lines, rfl, ?_, rfl⟩
          simp [parseOnto, hline]
      | ok statements =>
          simp only [parseOnto, hline] at h
          refine (ih h).imp_left ?_
          rintro ⟨before, found, after, rfl, hfound, hplace⟩
          refine ⟨raw :: before, found, after, rfl, ?_, ?_⟩
          · simp only [List.cons_append, parseOnto, hline]
            exact hfound
          · rw [hplace, List.length_cons, Nat.add_right_comm seen 1, Nat.add_assoc seen]

/-- A parse comes to the end of the lines if it does so for both parts of them. -/
theorem parse_failure?_append_iff :
    (parse handlers ⟨first ++ rest, ending?⟩).failure? = none ↔
      (parse handlers ⟨first, none⟩).failure? = none ∧
        (parse handlers ⟨rest, ending?⟩).failure? = none := by
  have hfirst := (parse_readLines handlers ⟨first, none⟩).2
  have hrest := (parse_readLines handlers ⟨rest, ending?⟩).2
  have hwhole := (parse_readLines handlers ⟨first ++ rest, ending?⟩).2
  rw [readLines_append] at hwhole
  rw [Option.or_none] at hfirst
  rw [← Option.map_eq_none_iff (f := Failure.problem), hwhole,
    ← Option.map_eq_none_iff (f := Failure.problem), hfirst,
    ← Option.map_eq_none_iff (f := Failure.problem), hrest]
  cases (readLines handlers first).2 <;> simp

end parse

/-! ## Failures of a lowering -/

namespace Lowering

variable [Interpreter] {predefined : List (String × String)} {state : State}
  {located : List Located}
  {interrupted : Interrupted}

/-- Lowering is interrupted by one of the statements. -/
theorem exists_of_steps_error (h : steps predefined state located = .error interrupted) :
    ∃ statement ∈ located, interrupted.place? = some statement.place := by
  induction located generalizing state with
  | nil => cases h
  | cons first rest ih =>
      rw [steps_cons] at h
      cases hstep : step predefined state first with
      | error stop =>
          rw [hstep] at h
          cases h
          exact ⟨first, List.mem_cons_self, rfl⟩
      | ok state' =>
          rw [hstep] at h
          obtain ⟨statement, hmem, hplace⟩ := ih h
          exact ⟨statement, List.mem_cons_of_mem _ hmem, hplace⟩

/-- What interrupts a lowering on a line is met by the steps, and not at the end. -/
theorem steps_of_lower_error {place : Place}
    (h : lower predefined located = .error interrupted)
    (hplace : interrupted.place? = some place) :
    steps predefined .start located = .error interrupted := by
  unfold lower at h
  split at h
  · rename_i hsteps
    cases h
    exact hsteps
  · split at h
    · cases h
    · cases h
      cases hplace

theorem lower_of_steps_error (h : steps predefined .start located = .error interrupted) :
    lower predefined located = .error interrupted := by
  rw [lower, h]

end Lowering

/-! ## Failures of a compilation -/

namespace Compiler

variable [Interpreter] {compiler : Compiler} {source : Source} {problem : Problem} {place : Place}

/-- The compilation fails on the line, with the problem. -/
def FailsOn (compiler : Compiler) (source : Source) (place : Place) (problem : Problem) : Prop :=
  (compiler.compile source).outcome = .error (.failure (.on place problem))

instance : Decidable (compiler.FailsOn source place problem) :=
  match h : (compiler.compile source).outcome with
  | .ok _ => .isFalse fun hfails => nomatch h.symm.trans hfails
  | .error rejection =>
      decidable_of_iff (rejection = .failure (.on place problem))
        ⟨fun hsame => h.trans (congrArg Except.error hsame),
          fun hfails => Except.error.inj (h.symm.trans hfails)⟩

/-- A compilation that fails on a line fails in the parse, or in one of the steps. -/
theorem FailsOn.parse_or_steps
    (h : compiler.FailsOn source place problem) :
    (parse compiler.handlers source).failure? = some (.on place problem) ∨
      (parse compiler.handlers source).failure? = none ∧ ∃ events,
        steps compiler.predefined .start (parse compiler.handlers source).statements =
          .error ⟨.problem problem, some place, events⟩ := by
  cases hparsed : (parse compiler.handlers source).failure? with
  | some failure =>
      rw [FailsOn, outcome_of_failure hparsed] at h
      cases h
      exact .inl rfl
  | none =>
      rw [FailsOn, outcome_of_parsed hparsed] at h
      refine .inr ⟨rfl, ?_⟩
      cases hlower : lower compiler.predefined (parse compiler.handlers source).statements with
      | ok result =>
          rw [hlower] at h
          cases h
      | error interrupted =>
          obtain ⟨halt, place?, events⟩ := interrupted
          rw [hlower] at h
          cases halt with
          | fault fault => cases h
          | problem reason =>
              cases h
              exact ⟨events, steps_of_lower_error hlower rfl⟩

/-- A failure of the parse on a line is met whatever lines follow. -/
theorem failsOn_of_parse_failure {lines : List String} {ending? : Option Problem}
    (h : (parse compiler.handlers ⟨lines, ending?⟩).failure? = some (.on place problem))
    (hending : ending? ≠ some problem) :
    ∃ before raw after, lines = before ++ raw :: after ∧
      place = ⟨(before.length + 1 : Nat), trim raw⟩ ∧
      ∀ rest ending?', compiler.FailsOn ⟨before ++ raw :: rest, ending?'⟩ place problem := by
  obtain ⟨before, raw, after, rfl, hfront, hplace⟩ :=
    (exists_of_parseOnto_failure h).resolve_right hending
  refine ⟨before, raw, after, rfl, ?_, fun rest ending?' => ?_⟩
  · cases hplace
    rw [Nat.zero_add]
  · refine outcome_of_failure ?_
    rw [List.append_cons, parse, parseOnto_of_failure hfront, hfront]

/-- A failure of the lowering on a line is met whatever lines that can be parsed follow. -/
theorem failsOn_of_steps_error {lines : List String} {ending? : Option Problem}
    {events : List Event} (hparsed : (parse compiler.handlers ⟨lines, ending?⟩).failure? = none)
    (h : steps compiler.predefined .start (parse compiler.handlers ⟨lines, ending?⟩).statements =
      .error ⟨.problem problem, some place, events⟩) :
    ∃ before raw after, lines = before ++ raw :: after ∧
      place = ⟨(before.length + 1 : Nat), trim raw⟩ ∧
      ∀ rest ending?', (parse compiler.handlers ⟨rest, ending?'⟩).failure? = none →
        compiler.FailsOn ⟨before ++ raw :: rest, ending?'⟩ place problem := by
  obtain ⟨located, hmem, hplace⟩ := exists_of_steps_error h
  obtain rfl : place = located.place := Option.some.inj hplace
  obtain ⟨statements, hstatements, hplaces⟩ := statements_parseOnto compiler.handlers ending? [] 0
    Place.start lines
  have hlines : located ∈ statements := by
    rw [parse, hstatements] at hmem
    exact hmem
  obtain ⟨before, raw, after, rfl, hnumber⟩ := hplaces located hlines
  rw [Nat.zero_add] at hnumber
  refine ⟨before, raw, after, rfl, hnumber, fun rest ending?' hrest => ?_⟩
  rw [List.append_cons] at hparsed h ⊢
  have hfront := (parse_failure?_append_iff.mp hparsed).1
  obtain ⟨later, hlater, hbeyond⟩ := statements_parse_append ending? after hfront
  -- the first lines alone come to the failure, since it shows on none of the others
  have hsteps : steps compiler.predefined .start
      (parse compiler.handlers ⟨before ++ [raw], none⟩).statements =
        .error ⟨.problem problem, some located.place, events⟩ := by
    rw [hlater, steps_append] at h
    cases hstate : steps compiler.predefined .start
        (parse compiler.handlers ⟨before ++ [raw], none⟩).statements with
    | error interrupted =>
        rw [hstate] at h
        exact h
    | ok state =>
        rw [hstate] at h
        obtain ⟨other, hother, hsame⟩ := exists_of_steps_error h
        have hlarge := hbeyond other hother
        rw [← Option.some.inj hsame, hnumber, List.length_append, List.length_singleton] at hlarge
        exact absurd hlarge (Int.lt_irrefl _)
  obtain ⟨others, hothers, -⟩ := statements_parse_append ending?' rest hfront
  rw [FailsOn, outcome_of_parsed (parse_failure?_append_iff.mpr ⟨hfront, hrest⟩), hothers,
    lower_of_steps_error (by rw [steps_append, hsteps])]
  rfl

/-- A failure on a line is met whatever lines that can be parsed follow on this line, if it is no
failure to read the lines. -/
theorem failsOn_of_failsOn {lines : List String} {ending? : Option Problem}
    (h : compiler.FailsOn ⟨lines, ending?⟩ place problem)
    (hending : ending? ≠ some problem) :
    ∃ before raw after, lines = before ++ raw :: after ∧
      place = ⟨(before.length + 1 : Nat), trim raw⟩ ∧
      ∀ rest ending?', (parse compiler.handlers ⟨rest, ending?'⟩).failure? = none →
        compiler.FailsOn ⟨before ++ raw :: rest, ending?'⟩ place problem := by
  rcases FailsOn.parse_or_steps h with hparse | ⟨hparsed, events, hsteps⟩
  · obtain ⟨before, raw, after, hlines, hplace, hall⟩ :=
      failsOn_of_parse_failure hparse hending
    exact ⟨before, raw, after, hlines, hplace, fun rest ending?' _ => hall rest ending?'⟩
  · exact failsOn_of_steps_error hparsed hsteps

end Compiler

/-! ## Failures of a source -/

theorem Source.ending?_ofBytes_ne (bytes : List UInt8) {problem : Problem} {code : Code}
    (hcode : problem.code? = some code) : (ofBytes bytes).ending? ≠ some problem := by
  rw [ofBytes]
  dsimp only
  split
  · rintro ⟨⟩
  · rintro ⟨⟩
    cases hcode

/-- **A located failure is decided by the source up to its line.**  If a compilation fails on a line
with a problem that has a code, then the line is one of the source, with its number and its text.
Every source that begins with the same lines up to this one, and goes on with any lines that are
parsed without a failure or ends there, fails on this line with the same problem. -/
theorem failsOn_continued [Interpreter] {compiler : Compiler} {bytes : List UInt8} {place : Place}
    {problem : Problem} {code : Code}
    (hfailure : compiler.FailsOn (.ofBytes bytes) place problem)
    (hcode : problem.code? = some code) :
    ∃ before line after, Source.split bytes = before ++ line :: after ∧
      place = ⟨(before.length + 1 : Nat), trim (Source.lineText line)⟩ ∧
      ∀ bytes' rest, Source.split bytes' = before ++ line :: Source.split rest →
        (parse compiler.handlers (.ofBytes rest)).failure? = none →
        compiler.FailsOn (.ofBytes bytes') place problem := by
  obtain ⟨before, raw, after, hlines, hplace, hall⟩ :=
    Compiler.failsOn_of_failsOn hfailure (Source.ending?_ofBytes_ne bytes hcode)
  -- the lines up to the failure were read, so none of them is too long
  obtain ⟨front, back, hfits, rfl, hback⟩ := List.map_eq_append_iff.mp hlines
  obtain ⟨line, after, rfl, rfl, rfl⟩ := List.map_eq_cons_iff.mp hback
  rw [List.append_cons] at hfits
  have hread : ∀ old ∈ front ++ [line], Source.fits old = true := by
    have hall : ((Source.split bytes).takeWhile Source.fits).all Source.fits = true :=
      List.all_takeWhile
    rw [hfits, List.all_append, Bool.and_eq_true] at hall
    exact List.all_eq_true.mp hall.1
  refine ⟨front, line, after ++ (Source.split bytes).dropWhile Source.fits, ?_, ?_, ?_⟩
  · rw [← List.cons_append, ← List.append_assoc, List.append_cons, ← hfits,
      List.takeWhile_append_dropWhile]
  · rw [hplace, List.length_map]
    rfl
  · intro bytes' rest hsplit hrest
    rw [List.append_cons] at hsplit
    rw [Source.ofBytes_of_fits hsplit hread, List.map_append, List.map_singleton, List.append_assoc]
    exact hall _ _ hrest

/-- A program that divides by an immediate value, with statements on the lines after it. -/
def dividedProgram : String := "compile:\nmain:\n r1 = r2 / 3\nr4 = r5\nend\n"

theorem dividedProgram_failsOn :
    Compiler.standard.FailsOn (.ofText dividedProgram) ⟨3, "r1 = r2 / 3"⟩
        (.withTexts .divideImmediate ["3"]) ∧
      ∀ bytes' rest, Source.split bytes' =
          ["compile:".toUTF8.toList, "main:".toUTF8.toList, " r1 = r2 / 3".toUTF8.toList] ++
            Source.split rest →
        (parse Handler.all (.ofBytes rest)).failure? = none →
        Compiler.standard.FailsOn (.ofBytes bytes') ⟨3, "r1 = r2 / 3"⟩
          (.withTexts .divideImmediate ["3"]) := by
  have hfails : Compiler.standard.FailsOn (.ofText dividedProgram) ⟨3, "r1 = r2 / 3"⟩
      (.withTexts .divideImmediate ["3"]) := by
    decide +kernel
  refine ⟨hfails, ?_⟩
  obtain ⟨before, line, after, hsplit, hplace, hall⟩ :=
    @failsOn_continued _ Compiler.standard dividedProgram.toUTF8.toList _ _ .divideImmediate hfails
      rfl
  have hlines : Source.split dividedProgram.toUTF8.toList =
      ["compile:".toUTF8.toList, "main:".toUTF8.toList, " r1 = r2 / 3".toUTF8.toList,
        "r4 = r5".toUTF8.toList, "end".toUTF8.toList] := by
    decide +kernel
  have hlength : before.length = 2 := by
    have hnumber := congrArg Place.number hplace
    dsimp only at hnumber
    omega
  obtain ⟨first, second, rfl⟩ := List.length_eq_two.mp hlength
  obtain ⟨rfl, rfl, rfl, -⟩ : first = _ ∧ second = _ ∧ line = _ ∧ after = _ := by
    simpa only [List.cons_append, List.nil_append, List.cons.injEq] using hsplit.symm.trans hlines
  exact hall

end Shorthand
