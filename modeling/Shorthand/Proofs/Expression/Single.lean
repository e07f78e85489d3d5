import Mathlib.Tactic.Common
import Shorthand.Expression.Execute

/-!
# Expressions of a single token

The text of an expression is pasted behind `rc=`, and what is read, resolved and run is the program
that comes out.  If the text is a single token, all programs look alike, so they can be followed
once for all texts: a number is the value (`evaluate_of_int`), the name of a constant has the value
of the constant (`evaluate_of_name`), and a text whose program cannot be read has none
(`evaluate_of_program?_eq_none`).

There is one name that does not mean the constant.  The program assigns to `rc`, so `rc` is a global
of the program and hides a constant of that name, and it has no value yet when the expression is
computed.

What the token is depends on the characters of the text only, and is left to the files that know
them.  For them `tokens?_programText` gets the name and the equals sign out of the way, which is all
there is before the text if the text is a line (`tokens?_line`), and `tokensOnto_token` reads one
token.
-/

namespace Shorthand.Expression

/-! ## Reading a token -/

section tokens

variable {c : Char} {rest : List Char} {done : List Tok} {depth fuel : Nat} {widths : List Nat}

theorem plainLines_eq_self {chars : List Char} (h : ∀ c ∈ chars, c ≠ '\r') :
    plainLines chars = chars := by
  fun_induction plainLines chars with
  | case1 => rfl
  | case2 rest ih => simp at h
  | case3 rest hne ih => simp at h
  | case4 c rest hne hne' ih => rw [ih (List.forall_mem_cons.mp h).2]

/-- The characters that start no token: blanks, the ends of a line and of the text, a comment and
the mark that joins two lines. -/
def gapChars : List Char := [' ', '\t', '#', '\x00', '\n', '\\']

/-- All other characters have to start a token. -/
theorem tokensOnto_token (hc : c ∉ gapChars) :
    tokensOnto done depth widths (fuel + 1) false (c :: rest) =
      (readToken? (c :: rest)).bind fun read =>
        (depthAfter? depth read.1).bind fun depth =>
          tokensOnto (read.1 :: done) depth widths fuel false read.2 := by
  simp only [gapChars, List.mem_cons, List.not_mem_nil, or_false, not_or] at hc
  obtain ⟨hblank, htab, hcomment, hend, hline, hjoin⟩ := hc
  have hlead : skipComment ((c :: rest).dropWhile isBlank) = c :: rest := by
    have hnot : isBlank c = false := by simp [isBlank, hblank, htab]
    rw [List.dropWhile_cons, hnot]
    simp only [Bool.false_eq_true, if_false]
    unfold skipComment
    split
    · rename_i heq
      exact absurd (List.cons.inj heq).1 hcomment
    · rfl
  rw [tokensOnto, hlead]
  split
  · rename_i hnil
    cases hnil
  · rename_i heq
    exact absurd (List.cons.inj heq).1 hend
  · rename_i heq
    exact absurd (List.cons.inj heq).1 hline
  · rename_i heq
    exact absurd (List.cons.inj heq).1 hjoin
  · cases readToken? (c :: rest) with
    | none => rfl
    | some read =>
        simp only [Option.bind_some]
        cases depthAfter? depth read.1 <;> rfl

/-- The text ends with the line. -/
theorem tokensOnto_newline :
    tokensOnto done 0 [0] (fuel + 2) false ['\n'] = some (done.reverse ++ [.newline, .ending]) := by
  have hline : tokensOnto done 0 [0] (fuel + 2) false ['\n'] =
      some ((Tok.newline :: done).reverse ++ [.ending]) := rfl
  rw [hline, List.reverse_cons, List.append_assoc, List.singleton_append]

/-- An equals sign is a token, unless a second one follows. -/
theorem readMark?_assign (h : rest.head? ≠ some '=') :
    readMark? ('=' :: rest) = some (.assign, rest) := by
  rw [readMark?]
  intro later hlater
  rw [hlater] at h
  exact h rfl

/-- The program of a text starts with the name of the result and an equals sign. -/
theorem tokens?_programText {text : String} (h : text.toList.head? ≠ some '=') :
    tokens? (programText text) =
      tokensOnto [.mark .assign, .name resultName] 0 [0]
        (2 * (plainLines (text.toList ++ ['\n'])).length + 5) false
        (plainLines (text.toList ++ ['\n'])) := by
  have hchars : (programText text).toList = 'r' :: 'c' :: '=' :: (text.toList ++ ['\n']) := by
    simp [programText, resultName]
  have hplain : plainLines ('r' :: 'c' :: '=' :: (text.toList ++ ['\n'])) =
      'r' :: 'c' :: '=' :: plainLines (text.toList ++ ['\n']) := rfl
  have hhead : (plainLines (text.toList ++ ['\n'])).head? ≠ some '=' := by
    cases hchars : text.toList with
    | nil => decide
    | cons c rest =>
        rw [hchars, List.head?_cons, ne_eq, Option.some.injEq] at h
        rw [List.cons_append]
        unfold plainLines
        split <;> simp_all
  rw [tokens?, hchars, hplain]
  generalize plainLines (text.toList ++ ['\n']) = chars at hhead
  change tokensOnto [] 0 [0] (2 * chars.length + 5 + 3) true ('r' :: 'c' :: '=' :: chars) = _
  generalize 2 * chars.length + 5 = fuel
  have hname : tokensOnto [] 0 [0] (fuel + 3) true ('r' :: 'c' :: '=' :: chars) =
      tokensOnto [.name resultName] 0 [0] (fuel + 1) false ('=' :: chars) := rfl
  have hread : readToken? ('=' :: chars) = some (.mark .assign, chars) := by
    have hmark : readToken? ('=' :: chars) =
        (readMark? ('=' :: chars)).map fun read => (.mark read.1, read.2) := rfl
    rw [hmark, readMark?_assign hhead]
    rfl
  rw [hname, tokensOnto_token (by decide), hread]
  rfl

/-- The text is read as it is, unless it holds carriage returns. -/
theorem tokens?_line {text : String} (hhead : text.toList.head? ≠ some '=')
    (hreturn : '\r' ∉ text.toList) :
    tokens? (programText text) =
      tokensOnto [.mark .assign, .name resultName] 0 [0]
        (2 * (text.toList ++ ['\n']).length + 5) false (text.toList ++ ['\n']) := by
  have hplain : plainLines (text.toList ++ ['\n']) = text.toList ++ ['\n'] := by
    refine plainLines_eq_self fun c hc => ?_
    rcases List.mem_append.mp hc with hc | hc
    · rintro rfl
      exact hreturn hc
    · rw [List.mem_singleton.mp hc]
      decide
  rw [tokens?_programText hhead, hplain]

end tokens

/-! ## Programs of a single token -/

section programs

variable {known? : String → Option Int} {text : String}

/-- The tokens of a program that assigns a single token to the result. -/
def assigning (tok : Tok) : List Tok :=
  [.name resultName, .mark .assign, tok, .newline, .ending]

theorem parse?_assigning_int (n : Nat) :
    Parser.parse? (assigning (.int n)) = some [.assign (.name resultName) (.int n)] := rfl

theorem parse?_assigning_name (name : String) :
    Parser.parse? (assigning (.name name)) = some [.assign (.name resultName) (.name name)] := rfl

/-- A keyword has no value. -/
theorem parse?_assigning_keyword (word : Keyword) :
    Parser.parse? (assigning (.keyword word)) = none := by
  cases word <;> rfl

/-- The result is a global, whichever names are known. -/
theorem resolve?_int (n : Int) {fuel : Nat} (h : 2 ≤ fuel) :
    resolve? fuel known? [.assign (.name resultName) (.int n)] =
      some ⟨[.assign (.name (.global resultName)) (.int n)], 0⟩ := by
  obtain ⟨more, rfl⟩ := Nat.exists_eq_add_of_le' h
  rfl

/-- What is known at the only statement of a program. -/
def surroundings (known? : String → Option Int) : Scope.Surroundings :=
  ⟨[resultName], known?, [], false, false⟩

/-- A name stands for the result itself, or for a constant if it is one. -/
theorem find?_surroundings {name : String} {value : Int}
    (hvalue : known? name = some value) :
    (surroundings known?).find? name =
      some (if name = resultName then .global resultName else .constant value) := by
  by_cases hname : name = resultName
  · subst hname
    rfl
  · have hglobal : (surroundings known?).globals.contains name = false := by
      simpa [surroundings] using hname
    rw [if_neg hname, Scope.Surroundings.find?, hglobal]
    simp only [surroundings, Scope.findPlace?, hvalue, Bool.false_eq_true, if_false]

theorem resolve?_name {name : String} {ref : Ref}
    (hfind : (surroundings known?).find? name = some ref) {fuel : Nat} (h : 2 ≤ fuel) :
    resolve? fuel known? [.assign (.name resultName) (.name name)] =
      some ⟨[.assign (.name (.global resultName)) (.name ref)], 0⟩ := by
  obtain ⟨more, rfl⟩ := Nat.exists_eq_add_of_le' h
  have hexpr : Scope.expr (more + 1) (surroundings known?) (.name name) = pure (.name ref) := by
    simp only [Scope.expr, Scope.find, hfind, pure_bind]
  have hstmt : Scope.stmt (more + 2) (surroundings known?)
      (.assign (.name resultName) (.name name)) =
        pure (.assign (.name (.global resultName)) (.name ref)) := by
    simp only [Scope.stmt, hexpr]
    rfl
  have hall : [Stmt.assign (.name resultName) (.name name)].mapM
      (Scope.stmt (more + 2) (surroundings known?)) =
        pure [.assign (.name (.global resultName)) (.name ref)] := by
    rw [List.mapM_cons, hstmt, List.mapM_nil, pure_bind, pure_bind]
  exact congrArg (fun resolved : Scope.Resolve (List (Stmt Ref)) =>
    (resolved.run ⟨0, 0⟩).bind fun found => some (Program.mk found.1 found.2.place)) hall

/-- The value of an expression is what its program gives for the result. -/
theorem evaluate_of_execute {execution : Execution}
    (hexecute : execute known? (programText text) = execution) :
    evaluate known? text =
      ⟨execution.printed, (execution.integer? resultName).bind word?⟩ := by
  subst hexecute
  rfl

/-- A program that succeeds leaves its result among the globals. -/
theorem evaluate_of_run {program : Program} {fuel : Nat} {machine : Machine}
    (hprogram : program? known? (programText text) = some (program, fuel))
    (hrun : (runProgram fuel program).run Machine.start = (some (), machine)) :
    evaluate known? text =
      ⟨machine.printed.reverse.map fun line => String.ofList (characters line),
        ((machine.globals.lookup resultName).bind integerOf?).bind word?⟩ := by
  have hexecute : execute known? (programText text) =
      ⟨machine.printed.reverse.map fun line => String.ofList (characters line),
        fun name => (machine.globals.lookup name).bind integerOf?⟩ := by
    delta execute
    rw [hprogram]
    dsimp only
    rw [hrun]
  exact evaluate_of_execute hexecute

/-- A text that is no program has no value and prints nothing. -/
theorem evaluate_of_program?_eq_none (hprogram : program? known? (programText text) = none) :
    evaluate known? text = ⟨[], none⟩ := by
  have hexecute : execute known? (programText text) = ⟨[], fun _ => none⟩ := by
    delta execute
    rw [hprogram]
  exact evaluate_of_execute hexecute

theorem program?_of_tokens?_eq_none (htokens : tokens? (programText text) = none) :
    program? known? (programText text) = none := by
  rw [program?, htokens]
  rfl

theorem program?_of_parse?_eq_none {toks : List Tok}
    (htokens : tokens? (programText text) = some toks) (hparse : Parser.parse? toks = none) :
    program? known? (programText text) = none := by
  rw [program?, htokens, Option.bind_eq_bind, Option.bind_some, hparse]
  rfl

/-- The program that assigns an expression to the result. -/
def assignment (e : Expr Ref) : Program := ⟨[.assign (.name (.global resultName)) e], 0⟩

theorem program?_of_assigning {tok : Tok} {source : Expr String} {resolved : Expr Ref}
    (htokens : tokens? (programText text) = some (assigning tok))
    (hparse : Parser.parse? (assigning tok) = some [.assign (.name resultName) source])
    (hresolve : resolve? (treeDepth 5) known? [.assign (.name resultName) source] =
      some (assignment resolved)) :
    program? known? (programText text) = some (assignment resolved, runDepth 5) := by
  rw [program?, htokens]
  simp only [Option.bind_eq_bind, Option.bind_some, hparse]
  exact congrArg (Option.bind · fun program => some (program, runDepth 5)) hresolve

/-- The value of the only expression is the result. -/
theorem evaluate_of_eval {e : Expr Ref} {value : Int} {fuel : Nat}
    (hprogram : program? known? (programText text) = some (assignment e, fuel + 2))
    (heval : eval (fuel + 1) [0] e = pure (.int value)) :
    evaluate known? text = ⟨[], word? value⟩ := by
  have hexec : exec (fuel + 2) [0] (.assign (.name (.global resultName)) e) = (do
      Run.setGlobal resultName (.int value)
      return .onward) := by
    simp only [exec, heval, pure_bind]
    rfl
  have hrun : ∃ places, (runProgram (fuel + 2) (assignment e)).run Machine.start =
      (some (),
        { Machine.start with places := places, globals := [(resultName, .int value)] }) := by
    have hplaces : (runProgram (fuel + 2) (assignment e)).run Machine.start =
        (sequence (exec (fuel + 2) [0]) [.assign (.name (.global resultName)) e] >>=
            fun _ => pure ()).run
          { Machine.start with places := #[] ++ Array.replicate 0 none } := rfl
    rw [hplaces, sequence, hexec]
    exact ⟨_, rfl⟩
  obtain ⟨places, hrun⟩ := hrun
  rw [evaluate_of_run hprogram hrun]
  rfl

/-- The result has no value while it is computed. -/
theorem evaluate_of_result {fuel : Nat}
    (hprogram : program? known? (programText text) =
      some (assignment (.name (.global resultName)), fuel + 2)) :
    evaluate known? text = ⟨[], none⟩ := by
  have hrun : ∃ places,
      (runProgram (fuel + 2) (assignment (.name (.global resultName)))).run Machine.start =
        (none, { Machine.start with places := places }) := ⟨_, rfl⟩
  obtain ⟨places, hrun⟩ := hrun
  have hexecute : execute known? (programText text) = ⟨[], fun _ => none⟩ := by
    delta execute
    rw [hprogram]
    dsimp only
    rw [hrun]
    rfl
  exact evaluate_of_execute hexecute

/-- A number that is the only token is the value. -/
theorem evaluate_of_int {n : Nat}
    (htokens : tokens? (programText text) = some (assigning (.int n))) :
    evaluate known? text = ⟨[], word? n⟩ :=
  evaluate_of_eval (program?_of_assigning htokens (parse?_assigning_int n)
    (resolve?_int n (by decide))) rfl

/-- The name of a constant that is the only token has the value of the constant, unless it is the
name of the result. -/
theorem evaluate_of_name {name : String} {value : Int}
    (htokens : tokens? (programText text) = some (assigning (.name name)))
    (hvalue : known? name = some value) :
    evaluate known? text = ⟨[], if name = resultName then none else word? value⟩ := by
  have hprogram := program?_of_assigning htokens (parse?_assigning_name name)
    (resolve?_name (find?_surroundings hvalue) (by decide))
  by_cases hname : name = resultName
  · rw [if_pos hname] at hprogram ⊢
    exact evaluate_of_result hprogram
  · rw [if_neg hname] at hprogram ⊢
    exact evaluate_of_eval hprogram rfl

end programs

end Shorthand.Expression
