import Mathlib.Data.List.DropRight
import Shorthand.Proofs.Expression.Names
import Shorthand.Proofs.Lowering.Updates
import Shorthand.Proofs.Syntax.ConstantLines

/-!
# Constants whose value is an expression

A constant whose value is a single expression stands for the value of that expression.  Whether it
is one is decided by lexing the value, which passes over white space, but what is evaluated is the
value itself, without `$(` at its start and `)` at its end.  White space around the expression hides
both of them.

* **Nothing around it.**  The inside of the expression is evaluated.  On the line of a constant it
  is always like this, since the value is put together from its tokens.
* **White space after it.**  The closing parenthesis stays, and is read as a part of the inside.
* **White space before it.**  The dollar sign stays, no token starts with one, and so nothing is
  ever evaluated (`evaluate_of_dollar`).

## Strategy

`exists_parts` cuts the value into the white space around the expression, its delimiters and its
inside, and `toList_expressionBody` says what is left of the parts.  That no program is read up to
the dollar sign is shown by induction on the fuel: between the name of the result and the sign there
is only white space, which may end lines and change the indentation, but never is a token
(`tokensOnto_dollar`).
-/

namespace Shorthand

open Text

/-! ## Programs with a dollar sign -/

namespace Expression

theorem isDigit_of_isDecimal {c : Char} (h : Literal.isDecimal c = true) : isDigit c = true := by
  rw [Literal.isDecimal, Bool.and_eq_true, decide_eq_true_eq, decide_eq_true_eq] at h
  have hpoint : 48 ≤ c.toNat ∧ c.toNat ≤ 57 := h
  have hranges : digitRanges = (0x30, 0x39) :: digitRanges.drop 1 := rfl
  rw [isDigit, hranges, Ranges.holds, if_neg (by omega), if_pos (by omega)]

/-- The words of expressions have no other characters than names. -/
theorem isIdentPart_of_continuesName {c : Char} (h : continuesName c = true) :
    isIdentPart c = true := by
  rw [continuesName, startsName, Bool.or_eq_true] at h
  rw [isIdentPart, Bool.or_eq_true]
  exact h.imp_right isDigit_of_isDecimal

/-- White space is a sign of no kind, and starts no word. -/
theorem of_isSpace {c : Char} (hc : isSpace c = true) :
    continuesName c = false ∧ c ∉ '\x00' :: '#' :: '\\' :: '=' :: signs := by
  constructor
  · have hnot := isIdentPart_of_isSpace hc
    exact Bool.eq_false_iff.mpr fun hpart =>
      Bool.eq_false_iff.mp hnot (isIdentPart_of_continuesName hpart)
  · have hnone : ('\x00' :: '#' :: '\\' :: '=' :: signs).any isSpace = false := by decide
    exact fun hmem => List.any_eq_false.mp hnone c hmem hc

section dollar

variable {blanks rest : List Char} {done : List Tok} {depth : Nat} {widths : List Nat}

/-- Indentation is white space. -/
theorem indentation_dollar (hblanks : ∀ c ∈ blanks, isSpace c = true) (seen width : Nat) :
    ∃ width' blanks', indentation seen width (blanks ++ '$' :: rest) =
      (width', blanks' ++ '$' :: rest) ∧ blanks' ⊆ blanks := by
  induction blanks generalizing seen width with
  | nil => exact ⟨width, [], rfl, fun _ h => h⟩
  | cons c blanks ih =>
      have hrest : ∀ d ∈ blanks, isSpace d = true := (List.forall_mem_cons.mp hblanks).2
      by_cases hspace : c = ' '
      · subst hspace
        obtain ⟨width', blanks', heq, hsubset⟩ := ih hrest (seen + 1) (width + 1)
        exact ⟨width', blanks', heq, fun d hd => List.mem_cons_of_mem _ (hsubset hd)⟩
      · by_cases htab : c = '\t'
        · subst htab
          obtain ⟨width', blanks', heq, hsubset⟩ := ih hrest (seen + 1) (width + (8 - seen % 8))
          exact ⟨width', blanks', heq, fun d hd => List.mem_cons_of_mem _ (hsubset hd)⟩
        · refine ⟨width, c :: blanks, ?_, fun _ h => h⟩
          rw [List.cons_append, indentation]
          · rintro rest' heq
            exact hspace (List.cons.inj heq).1
          · rintro rest' heq
            exact htab (List.cons.inj heq).1

theorem dropWhile_dollar :
    (blanks ++ '$' :: rest).dropWhile isBlank = blanks.dropWhile isBlank ++ '$' :: rest := by
  rw [List.dropWhile_append]
  cases blanks.dropWhile isBlank <;> rfl

/-- Blanks inside a line are passed over. -/
theorem tokensOnto_blanks {fuel : Nat} {chars : List Char} :
    tokensOnto done depth widths (fuel + 1) false chars =
      tokensOnto done depth widths (fuel + 1) false (chars.dropWhile isBlank) := by
  rw [tokensOnto, tokensOnto, List.dropWhile_idempotent]

/-- No text is read in which there is only white space before a dollar sign. -/
theorem tokensOnto_dollar (hblanks : ∀ c ∈ blanks, isSpace c = true) (fuel : Nat)
    (lineStart : Bool) :
    tokensOnto done depth widths fuel lineStart (blanks ++ '$' :: rest) = none := by
  induction fuel generalizing done depth widths lineStart blanks with
  | zero => rfl
  | succ fuel ih =>
      cases lineStart with
      | true =>
          obtain ⟨width, blanks', hindentation, hsubset⟩ :=
            @indentation_dollar blanks rest hblanks 0 0
          have hblanks' : ∀ c ∈ blanks', isSpace c = true := fun c hc => hblanks c (hsubset hc)
          rw [tokensOnto, hindentation]
          dsimp only
          split
          · rename_i hline
            cases blanks' with
            | nil => simp [isEnd] at hline
            | cons c blanks' =>
                have hc := (of_isSpace (hblanks' c (List.mem_cons_self ..))).2
                simp only [List.mem_cons, not_or] at hc
                obtain rfl : c = '\n' := by simpa [isEnd, hc.1, hc.2.1] using hline
                exact ih (fun d hd => hblanks' d (List.mem_cons_of_mem _ hd)) true
          · split
            · exact ih hblanks' false
            · split
              · exact ih hblanks' false
              · rfl
      | false =>
          rw [tokensOnto_blanks, dropWhile_dollar]
          have hrest : ∀ c ∈ blanks.dropWhile isBlank, isSpace c = true := fun c hc =>
            hblanks c ((List.dropWhile_suffix isBlank).subset hc)
          have hhead := List.head?_dropWhile_not isBlank blanks
          cases hdrop : blanks.dropWhile isBlank with
          | nil => exact tokensOnto_foreign (by decide) (by decide) (by decide)
          | cons c blanks' =>
              rw [hdrop] at hrest hhead
              obtain ⟨hc, hblanks'⟩ := List.forall_mem_cons.mp hrest
              by_cases hline : c = '\n'
              · subst hline
                exact ih hblanks' true
              · obtain ⟨hword, hsigns⟩ := of_isSpace hc
                have hgap : c ∉ gapChars := by
                  have hblank : c ≠ ' ' ∧ c ≠ '\t' := by simpa [isBlank] using hhead
                  simp only [List.mem_cons, not_or] at hsigns
                  simp [gapChars, hblank, hline, hsigns]
                refine tokensOnto_foreign hword (fun hmem => hsigns ?_) hgap
                exact List.mem_cons_of_mem _ (List.mem_cons_of_mem _ (List.mem_cons_of_mem _
                  (List.mem_cons_of_mem _ hmem)))

/-- The ends of lines are white space, however they are written. -/
theorem plainLines_dollar (hblanks : ∀ c ∈ blanks, isSpace c = true) :
    ∃ blanks', plainLines (blanks ++ '$' :: rest) = blanks' ++ '$' :: plainLines rest ∧
      ∀ c ∈ blanks', isSpace c = true := by
  have hline : isSpace '\n' = true := by decide
  induction blanks using plainLines.induct with
  | case1 => exact ⟨[], rfl, nofun⟩
  | case2 blanks ih =>
      obtain ⟨blanks', heq, hblanks'⟩ := ih fun c hc => hblanks c (by simp [hc])
      refine ⟨'\n' :: blanks', ?_, List.forall_mem_cons.mpr ⟨hline, hblanks'⟩⟩
      rw [List.cons_append, List.cons_append, plainLines, heq, List.cons_append]
  | case3 blanks hnext ih =>
      obtain ⟨blanks', heq, hblanks'⟩ := ih fun c hc => hblanks c (by simp [hc])
      refine ⟨'\n' :: blanks', ?_, List.forall_mem_cons.mpr ⟨hline, hblanks'⟩⟩
      rw [List.cons_append, plainLines, heq, List.cons_append]
      intro more hmore
      cases blanks with
      | nil => simp at hmore
      | cons d blanks => exact hnext blanks (by rw [(List.cons.inj hmore).1])
  | case4 c blanks hpair hreturn ih =>
      obtain ⟨blanks', heq, hblanks'⟩ := ih fun d hd => hblanks d (by simp [hd])
      refine ⟨c :: blanks', ?_, List.forall_mem_cons.mpr ⟨hblanks c (by simp), hblanks'⟩⟩
      rw [List.cons_append, plainLines, heq, List.cons_append]
      · exact fun _ hc _ => hreturn hc
      · exact hreturn

/-- A text with only white space before a dollar sign has no value, if there is any. -/
theorem evaluate_of_dollar {known? : String → Option Int} {text : String}
    (htext : text.toList = blanks ++ '$' :: rest) (hblanks : ∀ c ∈ blanks, isSpace c = true) :
    evaluate known? text = ⟨[], none⟩ := by
  have hhead : text.toList.head? ≠ some '=' := by
    rw [htext]
    cases blanks with
    | nil => simp
    | cons c blanks =>
        have hc := (of_isSpace (hblanks c (List.mem_cons_self ..))).2
        simp only [List.mem_cons, not_or] at hc
        simpa using hc.2.2.2.1
  obtain ⟨blanks', hplain, hblanks'⟩ := @plainLines_dollar blanks (rest ++ ['\n']) hblanks
  refine evaluate_of_program?_eq_none (program?_of_tokens?_eq_none ?_)
  rw [tokens?_programText hhead, htext, List.append_assoc, List.cons_append, hplain]
  exact tokensOnto_dollar hblanks' _ false

end dollar

end Expression

/-! ## The parts of a value -/

namespace Lowering

/-- The characters of an expression with white space around it. -/
def spacedExpression (before inside after : List Char) : List Char :=
  before ++ '$' :: '(' :: (inside ++ ')' :: after)

/-- A value whose only token is an expression is this expression, with white space around it. -/
theorem exists_parts {value : String} {tok : Token} (hlex : lex value = ⟨[tok], none⟩)
    (hkind : tok.kind = .expr) :
    ∃ before inside after : List Char,
      value.toList = spacedExpression before inside after ∧
      tok.text.toList = spacedExpression [] inside [] ∧
      (∀ c ∈ before, isSpace c = true) ∧ ∀ c ∈ after, isSpace c = true := by
  obtain ⟨c, rest, l, hvalue, -, hl, hblank, rfl⟩ := lexeme_of_single hlex
  have hall := lexeme_append hl
  cases cuts_of_lexeme hl with
  | @expr chars after hdollar hopen hclose =>
      obtain ⟨body, rfl, -⟩ := closeParen_stable hclose
      have hlast := getLast?_of_closeParen hclose
      obtain ⟨inside, rfl⟩ : ∃ inside, body = inside ++ [')'] := by
        rcases List.eq_nil_or_concat body with rfl | ⟨inside, last, rfl⟩
        · simp at hlast
        · refine ⟨inside, ?_⟩
          rw [List.concat_eq_append, ← List.append_assoc, List.getLast?_concat] at hlast
          rw [List.concat_eq_append, Option.some.inj hlast]
      have hchars : c :: rest = '$' :: '(' :: (inside ++ ')' :: after) := by
        rw [← hall]
        simp
      rw [hchars] at hvalue
      refine ⟨value.toList.takeWhile isSpace, inside, after, hvalue, ?_, ?_, ?_⟩
      · simp [Lexeme.text, spacedExpression]
      · exact fun d hd => List.mem_takeWhile_imp hd
      · exact List.dropWhile_eq_nil_iff.mp hblank
  | comment | ident | number | string | char | op => cases hkind

theorem dropEnd_concat (chars : List Char) (c : Char) :
    dropEnd [')'] (chars ++ [c]) = if c = ')' then chars else chars ++ [c] := by
  have hsuffix : [')'].isSuffixOf (chars ++ [c]) = decide (c = ')') := by
    rw [Bool.eq_iff_iff, List.isSuffixOf_iff_suffix, decide_eq_true_eq]
    constructor
    · rintro ⟨front, hfront⟩
      exact (List.append_inj_right' hfront rfl |> List.cons.inj).1.symm
    · rintro rfl
      exact List.suffix_append _ _
  rw [dropEnd, hsuffix]
  by_cases hc : c = ')'
  · simp [hc]
  · simp [hc]

/-- What is evaluated of an expression with white space around it. -/
theorem toList_expressionBody {value : String} {before inside after : List Char}
    (hvalue : value.toList = spacedExpression before inside after)
    (hbefore : ∀ c ∈ before, isSpace c = true) (hafter : ∀ c ∈ after, isSpace c = true) :
    (expressionBody value).toList =
      (if before = [] then [] else before ++ ['$', '(']) ++ inside ++
        (if after = [] then [] else ')' :: after) := by
  have hstart : dropStart ['$', '('] value.toList =
      (if before = [] then [] else before ++ ['$', '(']) ++ (inside ++ ')' :: after) := by
    rw [hvalue, dropStart, spacedExpression]
    cases before with
    | nil => rfl
    | cons c before =>
        have hc : c ≠ '$' := by
          rintro rfl
          exact absurd (hbefore '$' (List.mem_cons_self ..)) (by decide)
        simp [List.isPrefixOf, Ne.symm hc]
  rw [expressionBody, String.toList_ofList, hstart]
  generalize (if before = [] then [] else before ++ ['$', '(']) = front
  rcases List.eq_nil_or_concat after with rfl | ⟨blanks, c, rfl⟩
  · rw [← List.append_assoc, dropEnd_concat]
    simp
  · rw [List.concat_eq_append] at hafter ⊢
    have hc : c ≠ ')' := by
      rintro rfl
      exact absurd (hafter ')' (by simp)) (by decide)
    have hlast : front ++ (inside ++ ')' :: (blanks ++ [c])) =
        front ++ (inside ++ ')' :: blanks) ++ [c] := by
      simp
    rw [hlast, dropEnd_concat, if_neg hc]
    simp

/-! ## Defining the constant -/

/-- Defines a constant by the value of an expression. -/
def State.defineValue [Interpreter] (state : State) (name text : String) : Except Stop State :=
  match state.evaluate text with
  | (some value, state) =>
      .ok { state with
        symbols := state.symbols.setConstant name (toString value)
        setup := state.setup.put (Node.ofLeaves [.instr ".equ" [name, toString value]]) }
  | (none, state) => state.refuse (.withTexts .expressionInvalid [text])

theorem defineConstant_of_isSingleExpression [Interpreter] {state : State} {name value : String}
    (hsetup : state.setup.isSealed = false) (hsingle : isSingleExpression value = true) :
    defineConstant state name value = state.defineValue name (expressionBody value) := by
  obtain ⟨events, hevaluate⟩ := evaluate_yields state (expressionBody value)
  have hopen : (state.withEvents events).setup.isSealed = false := hsetup
  have htext : constantText state value = expression state value := if_pos hsingle
  rw [defineConstant_eq, htext]
  unfold expression State.defineValue
  simp only [hevaluate]
  generalize valueOf? state.symbols.constants (expressionBody value) = value?
  cases value? with
  | none => rfl
  | some n =>
      have hput := addSetup_eq hopen [.instr ".equ" [name, toString n]]
      simp only [bind, Except.bind, hput]
      rfl

/-- An expression that has no value and prints nothing defines no constant. -/
theorem State.defineValue_of_none [Interpreter] {state : State} {name text : String}
    (h : state.symbols.evaluate text = ⟨[], none⟩) :
    state.defineValue name text = state.refuse (.withTexts .expressionInvalid [text]) := by
  have hevaluate : state.evaluate text = (none, state) := by
    rw [State.evaluate, h]
    rfl
  unfold State.defineValue
  rw [hevaluate]

end Lowering

end Shorthand
