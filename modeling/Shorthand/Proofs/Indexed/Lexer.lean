import Shorthand.Proofs.Indexed.Operands
import Shorthand.Proofs.Syntax.Lexemes

/-!
# Lexing by position

The characters of a line are scanned by moving a position.  Nothing in the scanning of a lexeme says
that the position moves at all, so the loop over the line is given a number of turns, and to need
one more is a trap.  Since every lexeme has a character, as many turns as there are characters and
one are enough, and the tokens are those of `lex` (`lex_eq`).
-/

namespace Shorthand.Indexed

open Attempt Text

variable {ε : Type}

/-! ## Looking ahead -/

/-- The character at a position, or a zero at the end. -/
def peek (src : List Char) (pos : Nat) : Attempt ε Char :=
  if src.length ≤ pos then return '\x00' else index src pos

theorem peek_length (before rest : List Char) (c : Char) :
    (peek (before ++ c :: rest) before.length : Attempt ε Char) = .ok c := by
  rw [peek, if_neg (by simp), index_length]

/-- Whether the character after a position is the given one. -/
def nextIs (src : List Char) (pos : Nat) (c : Char) : Attempt ε Bool := do
  return (← peek src (pos + 1)) == c

theorem nextIs_eq (before rest : List Char) (first : Char) {c : Char} (hc : c ≠ '\x00') :
    (nextIs (before ++ first :: rest) before.length c : Attempt ε Bool) =
      .ok (rest.head? == some c) := by
  cases rest with
  | nil =>
      rw [nextIs, peek, if_pos (by simp)]
      simpa using hc.symm
  | cons next rest =>
      have hpeek : (peek (before ++ first :: next :: rest) (before.length + 1) : Attempt ε Char) =
          .ok next := by simpa using peek_length (before ++ [first]) rest next
      rw [nextIs, hpeek]
      rfl

/-! ## Scanning -/

/-- The position of the first character from a position on that is not accepted. -/
def scan (accept : Char → Bool) (src : List Char) (pos : Nat) : Attempt ε Nat :=
  if pos < src.length then do
    if accept (← peek src pos) then scan accept src (pos + 1) else return pos
  else return pos
termination_by src.length - pos

theorem scan_eq (accept : Char → Bool) (before chars : List Char) :
    (scan accept (before ++ chars) before.length : Attempt ε Nat) =
      .ok (before.length + (chars.takeWhile accept).length) := by
  induction chars generalizing before with
  | nil =>
      rw [scan, if_neg (by simp)]
      rfl
  | cons c chars ih =>
      rw [scan, if_pos (by simp), peek_length, ok_bind, List.takeWhile_cons]
      cases accept c with
      | false => rfl
      | true =>
          have hnext := ih (before ++ [c])
          simp only [List.append_assoc, List.singleton_append, List.length_append,
            List.length_cons, List.length_nil, Nat.zero_add] at hnext
          simp only [if_true, hnext, List.length_cons]
          congr 1
          omega

/-- The accepted characters from a position on, and the position after them. -/
def scanWhile (accept : Char → Bool) (src : List Char) (pos : Nat) : Attempt ε (String × Nat) := do
  let stop ← scan accept src pos
  return (String.ofList (← slice src pos stop), stop)

theorem slice_middle (before taken rest : List Char) :
    (slice (before ++ (taken ++ rest)) before.length (before.length + taken.length) :
      Attempt ε (List Char)) = .ok taken := by
  rw [slice, if_pos (by simp), ← List.append_assoc, ← List.length_append, List.take_left,
    List.drop_left]

theorem scanWhile_eq (accept : Char → Bool) (before chars : List Char) :
    (scanWhile accept (before ++ chars) before.length : Attempt ε (String × Nat)) =
      .ok (String.ofList (chars.takeWhile accept),
        before.length + (chars.takeWhile accept).length) := by
  have hslice : (slice (before ++ (chars.takeWhile accept ++ chars.dropWhile accept)) before.length
      (before.length + (chars.takeWhile accept).length) : Attempt ε (List Char)) = _ :=
    slice_middle before _ _
  rw [List.takeWhile_append_dropWhile] at hslice
  rw [scanWhile, scan_eq, ok_bind, hslice]
  rfl

/-! ## Literals -/

section literals

variable (before taken rest : List Char) (c : Char)

-- The characters passed over are taken, the last one first, as they are by `closeQuote`.
theorem peek_taken :
    (peek (before ++ taken.reverse ++ c :: rest) (before.length + taken.length) :
      Attempt ε Char) = .ok c := by
  simpa using peek_length (before ++ taken.reverse) rest c

theorem append_taken_cons :
    before ++ (c :: taken).reverse ++ rest = before ++ taken.reverse ++ c :: rest := by
  simp

theorem taken_lt_length :
    before.length + taken.length < (before ++ taken.reverse ++ c :: rest).length := by
  simp

end literals

/-- The position after the closing quote, from a position inside of the literal on. -/
def scanQuote (quote : Char) (src : List Char) (pos : Nat) : Attempt ε (Option Nat) :=
  if pos < src.length then do
    let c ← peek src pos
    if c == '\\' then
      if pos + 1 < src.length then scanQuote quote src (pos + 2) else scanQuote quote src (pos + 1)
    else if c == quote then return some (pos + 1)
    else scanQuote quote src (pos + 1)
  else return none
termination_by src.length - pos

theorem scanQuote_eq {quote : Char} (hquote : quote ≠ '\\') (before taken chars : List Char) :
    (scanQuote quote (before ++ taken.reverse ++ chars) (before.length + taken.length) :
      Attempt ε (Option Nat)) =
      .ok ((closeQuote quote taken chars).map fun closed => before.length + closed.1.length) := by
  fun_induction closeQuote quote taken chars with
  | case1 taken =>
      rw [scanQuote, if_neg (by simp)]
      rfl
  | case2 taken c rest ih =>
      have hnext : before.length + taken.length + 1 <
          (before ++ taken.reverse ++ '\\' :: c :: rest).length := by
        simp
        omega
      rw [append_taken_cons, append_taken_cons] at ih
      rw [scanQuote, if_pos (taken_lt_length ..), peek_taken, ok_bind,
        if_pos (beq_self_eq_true _), if_pos hnext]
      exact ih
  | case3 taken c rest hescaped hc =>
      obtain rfl : c = quote := by simpa using hc
      rw [scanQuote, if_pos (taken_lt_length ..), peek_taken, ok_bind,
        if_neg (by simpa using hquote), if_pos hc]
      simp [Nat.add_assoc]
  | case4 taken c rest hescaped hc ih =>
      rw [append_taken_cons] at ih
      rw [scanQuote, if_pos (taken_lt_length ..), peek_taken, ok_bind, if_neg hc]
      by_cases hbackslash : (c == '\\') = true
      · -- A backslash that is not followed by a character is the last one.
        obtain rfl : c = '\\' := by simpa using hbackslash
        have hlast : rest = [] := by
          cases rest with
          | nil => rfl
          | cons next rest => exact (hescaped next rest rfl rfl).elim
        subst hlast
        rw [if_pos hbackslash, if_neg (by simp; omega)]
        exact ih
      · rw [if_neg hbackslash]
        exact ih

/-- The position after the closing parenthesis, from a position inside of the expression on. -/
def scanParen (src : List Char) (depth pos : Nat) : Attempt ε (Option Nat) :=
  if pos < src.length then do
    let c ← peek src pos
    if c == '(' then scanParen src (depth + 1) (pos + 1)
    else if c == ')' then
      if depth - 1 = 0 then return some (pos + 1) else scanParen src (depth - 1) (pos + 1)
    else scanParen src depth (pos + 1)
  else return none
termination_by src.length - pos

theorem scanParen_eq (before taken chars : List Char) (depth : Nat) :
    (scanParen (before ++ taken.reverse ++ chars) (depth + 1) (before.length + taken.length) :
      Attempt ε (Option Nat)) =
      .ok ((closeParen depth taken chars).map fun closed => before.length + closed.1.length) := by
  fun_induction closeParen depth taken chars with
  | case1 depth taken =>
      rw [scanParen, if_neg (by simp)]
      rfl
  | case2 depth taken c rest hc ih =>
      rw [append_taken_cons] at ih
      rw [scanParen, if_pos (taken_lt_length ..), peek_taken, ok_bind, if_pos hc]
      exact ih
  | case3 taken c rest hopen hc =>
      rw [scanParen, if_pos (taken_lt_length ..), peek_taken, ok_bind, if_neg hopen, if_pos hc,
        if_pos rfl]
      simp [Nat.add_assoc]
  | case4 taken c rest hopen hc depth ih =>
      rw [append_taken_cons] at ih
      rw [scanParen, if_pos (taken_lt_length ..), peek_taken, ok_bind, if_neg hopen, if_pos hc,
        if_neg (by simp)]
      exact ih
  | case5 depth taken c rest hopen hc ih =>
      rw [append_taken_cons] at ih
      rw [scanParen, if_pos (taken_lt_length ..), peek_taken, ok_bind, if_neg hopen, if_neg hc]
      exact ih

/-- The text from where a literal starts up to its end, and the position after it; if it has no end,
there is a problem with all that follows. -/
def literal (kind : TokenKind) (unterminated : Code) (src : List Char) (start : Nat)
    (stop? : Option Nat) : Attempt Problem (TokenKind × String × Nat) :=
  match stop? with
  | some stop => do return (kind, String.ofList (← slice src start stop), stop)
  | none => do safe (failWith unterminated [String.ofList (← sliceFrom src start)])

theorem literal_eq {kind : TokenKind} {unterminated : Code} {before chars : List Char}
    {closed? : Option (List Char × List Char)}
    (h : ∀ closed, closed? = some closed → closed.1 ++ closed.2 = chars) :
    literal kind unterminated (before ++ chars) before.length
        (closed?.map fun closed => before.length + closed.1.length) =
      closed?.elim (.error (problemAt unterminated chars)) fun closed =>
        .ok (kind, String.ofList closed.1, before.length + closed.1.length) := by
  cases closed? with
  | none =>
      rw [Option.map_none, literal, sliceFrom_length]
      rfl
  | some closed =>
      rw [Option.map_some, literal, Option.elim_some, ← h closed rfl, slice_middle]
      rfl

/-- The literal with quotes around it that starts at a position. -/
def quoted (kind : TokenKind) (unterminated : Code) (quote : Char) (src : List Char) (pos : Nat) :
    Attempt Problem (TokenKind × String × Nat) := do
  literal kind unterminated src pos (← scanQuote quote src (pos + 1))

theorem quoted_eq (kind : TokenKind) (unterminated : Code) {quote : Char} (hquote : quote ≠ '\\')
    (before rest : List Char) :
    quoted kind unterminated quote (before ++ quote :: rest) before.length =
      (closeQuote quote [quote] rest).elim (.error (problemAt unterminated (quote :: rest)))
        fun closed => .ok (kind, String.ofList closed.1, before.length + closed.1.length) := by
  have hscan : (scanQuote quote (before ++ quote :: rest) (before.length + 1) :
      Attempt Problem (Option Nat)) =
      .ok ((closeQuote quote [quote] rest).map fun closed =>
        before.length + closed.1.length) := by
    simpa using scanQuote_eq hquote before [quote] rest
  rw [quoted, hscan, ok_bind]
  exact literal_eq fun closed h => closeQuote_append h

/-- The expression between `$(` and its closing parenthesis that starts at a position. -/
def expression (src : List Char) (pos : Nat) : Attempt Problem (TokenKind × String × Nat) := do
  literal .expr .expressionUnterminated src pos (← scanParen src 1 (pos + 2))

theorem expression_eq (before inner : List Char) :
    expression (before ++ '$' :: '(' :: inner) before.length =
      (closeParen 0 ['(', '$'] inner).elim
        (.error (problemAt .expressionUnterminated ('$' :: '(' :: inner)))
        fun closed => .ok (.expr, String.ofList closed.1, before.length + closed.1.length) := by
  have hscan : (scanParen (before ++ '$' :: '(' :: inner) 1 (before.length + 2) :
      Attempt Problem (Option Nat)) =
      .ok ((closeParen 0 ['(', '$'] inner).map fun closed => before.length + closed.1.length) := by
    simpa using scanParen_eq before ['(', '$'] inner 0
  rw [expression, hscan, ok_bind]
  exact literal_eq fun closed h => closeParen_append h

/-! ## Lexemes -/

/-- The kind and the text of the lexeme at a position, and the position after it. -/
def lexemeAt (src : List Char) (pos : Nat) : Attempt Problem (TokenKind × String × Nat) := do
  let c ← peek src pos
  if ← andAlso (c == '/') (nextIs src pos '/') then
    return (.comment, String.ofList (← sliceFrom src (pos + 2)), src.length)
  else if isIdentStart c then return (.ident, ← scanWhile isIdentPart src pos)
  else if isDigit c then return (.number, ← scanWhile isIdentPart src pos)
  else if c == '"' then quoted .string .stringUnterminated '"' src pos
  else if c == '\'' then
    let (kind, text, stop) ← quoted .char .literalInvalid '\'' src pos
    if text.length < 3 then safe (failWith .literalInvalid [text]) else return (kind, text, stop)
  else if ← andAlso (c == '$') (nextIs src pos '(') then expression src pos
  else
    let rest ← sliceFrom src pos
    match operatorAt? rest with
    | some op => return (.op, op, pos + op.length)
    | none => safe (failWith .characterInvalid [String.singleton c])

theorem lexemeAt_eq (before rest : List Char) (c : Char) :
    lexemeAt (before ++ c :: rest) before.length =
      safe ((lexeme c rest).map fun l => (l.kind, l.text, before.length + l.chars.length)) := by
  unfold lexemeAt lexeme
  rw [peek_length, ok_bind, nextIs_eq _ _ _ (by decide), nextIs_eq _ _ _ (by decide)]
  rw [andAlso_ok, andAlso_ok, ok_bind, ok_bind]
  by_cases hcomment : (c == '/' && rest.head? == some '/') = true
  · obtain ⟨inner, rfl⟩ : ∃ inner, rest = '/' :: inner := by
      simpa [List.head?_eq_some_iff] using (Bool.and_eq_true_iff.mp hcomment).2
    have hslice : (sliceFrom (before ++ c :: '/' :: inner) (before.length + 2) :
        Attempt Problem (List Char)) = .ok inner := by simp [sliceFrom]
    rw [if_pos hcomment, if_pos hcomment, hslice]
    simp [Except.map, Lexeme.text]
  rw [if_neg hcomment, if_neg hcomment]
  by_cases hident : isIdentStart c = true
  · have hpart := isIdentPart_of_isIdentStart hident
    rw [if_pos hident, if_pos hident, scanWhile_eq, List.takeWhile_cons_of_pos hpart]
    rfl
  rw [if_neg hident, if_neg hident]
  by_cases hdigit : isDigit c = true
  · have hpart : isIdentPart c = true := by rw [isIdentPart, hdigit, Bool.or_true]
    rw [if_pos hdigit, if_pos hdigit, scanWhile_eq, List.takeWhile_cons_of_pos hpart]
    rfl
  rw [if_neg hdigit, if_neg hdigit]
  by_cases hstring : (c == '"') = true
  · obtain rfl : c = '"' := by simpa using hstring
    rw [if_pos hstring, if_pos hstring, quoted_eq _ _ (by decide)]
    cases closeQuote '"' ['"'] rest <;> rfl
  rw [if_neg hstring, if_neg hstring]
  by_cases hchar : (c == '\'') = true
  · obtain rfl : c = '\'' := by simpa using hchar
    rw [if_pos hchar, if_pos hchar, quoted_eq _ _ (by decide)]
    cases closeQuote '\'' ['\''] rest with
    | none => rfl
    | some closed =>
        simp only [Option.elim_some, ok_bind, String.length_ofList]
        split <;> rfl
  rw [if_neg hchar, if_neg hchar]
  by_cases hexpr : (c == '$' && rest.head? == some '(') = true
  · obtain rfl : c = '$' := by simpa using (Bool.and_eq_true_iff.mp hexpr).1
    obtain ⟨inner, rfl⟩ : ∃ inner, rest = '(' :: inner := by
      simpa [List.head?_eq_some_iff] using (Bool.and_eq_true_iff.mp hexpr).2
    rw [if_pos hexpr, if_pos hexpr, expression_eq]
    rw [List.drop_one, List.tail_cons]
    cases closeParen 0 ['(', '$'] inner <;> rfl
  rw [if_neg hexpr, if_neg hexpr, sliceFrom_length, ok_bind]
  cases operatorAt? (c :: rest) with
  | none => rfl
  | some op => simp [Except.map, Lexeme.text, String.length_toList]

/-! ## Lines -/

/-- Goes on with a line from a position on, for so many turns; `tokens` are those before. -/
def lexFrom (src : List Char) : Nat → List Token → Nat → Attempt ε Lexed
  | 0, _, _ => .trapped .endless
  | turns + 1, tokens, pos => do
      let (_, start) ← scanWhile isSpace src pos
      if src.length ≤ start then return ⟨tokens, none⟩
      else
        match lexemeAt src start with
        | .trapped trap => .trapped trap
        | .error problem => return ⟨tokens, some problem⟩
        | .ok (kind, text, stop) =>
            lexFrom src turns (tokens ++ [⟨kind, text, start + 1⟩]) stop

/-- The tokens of a line. -/
def lex (line : String) : Attempt ε Lexed :=
  lexFrom line.toList (line.toList.length + 1) [] 0

theorem lexFrom_eq (before chars : List Char) (done : List Token) {turns : Nat}
    (hturns : chars.length < turns) :
    (lexFrom (before ++ chars) turns done.reverse before.length : Attempt ε Lexed) =
      .ok (lexOnto done before.length chars) := by
  induction turns generalizing before chars done with
  | zero => omega
  | succ turns ih =>
      have hsplit : chars.takeWhile isSpace ++ chars.dropWhile isSpace = chars :=
        List.takeWhile_append_dropWhile
      rw [lexFrom, scanWhile_eq, ok_bind]
      dsimp only
      cases hrest : chars.dropWhile isSpace with
      | nil =>
          rw [hrest, List.append_nil] at hsplit
          rw [hsplit, if_pos (by simp), lexOnto_of_blank done _ hrest]
          rfl
      | cons c rest =>
          have hstart : before.length + (chars.takeWhile isSpace).length =
              (before ++ chars.takeWhile isSpace).length := by simp
          have hsrc : before ++ chars = before ++ chars.takeWhile isSpace ++ c :: rest := by
            rw [List.append_assoc, ← hrest, hsplit]
          rw [if_neg (by rw [hsrc, hstart]; simp), hstart, hsrc, lexemeAt_eq]
          cases hlexeme : lexeme c rest with
          | error problem =>
              rw [lexOnto_of_error done _ hrest hlexeme]
              rfl
          | ok l =>
              have hshorter := length_rest_lt_of_lexeme hlexeme
              have hlength : (chars.dropWhile isSpace).length ≤ chars.length :=
                (List.dropWhile_suffix _).length_le
              have hnext := ih (before ++ chars.takeWhile isSpace ++ l.chars) l.rest
                (⟨l.kind, l.text, before.length + (chars.takeWhile isSpace).length + 1⟩ :: done)
                (by rw [hrest] at hlength; omega)
              rw [lexOnto_of_ok done _ hrest hlexeme]
              rw [List.append_assoc _ l.chars, lexeme_append hlexeme, List.length_append,
                ← hstart, List.reverse_cons] at hnext
              rw [← hstart]
              exact hnext

theorem lex_eq (line : String) : (lex line : Attempt ε Lexed) = .ok (Shorthand.lex line) :=
  lexFrom_eq [] line.toList [] (Nat.lt_succ_self _)

end Shorthand.Indexed
