import Shorthand.Diagnostic
import Shorthand.Text.Digit
import Shorthand.Text.Letter
import Shorthand.Text.Space
import Shorthand.Token

/-!
# From lines to tokens

White space separates tokens and means nothing else.  A lexeme is the longest stretch of
characters that its first characters allow: a name or a number goes on over letters, digits
and underscores, a quoted literal to its closing quote, an expression to its closing
parenthesis, a comment to the end of the line, and an operator is the longest one that fits.

`lexeme` takes the first lexeme off a line that starts with no white space.  What it takes and
what it leaves are the line again, and it always takes something (`length_rest_lt_of_lexeme`),
so that `lex` ends.
-/

namespace Shorthand

open Text

/-! ## Characters of names -/

/-- Whether a name may start with the character. -/
def isIdentStart (c : Char) : Bool := c == '_' || isLetter c

/-- Whether a name or a number may go on with the character. -/
def isIdentPart (c : Char) : Bool := c == '_' || isLetter c || isDigit c

/-! ## Lexemes -/

/-- The first lexeme of a line, with what follows it. -/
structure Lexeme where
  kind : TokenKind
  /-- The characters of the lexeme as written. -/
  chars : List Char
  /-- The characters after it. -/
  rest : List Char

/-- The text of a token: all that was written, but a comment without its slashes. -/
def Lexeme.text (l : Lexeme) : String :=
  match l.kind with
  | .comment => String.ofList (l.chars.drop 2)
  | _ => String.ofList l.chars

/-- Goes on to the closing quote, which is the first one that no backslash escapes.  The
characters passed over are `taken`, the last one first. -/
def closeQuote (quote : Char) (taken : List Char) : List Char → Option (List Char × List Char)
  | [] => none
  | '\\' :: c :: rest => closeQuote quote (c :: '\\' :: taken) rest
  | c :: rest =>
      if c == quote then some ((c :: taken).reverse, rest) else closeQuote quote (c :: taken) rest

/-- Goes on to the parenthesis that closes the expression; `depth` more are open inside it. -/
def closeParen (depth : Nat) (taken : List Char) : List Char → Option (List Char × List Char)
  | [] => none
  | c :: rest =>
      if c == '(' then closeParen (depth + 1) (c :: taken) rest
      else if c == ')' then
        match depth with
        | 0 => some ((c :: taken).reverse, rest)
        | depth + 1 => closeParen depth (c :: taken) rest
      else closeParen depth (c :: taken) rest

/-- The longest operator at the start of a line. -/
def operatorAt? (chars : List Char) : Option String :=
  operators.find? fun op => op.toList.isPrefixOf chars

/-- A problem whose only detail is a stretch of the line. -/
def problemAt (code : Code) (chars : List Char) : Problem :=
  .withTexts code [String.ofList chars]

/-- The lexeme that starts with the character `c`, which is no white space. -/
def lexeme (c : Char) (rest : List Char) : Except Problem Lexeme :=
  if c == '/' && rest.head? == some '/' then .ok ⟨.comment, c :: rest, []⟩
  else if isIdentStart c then
    .ok ⟨.ident, c :: rest.takeWhile isIdentPart, rest.dropWhile isIdentPart⟩
  else if isDigit c then
    .ok ⟨.number, c :: rest.takeWhile isIdentPart, rest.dropWhile isIdentPart⟩
  else if c == '"' then
    match closeQuote c [c] rest with
    | some (chars, rest) => .ok ⟨.string, chars, rest⟩
    | none => .error (problemAt .stringUnterminated (c :: rest))
  else if c == '\'' then
    match closeQuote c [c] rest with
    | some (chars, rest) =>
        if chars.length < 3 then .error (problemAt .literalInvalid chars)
        else .ok ⟨.char, chars, rest⟩
    | none => .error (problemAt .literalInvalid (c :: rest))
  else if c == '$' && rest.head? == some '(' then
    match closeParen 0 ['(', '$'] (rest.drop 1) with
    | some (chars, rest) => .ok ⟨.expr, chars, rest⟩
    | none => .error (problemAt .expressionUnterminated (c :: rest))
  else
    match operatorAt? (c :: rest) with
    | some op => .ok ⟨.op, op.toList, (c :: rest).drop op.length⟩
    | none => .error (problemAt .characterInvalid [c])

/-! ## What is left is shorter -/

theorem closeQuote_append {quote : Char} {taken chars : List Char} {result : List Char × List Char}
    (h : closeQuote quote taken chars = some result) :
    result.1 ++ result.2 = taken.reverse ++ chars := by
  fun_induction closeQuote quote taken chars with
  | case1 => simp at h
  | case2 taken c rest ih => simp [ih h]
  | case3 taken c rest _ hc =>
      obtain rfl := Option.some.inj h
      simp
  | case4 taken c rest _ hc ih => simp [ih h]

theorem length_closeQuote_lt {quote : Char} {taken chars : List Char}
    {result : List Char × List Char} (h : closeQuote quote taken chars = some result) :
    result.2.length < chars.length := by
  fun_induction closeQuote quote taken chars with
  | case1 => simp at h
  | case2 taken c rest ih => have := ih h; simp; omega
  | case3 taken c rest _ hc =>
      obtain rfl := Option.some.inj h
      simp
  | case4 taken c rest _ hc ih => have := ih h; simp; omega

theorem closeParen_append {depth : Nat} {taken chars : List Char} {result : List Char × List Char}
    (h : closeParen depth taken chars = some result) :
    result.1 ++ result.2 = taken.reverse ++ chars := by
  fun_induction closeParen depth taken chars with
  | case1 => simp at h
  | case2 depth taken c rest _ ih => simp [ih h]
  | case3 taken c rest _ _ =>
      obtain rfl := Option.some.inj h
      simp
  | case4 taken c rest _ _ depth ih => simp [ih h]
  | case5 depth taken c rest _ _ ih => simp [ih h]

theorem length_closeParen_lt {depth : Nat} {taken chars : List Char}
    {result : List Char × List Char} (h : closeParen depth taken chars = some result) :
    result.2.length < chars.length := by
  fun_induction closeParen depth taken chars with
  | case1 => simp at h
  | case2 depth taken c rest _ ih => have := ih h; simp; omega
  | case3 taken c rest _ _ =>
      obtain rfl := Option.some.inj h
      simp
  | case4 taken c rest _ _ depth ih => have := ih h; simp; omega
  | case5 depth taken c rest _ _ ih => have := ih h; simp; omega

/-- Every operator has a character. -/
theorem length_pos_of_mem_operators {op : String} (h : op ∈ operators) : 0 < op.length := by
  revert op
  decide

/-- A lexeme takes at least the character that it starts with. -/
theorem length_rest_lt_of_lexeme {c : Char} {rest : List Char} {l : Lexeme}
    (h : lexeme c rest = .ok l) : l.rest.length < (c :: rest).length := by
  have short : (rest.dropWhile isIdentPart).length ≤ rest.length :=
    (List.dropWhile_suffix _).length_le
  unfold lexeme at h
  repeat' split at h
  all_goals first
    | (obtain rfl := Except.ok.inj h)
    | simp at h
  all_goals simp only [List.length_cons, List.length_nil, List.length_drop]
  · omega
  · omega
  · omega
  · have := length_closeQuote_lt ‹closeQuote _ _ _ = _›
    simp at this
    omega
  · have := length_closeQuote_lt ‹closeQuote _ _ _ = _›
    simp at this
    omega
  · have := length_closeParen_lt ‹closeParen _ _ _ = _›
    simp at this
    omega
  · have := length_pos_of_mem_operators (List.mem_of_find?_eq_some ‹operatorAt? _ = _›)
    omega

/-! ## Lines -/

/-- The tokens of a line, up to the first place where there is none. -/
structure Lexed where
  tokens : List Token
  /-- What is wrong after the tokens, if anything is. -/
  problem? : Option Problem

/-- Goes on with the characters of a line after the first `pos`; `done` are the tokens before
them, the last one first. -/
def lexOnto (done : List Token) (pos : Nat) (chars : List Char) : Lexed :=
  match _rest : chars.dropWhile isSpace with
  | [] => ⟨done.reverse, none⟩
  | c :: rest =>
      let start := pos + (chars.takeWhile isSpace).length
      match _lexeme : lexeme c rest with
      | .error problem => ⟨done.reverse, some problem⟩
      | .ok l => lexOnto (⟨l.kind, l.text, start + 1⟩ :: done) (start + l.chars.length) l.rest
termination_by chars.length
decreasing_by
  have := length_rest_lt_of_lexeme _lexeme
  have := (List.dropWhile_suffix (l := chars) isSpace).length_le
  rw [_rest] at this
  omega

/-- The tokens of a line. -/
def lex (line : String) : Lexed := lexOnto [] 0 line.toList

end Shorthand
