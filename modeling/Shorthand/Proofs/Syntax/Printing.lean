import Shorthand.Proofs.Syntax.Lexemes
import Shorthand.Statement.Handler

/-!
# Printing statements

The canonical source form of a statement: its tokens with single blanks between them.  Casts
and offsets are always written out, also where leaving them out would mean the same, and every
construct has its colon.

`Statement.WellFormed` says which statements have such a form.  A statement keeps the texts of
its operands as they were written, so each of them has to be a single lexeme again, a name has
to be usable as one, and a condition, which is written without grouping, has to associate to
the left.

The tokens of a well-formed statement are lexemes, and none but the last can end the statement
(`Statement.allInner_front`), so that lexing the printed statement gives them back
(`Statement.lex_print`).
-/

namespace Shorthand

open Machine Text

/-! ## Tokens of operands -/

/-- Whether the text is the name of a variable, a constant or a function. -/
def IsName (text : String) : Prop := (Token.word text).IsLexeme ∧ (Token.word text).isName = true

namespace Immediate

/-- The tokens of an immediate value; a minus sign is a token of its own. -/
def tokens : Immediate → List Token
  | number text =>
      match text.toList with
      | '-' :: digits => [.mark "-", ⟨.number, String.ofList digits, 0⟩]
      | _ => [⟨.number, text, 0⟩]
  | char text => [⟨.char, text, 0⟩]
  | expr text => [⟨.expr, text, 0⟩]
  | name text => [.word text]

/-- A number may be negated, and it has a value then. -/
def WellFormed : Immediate → Prop
  | number text =>
      Integer.isNumber text = true ∧
        ∃ digits, (Token.mk .number digits 0).IsLexeme ∧ (text = digits ∨ text = "-" ++ digits)
  | char text => (Token.mk .char text 0).IsLexeme
  | expr text => (Token.mk .expr text 0).IsLexeme
  | name text => IsName text

/-- The tokens of an offset or a size. -/
def bracketed (value : Immediate) : List Token := .mark "[" :: value.tokens ++ [.mark "]"]

end Immediate

namespace Operand

def tokens : Operand → List Token
  | register name => [.word name]
  | immediate value => value.tokens

def WellFormed : Operand → Prop
  | register name => isRegister name = true
  | immediate value => value.WellFormed

end Operand

/-- The tokens of a cast. -/
def castTokens (cast : Cast) : List Token := [.mark "(", .word cast.name, .mark ")"]

/-! ## Tokens of conditions -/

namespace Condition

def tokens : Condition → List Token
  | compare a cmp b => [.word a, .mark cmp.symbol, .word b]
  | both lhs rhs => lhs.tokens ++ .mark "&&" :: rhs.tokens
  | either lhs rhs => lhs.tokens ++ .mark "||" :: rhs.tokens

/-- A comparison of registers. -/
def IsComparison : Condition → Prop
  | compare a _ b => isRegister a = true ∧ isRegister b = true
  | _ => False

/-- Comparisons joined by `&&` from the left. -/
def IsConjunction : Condition → Prop
  | both lhs rhs => lhs.IsConjunction ∧ rhs.IsComparison
  | cond => cond.IsComparison

/-- Conjunctions joined by `||` from the left. -/
def WellFormed : Condition → Prop
  | either lhs rhs => lhs.WellFormed ∧ rhs.IsConjunction
  | cond => cond.IsConjunction

end Condition

/-! ## Tokens of declarations -/

/-- The keyword that declares values of the width. -/
def Width.keyword : Width → String
  | word => "int"
  | byte => "byte"

/-- The tokens of initial values, with the equals sign before them. -/
def initialTokens : List Immediate → List Token
  | [] => []
  | first :: rest =>
      .mark "=" :: first.tokens ++ rest.flatMap fun value => .mark "," :: value.tokens

namespace Declaration

def tokens : Declaration → List Token
  | scalar width name init => .word width.keyword :: .word name :: initialTokens init
  | array width name size => .word width.keyword :: size.bracketed ++ [.word name]
  | string name literal => [.word "string", .word name, .mark "=", ⟨.string, literal, 0⟩]
  | buffer name size => .word "var" :: size.bracketed ++ [.word name]
  | const name value => .word "const" :: .word name :: .mark "=" :: (lex value).tokens

/-- The value of a constant is put together from its own tokens, none of which ends the
declaration. -/
def WellFormed : Declaration → Prop
  | scalar _ name init => IsName name ∧ ∀ value ∈ init, value.WellFormed
  | array _ name size => IsName name ∧ size.WellFormed
  | string name literal => IsName name ∧ (Token.mk .string literal 0).IsLexeme
  | buffer name size => IsName name ∧ size.WellFormed
  | const name value =>
      IsName name ∧ (lex value).problem? = none ∧ (lex value).tokens ≠ [] ∧
        value = String.join ((lex value).tokens.map Token.print) ∧
        ∀ tok ∈ (lex value).tokens, endsStatement [";"] tok = false

end Declaration

/-! ## Tokens of statements -/

def BlockHead.tokens : BlockHead → List Token
  | compile => [.word "compile"]
  | main => [.word "main"]
  | function name => [.word "func", .word name]

def BlockHead.WellFormed : BlockHead → Prop
  | function name => IsName name
  | _ => True

namespace Statement

/-- The tokens of the statement, apart from the colon that ends the head of a construct. -/
def front : Statement → List Token
  | block head _ => head.tokens
  | branch cond => .word "if" :: cond.tokens
  | otherwise => [.word "else"]
  | loop none => [.word "while", .word "true"]
  | loop (some cond) => .word "while" :: cond.tokens
  | close => [.word "end"]
  | call name => [.word "call", .word name]
  | comment text => [⟨.comment, text, 0⟩]
  | move dst src => [.word dst, .mark "=", .word src]
  | address dst name => [.word dst, .mark "=", .mark "&", .word name]
  | load dst cast base offset =>
      .word dst :: .mark "=" :: castTokens cast ++ .mark "&" :: .word base :: offset.bracketed
  | loadName dst name none => [.word dst, .mark "=", .word name]
  | loadName dst name (some cast) => .word dst :: .mark "=" :: castTokens cast ++ [.word name]
  | loadImmediate dst value => .word dst :: .mark "=" :: value.tokens
  | operate dst src op rhs =>
      .word dst :: .mark "=" :: .word src :: .mark op.symbol :: rhs.tokens
  | store cast src (.variable name) => .word name :: .mark "=" :: castTokens cast ++ [.word src]
  | store cast src (.memory base offset) =>
      .mark "*" :: .word base :: offset.bracketed ++ .mark "=" :: castTokens cast ++ [.word src]
  | declare declaration => declaration.tokens

/-- Whether a colon ends the statement. -/
def colon : Statement → Bool
  | block _ colon => colon
  | branch _ => true
  | otherwise => true
  | loop _ => true
  | _ => false

def tokens (statement : Statement) : List Token :=
  statement.front ++ if statement.colon then [.mark ":"] else []

theorem tokens_eq_front {statement : Statement} (h : statement.colon = false) :
    statement.tokens = statement.front := by
  simp [tokens, h]

/-- Every part of the statement can be written down. -/
def WellFormed : Statement → Prop
  | block head _ => head.WellFormed
  | branch cond => cond.WellFormed
  | otherwise => True
  | loop cond? => ∀ cond ∈ cond?, cond.WellFormed
  | close => True
  | call name => IsName name
  | comment _ => True
  | move dst src => isRegister dst = true ∧ isRegister src = true
  | address dst name => isRegister dst = true ∧ IsName name
  | load dst _ base offset => isRegister dst = true ∧ isRegister base = true ∧ offset.WellFormed
  | loadName dst name _ => isRegister dst = true ∧ IsName name
  | loadImmediate dst value => isRegister dst = true ∧ value.WellFormed
  | operate dst src _ rhs => isRegister dst = true ∧ isRegister src = true ∧ rhs.WellFormed
  | store _ src (.variable name) => isRegister src = true ∧ IsName name
  | store _ src (.memory base offset) =>
      isRegister src = true ∧ isRegister base = true ∧ offset.WellFormed
  | declare declaration => declaration.WellFormed

/-- The statement in its source form. -/
def print (statement : Statement) : String := joinTokens statement.tokens

end Statement

/-! ## Tokens inside a statement -/

/-- A lexeme that ends no statement, whichever of the two marks its family ends with. -/
structure Token.IsInner (tok : Token) : Prop where
  isLexeme : tok.IsLexeme
  inside : endsStatement [";", ":"] tok = false

/-- Tokens that are all inside a statement. -/
def AllInner (tokens : List Token) : Prop := ∀ tok ∈ tokens, tok.IsInner

@[simp] theorem allInner_nil : AllInner [] := by simp [AllInner]

@[simp] theorem allInner_cons (tok : Token) (tokens : List Token) :
    AllInner (tok :: tokens) ↔ tok.IsInner ∧ AllInner tokens := by
  simp [AllInner]

@[simp] theorem allInner_append (first second : List Token) :
    AllInner (first ++ second) ↔ AllInner first ∧ AllInner second := by
  simp [AllInner, or_imp, forall_and]

theorem kind_of_inside {terminators : List String} {tok : Token}
    (h : endsStatement terminators tok = false) : tok.kind ≠ .comment := by
  intro hkind
  simp [endsStatement, hkind] at h

/-- A token that ends no statement of any family ends none that only a semicolon ends. -/
theorem inside_of_isInner {tok : Token} (h : tok.IsInner) : endsStatement [";"] tok = false := by
  have hinside := h.inside
  simp [endsStatement] at hinside ⊢
  exact ⟨hinside.1, fun hop => (hinside.2 hop).1⟩

/-- A token that is neither a mark nor a comment ends no statement. -/
theorem isInner_of_kind {tok : Token} (hlexeme : tok.IsLexeme) (hop : tok.kind ≠ .op)
    (hcomment : tok.kind ≠ .comment) : tok.IsInner :=
  ⟨hlexeme, by simp [endsStatement, hop, hcomment]⟩

theorem isInner_word {text : String} (hlexeme : (Token.word text).IsLexeme) :
    (Token.word text).IsInner :=
  isInner_of_kind hlexeme (by simp) (by simp)

theorem isInner_mark {text : String} (htext : text ∈ operators) (hnot : text ∉ [";", ":"]) :
    (Token.mark text).IsInner :=
  ⟨isLexeme_mark htext, by simpa [endsStatement] using hnot⟩

theorem isInner_keyword {text : String} (htext : text ∈ keywords) : (Token.word text).IsInner := by
  have hall : ∀ word ∈ keywords, (Token.word word).IsLexeme := by decide +kernel
  exact isInner_word (hall text htext)

theorem isInner_register {name : Register} (hname : isRegister name = true) :
    (Token.word name).IsInner := by
  have hall : ∀ register ∈ Register.all, (Token.word register).IsLexeme := by decide +kernel
  exact isInner_word (hall name (by simpa [isRegister] using hname))

theorem isInner_name {name : String} (hname : IsName name) : (Token.word name).IsInner :=
  isInner_word hname.1

/-! ### Operands -/

/-- The first character of a number is a digit, so that no number starts with its sign. -/
theorem isDigit_of_isLexeme {digits : String} (h : (Token.mk .number digits 0).IsLexeme) :
    ∃ c tail, digits.toList = c :: tail ∧ isDigit c = true := by
  obtain ⟨c, tail, hprint, -, hlexeme⟩ := cut_of_isLexeme h
  have hcuts := cuts_of_lexeme hlexeme
  generalize hl : Lexeme.mk TokenKind.number (c :: tail) [] = l at hcuts
  cases hcuts with
  | number _ hdigit => exact ⟨c, tail, hprint, hdigit⟩
  | _ => simp at hl

/-- A number without a sign is a single token. -/
theorem tokens_number {digits : String} (h : (Token.mk .number digits 0).IsLexeme) :
    (Immediate.number digits).tokens = [⟨.number, digits, 0⟩] := by
  obtain ⟨c, tail, hprint, hc⟩ := isDigit_of_isLexeme h
  have hne : c ≠ '-' := by
    rintro rfl
    exact absurd hc (by decide)
  simp [Immediate.tokens, hprint, hne]

theorem tokens_negated (digits : String) :
    (Immediate.number ("-" ++ digits)).tokens = [.mark "-", ⟨.number, digits, 0⟩] := by
  simp [Immediate.tokens]

theorem Immediate.allInner_tokens {value : Immediate} (h : value.WellFormed) :
    AllInner value.tokens := by
  cases value with
  | number text =>
      obtain ⟨-, digits, hdigits, htext⟩ := h
      have hinner : (Token.mk .number digits 0).IsInner :=
        isInner_of_kind hdigits (by simp) (by simp)
      rcases htext with rfl | rfl
      · simpa [tokens_number hdigits] using hinner
      · simpa [tokens_negated] using ⟨isInner_mark (by decide) (by decide), hinner⟩
  | char text => simpa [tokens] using isInner_of_kind h (by simp) (by simp)
  | expr text => simpa [tokens] using isInner_of_kind h (by simp) (by simp)
  | name text => simpa [tokens] using isInner_name h

theorem Immediate.allInner_bracketed {value : Immediate} (h : value.WellFormed) :
    AllInner value.bracketed := by
  have hopen : (Token.mark "[").IsInner := isInner_mark (by decide) (by decide)
  have hclose : (Token.mark "]").IsInner := isInner_mark (by decide) (by decide)
  simpa [bracketed, hopen, hclose] using allInner_tokens h

theorem Operand.allInner_tokens {operand : Operand} (h : operand.WellFormed) :
    AllInner operand.tokens := by
  cases operand with
  | register name => simpa [tokens] using isInner_register h
  | immediate value => exact Immediate.allInner_tokens h

theorem allInner_castTokens (cast : Cast) : AllInner (castTokens cast) := by
  have hopen : (Token.mark "(").IsInner := isInner_mark (by decide) (by decide)
  have hclose : (Token.mark ")").IsInner := isInner_mark (by decide) (by decide)
  have hname : (Token.word cast.name).IsLexeme := by
    obtain ⟨byte, uncached⟩ := cast
    cases byte <;> cases uncached <;> decide +kernel
  simp [castTokens, hopen, hclose, isInner_word hname]

/-! ### Conditions -/

theorem Condition.allInner_of_isComparison {cond : Condition} (h : cond.IsComparison) :
    AllInner cond.tokens := by
  cases cond with
  | compare a cmp b =>
      have hcmp : (Token.mark cmp.symbol).IsInner := by
        cases cmp <;> exact isInner_mark (by decide) (by decide)
      simpa [tokens, hcmp] using ⟨isInner_register h.1, isInner_register h.2⟩
  | both lhs rhs => exact h.elim
  | either lhs rhs => exact h.elim

theorem Condition.allInner_of_isConjunction {cond : Condition} (h : cond.IsConjunction) :
    AllInner cond.tokens := by
  induction cond with
  | compare a cmp b => exact allInner_of_isComparison h
  | both lhs rhs ihl _ =>
      have hand : (Token.mark "&&").IsInner := isInner_mark (by decide) (by decide)
      simpa [tokens, hand] using ⟨ihl h.1, allInner_of_isComparison h.2⟩
  | either lhs rhs => exact h.elim

theorem Condition.allInner_tokens {cond : Condition} (h : cond.WellFormed) :
    AllInner cond.tokens := by
  induction cond with
  | compare a cmp b => exact allInner_of_isComparison h
  | both lhs rhs => exact allInner_of_isConjunction h
  | either lhs rhs ihl _ =>
      have hor : (Token.mark "||").IsInner := isInner_mark (by decide) (by decide)
      simpa [tokens, hor] using ⟨ihl h.1, allInner_of_isConjunction h.2⟩

/-! ### Declarations -/

theorem allInner_initialTokens {init : List Immediate} (h : ∀ value ∈ init, value.WellFormed) :
    AllInner (initialTokens init) := by
  cases init with
  | nil => simp [initialTokens]
  | cons first rest =>
      have hequals : (Token.mark "=").IsInner := isInner_mark (by decide) (by decide)
      have hcomma : (Token.mark ",").IsInner := isInner_mark (by decide) (by decide)
      have hfirst := Immediate.allInner_tokens (h first (by simp))
      have hrest : AllInner (rest.flatMap fun value => .mark "," :: value.tokens) := by
        intro tok htok
        obtain ⟨value, hvalue, hmem⟩ := List.mem_flatMap.mp htok
        rcases List.mem_cons.mp hmem with rfl | hmem
        · exact hcomma
        · exact Immediate.allInner_tokens (h value (by simp [hvalue])) tok hmem
      simpa [initialTokens, hequals] using ⟨hfirst, hrest⟩

theorem isInner_width (width : Width) : (Token.word width.keyword).IsInner := by
  cases width <;> exact isInner_keyword (by decide)

/-- The tokens of a declaration are inside the declaration. -/
theorem Declaration.inside_of_mem_tokens {declaration : Declaration} (h : declaration.WellFormed) :
    ∀ tok ∈ declaration.tokens, tok.IsLexeme ∧ endsStatement [";"] tok = false := by
  have hweaken : ∀ tokens : List Token, AllInner tokens →
      ∀ tok ∈ tokens, tok.IsLexeme ∧ endsStatement [";"] tok = false :=
    fun tokens hall tok htok => ⟨(hall tok htok).isLexeme, inside_of_isInner (hall tok htok)⟩
  have hequals : (Token.mark "=").IsInner := isInner_mark (by decide) (by decide)
  cases declaration with
  | scalar width name init =>
      apply hweaken
      simpa [tokens] using ⟨isInner_width width, isInner_name h.1, allInner_initialTokens h.2⟩
  | array width name size =>
      apply hweaken
      simpa [tokens] using ⟨isInner_width width, Immediate.allInner_bracketed h.2, isInner_name h.1⟩
  | string name literal =>
      apply hweaken
      have hliteral := isInner_of_kind h.2 (by simp) (by simp)
      simpa [tokens, hequals, hliteral] using ⟨isInner_keyword (by decide), isInner_name h.1⟩
  | buffer name size =>
      apply hweaken
      simpa [tokens] using
        ⟨isInner_keyword (by decide), Immediate.allInner_bracketed h.2, isInner_name h.1⟩
  | const name value =>
      -- only the value of a constant may hold a colon
      obtain ⟨hname, -, -, -, hinside⟩ := h
      have hfront : AllInner [.word "const", .word name, .mark "="] := by
        simpa [hequals] using ⟨isInner_keyword (by decide), isInner_name hname⟩
      intro tok htok
      have hsplit : tok ∈ [.word "const", .word name, .mark "="] ++ (lex value).tokens := htok
      rcases List.mem_append.mp hsplit with hmem | hmem
      · exact hweaken _ hfront tok hmem
      · exact ⟨isLexeme_of_mem_lex hmem, hinside tok hmem⟩

/-! ### Statements -/

theorem isLexeme_comment (text : String) : (Token.mk .comment text 0).IsLexeme := by
  have hprint : (Token.mk .comment text 0).print.toList = '/' :: '/' :: text.toList := by
    simp [Token.print]
  apply isLexeme_of_cut hprint
  · decide
  · simp [lexeme]

/-- Whether no token of the statement, apart from a closing colon, could end a statement.  A
comment does, and the value of a constant may hold colons. -/
def Statement.isClosed : Statement → Bool
  | comment _ => false
  | declare _ => false
  | _ => true

/-- All tokens but a closing colon are inside the statement. -/
theorem Statement.allInner_front {statement : Statement} (h : statement.WellFormed)
    (hclosed : statement.isClosed = true) : AllInner statement.front := by
  have hequals : (Token.mark "=").IsInner := isInner_mark (by decide) (by decide)
  have hand : (Token.mark "&").IsInner := isInner_mark (by decide) (by decide)
  have hstar : (Token.mark "*").IsInner := isInner_mark (by decide) (by decide)
  cases statement with
  | block head colon =>
      cases head with
      | compile => simpa [front, BlockHead.tokens] using isInner_keyword (by decide)
      | main => simpa [front, BlockHead.tokens] using isInner_keyword (by decide)
      | function name =>
          simpa [front, BlockHead.tokens] using ⟨isInner_keyword (by decide), isInner_name h⟩
  | branch cond => simpa [front] using ⟨isInner_keyword (by decide), Condition.allInner_tokens h⟩
  | otherwise => simpa [front] using isInner_keyword (by decide)
  | loop cond? =>
      cases cond? with
      | none => simpa [front] using ⟨isInner_keyword (by decide), isInner_keyword (by decide)⟩
      | some cond =>
          simpa [front] using ⟨isInner_keyword (by decide), Condition.allInner_tokens (h cond rfl)⟩
  | close => simpa [front] using isInner_keyword (by decide)
  | call name => simpa [front] using ⟨isInner_keyword (by decide), isInner_name h⟩
  | comment text => simp [isClosed] at hclosed
  | move dst src => simpa [front, hequals] using ⟨isInner_register h.1, isInner_register h.2⟩
  | address dst name => simpa [front, hequals, hand] using ⟨isInner_register h.1, isInner_name h.2⟩
  | load dst cast base offset =>
      simpa [front, hequals, hand, allInner_castTokens] using
        ⟨isInner_register h.1, isInner_register h.2.1, Immediate.allInner_bracketed h.2.2⟩
  | loadName dst name cast? =>
      cases cast? with
      | none => simpa [front, hequals] using ⟨isInner_register h.1, isInner_name h.2⟩
      | some cast =>
          simpa [front, hequals, allInner_castTokens] using
            ⟨isInner_register h.1, isInner_name h.2⟩
  | loadImmediate dst value =>
      simpa [front, hequals] using ⟨isInner_register h.1, Immediate.allInner_tokens h.2⟩
  | operate dst src op rhs =>
      have hop : (Token.mark op.symbol).IsInner := by
        cases op <;> exact isInner_mark (by decide) (by decide)
      simpa [front, hequals, hop] using
        ⟨isInner_register h.1, isInner_register h.2.1, Operand.allInner_tokens h.2.2⟩
  | store cast src target =>
      cases target with
      | «variable» name =>
          simpa [front, hequals, allInner_castTokens] using
            ⟨isInner_name h.2, isInner_register h.1⟩
      | memory base offset =>
          simpa [front, hequals, hstar, allInner_castTokens] using
            ⟨isInner_register h.2.1, Immediate.allInner_bracketed h.2.2, isInner_register h.1⟩
  | declare declaration => simp [isClosed] at hclosed

/-- The tokens of a statement that is no comment are lexemes, and none of them is a comment. -/
private theorem Statement.plain_of_mem_front {statement : Statement} (h : statement.WellFormed)
    (hcomment : ∀ text, statement ≠ .comment text) :
    ∀ tok ∈ statement.front, tok.IsLexeme ∧ tok.kind ≠ .comment := by
  intro tok htok
  by_cases hclosed : statement.isClosed = true
  · obtain ⟨hlexeme, hinside⟩ := allInner_front h hclosed tok htok
    exact ⟨hlexeme, kind_of_inside hinside⟩
  · cases statement with
    | comment text => exact absurd rfl (hcomment text)
    | declare declaration =>
        obtain ⟨hlexeme, hinside⟩ := Declaration.inside_of_mem_tokens h tok htok
        exact ⟨hlexeme, kind_of_inside hinside⟩
    | _ => exact absurd rfl hclosed

/-- Lexing a printed statement gives its tokens back, each in its place. -/
theorem Statement.lex_print {statement : Statement} (h : statement.WellFormed) :
    lex statement.print = ⟨placeFrom 0 statement.tokens, none⟩ := by
  by_cases hcomment : ∃ text, statement = .comment text
  · obtain ⟨text, rfl⟩ := hcomment
    apply lex_joinTokens
    · intro tok htok
      obtain rfl := List.mem_singleton.mp htok
      exact isLexeme_comment text
    · simp [tokens, front, colon]
  · have hplain : ∀ tok ∈ statement.tokens, tok.IsLexeme ∧ tok.kind ≠ .comment := by
      intro tok htok
      rcases List.mem_append.mp htok with hmem | hmem
      · exact plain_of_mem_front h (fun text heq => hcomment ⟨text, heq⟩) tok hmem
      · split at hmem
        · obtain rfl := List.mem_singleton.mp hmem
          exact ⟨isLexeme_mark (by decide), by simp⟩
        · simp at hmem
    apply lex_joinTokens
    · exact fun tok htok => (hplain tok htok).1
    · exact fun tok htok => (hplain tok (List.dropLast_subset _ htok)).2

end Shorthand
