import Shorthand.Proofs.Syntax.Lexemes

/-!
# What the tokens of a line are of the line

A token remembers the column where it starts, so the tokens of a line say where in the line each
of them stands.  `Lexed.Covers` puts together what is true of them: every token stands in the line
as it is printed, tokens do not overlap and come in their order, and what belongs to no token is
white space.  Names, numbers and operators are as long as they can be, and only the last token can
be a comment.

## Strategy

`lexOnto` has taken tokens off the first characters of a line, and goes on with the others.
`Scanned` says of these first characters what `Lexed.Covers` says of the whole line.  Taking one
more lexeme keeps it (`Scanned.lexeme`), and at the end of the line nothing else is left to be
covered.  When there is a problem, the tokens before it still cover what was scanned.
-/

namespace Shorthand

open Text

/-! ## Tokens in a line -/

namespace Token

/-- How many characters of the line stand before the token. -/
def start (tok : Token) : Nat := tok.col - 1

/-- How many characters of the line stand before what follows on the token. -/
def stop (tok : Token) : Nat := tok.start + tok.print.length

/-- Whether the character at a position belongs to the token. -/
def Holds (tok : Token) (pos : Nat) : Prop := tok.start ≤ pos ∧ pos < tok.stop

/-- The token stands in a line of characters where its column says, and takes as much of it as it
can. -/
structure StandsIn (tok : Token) (chars : List Char) : Prop where
  col_pos : 0 < tok.col
  print_pos : 0 < tok.print.length
  written : tok.print.toList <+: chars.drop tok.start
  /-- A name or a number goes on to the first character that cannot be part of it. -/
  word_ends : tok.kind = .ident ∨ tok.kind = .number → ∀ c, chars[tok.stop]? = some c →
    c ≠ '_' ∧ isLetter c = false ∧ isDigit c = false
  /-- An operator is the longest one of the table that stands there. -/
  longest : tok.kind = .op → tok.text ∈ operators ∧
    ∀ op ∈ operators, op.toList <+: chars.drop tok.start → op.length ≤ tok.text.length

end Token

/-- The tokens of a line are what is in the line besides white space, up to the problem if there is
one. -/
structure Lexed.Covers (lexed : Lexed) (chars : List Char) : Prop where
  stands : ∀ tok ∈ lexed.tokens, tok.StandsIn chars
  ordered : lexed.tokens.Pairwise fun tok later => tok.stop ≤ later.start
  /-- A character of no token is white space, unless it comes after all tokens and there is a
  problem. -/
  blank : ∀ pos c, chars[pos]? = some c → (∀ tok ∈ lexed.tokens, ¬ tok.Holds pos) →
    isSpace c = true ∨ lexed.problem?.isSome = true ∧ ∀ tok ∈ lexed.tokens, tok.stop ≤ pos
  comment_last : ∀ tok ∈ lexed.tokens.dropLast, tok.kind ≠ .comment

/-! ## Lexemes are as long as they can be -/

/-- The operator that is found is the longest one at the start of the characters. -/
theorem length_le_of_operatorAt? {chars : List Char} {op other : String}
    (h : operatorAt? chars = some op) (hother : other ∈ operators)
    (hfits : other.toList <+: chars) : other.length ≤ op.length := by
  have hsorted : operators.Pairwise fun op later => later.length ≤ op.length := by decide
  obtain ⟨-, before, after, htable, hbefore⟩ := List.find?_eq_some_iff_append.mp h
  rw [htable] at hother hsorted
  rcases List.mem_append.mp hother with hmem | hmem
  · -- an operator that stands earlier in the table would have been found
    have hnot := hbefore other hmem
    rw [List.isPrefixOf_iff_prefix.mpr hfits] at hnot
    cases hnot
  · rcases List.mem_cons.mp hmem with rfl | hmem
    · exact Nat.le_refl _
    · have hrest := (List.pairwise_append.mp hsorted).2.1
      exact (List.pairwise_cons.mp hrest).1 other hmem

/-- What follows on a name or a number is no part of it. -/
theorem isIdentPart_of_word {c next : Char} {rest : List Char} {l : Lexeme}
    (h : lexeme c rest = .ok l) (hkind : l.kind = .ident ∨ l.kind = .number)
    (hnext : l.rest.head? = some next) : isIdentPart next = false := by
  have hdrop : ∀ chars : List Char,
      (chars.dropWhile isIdentPart).head? = some next → isIdentPart next = false := by
    intro chars hhead
    have hnot := List.head?_dropWhile_not isIdentPart chars
    rw [hhead] at hnot
    simpa using hnot
  cases cuts_of_lexeme h with
  | ident => exact hdrop rest hnext
  | number => exact hdrop rest hnext
  | comment | string | char | expr | op => simp at hkind

/-- The operator that is cut off is the longest one of the table. -/
theorem longest_of_lexeme {c : Char} {rest : List Char} {l : Lexeme}
    (h : lexeme c rest = .ok l) (hkind : l.kind = .op) :
    l.text ∈ operators ∧
      ∀ op ∈ operators, op.toList <+: c :: rest → op.length ≤ l.text.length := by
  cases cuts_of_lexeme h with
  | op _ hop =>
      have htext : ∀ (op : String) (after : List Char), (Lexeme.mk .op op.toList after).text = op :=
        fun op after => String.ofList_toList
      rw [htext]
      exact ⟨(of_operatorAt?_eq_some hop).1, fun other => length_le_of_operatorAt? hop⟩
  | comment | ident | number | string | char | expr => simp at hkind

/-- A lexeme that starts at a position becomes a token that stands there. -/
theorem standsIn_of_lexeme {chars rest : List Char} {c : Char} {l : Lexeme} {pos : Nat}
    (hrest : chars.drop pos = c :: rest) (h : lexeme c rest = .ok l) :
    (Token.mk l.kind l.text (pos + 1)).StandsIn chars := by
  have hprint := print_of_lexeme h (pos + 1)
  have hlength : (Token.mk l.kind l.text (pos + 1)).print.length = l.chars.length := by
    rw [← hprint, String.length_toList]
  have happend : chars.drop pos = l.chars ++ l.rest := hrest.trans (lexeme_append h).symm
  refine ⟨Nat.succ_pos pos, ?_, ?_, ?_, ?_⟩
  · obtain ⟨tail, htail, -⟩ := chars_of_lexeme h
    rw [hlength, htail]
    exact Nat.succ_pos _
  · rw [hprint]
    exact ⟨l.rest, happend.symm⟩
  · intro hkind next hnext
    -- the character after the token is the first one that is left
    have hhead : l.rest.head? = some next := by
      rw [← hnext, Token.stop, hlength, ← List.getElem?_drop]
      change _ = (chars.drop pos)[l.chars.length]?
      rw [happend, List.getElem?_append_right (Nat.le_refl _), Nat.sub_self,
        List.head?_eq_getElem?]
    have hpart := isIdentPart_of_word h hkind hhead
    simpa [isIdentPart, and_assoc] using hpart
  · intro hkind
    have hlongest := longest_of_lexeme h hkind
    rw [← hrest] at hlongest
    exact hlongest

/-! ## Scanning a line -/

private theorem drop_after {chars first second : List Char} {pos : Nat}
    (h : chars.drop pos = first ++ second) : chars.drop (pos + first.length) = second := by
  rw [← List.drop_drop, h, List.drop_left]

/-- The tokens, the last one first, cover the first characters of a line.  A comment takes the
whole line. -/
structure Scanned (chars : List Char) (done : List Token) (pos : Nat) : Prop where
  stands : ∀ tok ∈ done, tok.StandsIn chars
  before : ∀ tok ∈ done, tok.stop ≤ pos
  ordered : done.Pairwise fun tok earlier => earlier.stop ≤ tok.start
  blank : ∀ p < pos, ∀ c, chars[p]? = some c → (∀ tok ∈ done, ¬ tok.Holds p) → isSpace c = true
  comment_last : ∀ tok ∈ done.tail, tok.kind ≠ .comment
  comment_ends : ∀ tok ∈ done, tok.kind = .comment → chars.drop pos = []

namespace Scanned

variable {chars : List Char} {done : List Token} {pos : Nat}

theorem start (chars : List Char) : Scanned chars [] 0 := by
  refine ⟨nofun, nofun, .nil, ?_, nofun, nofun⟩
  intro p hp
  exact absurd hp (Nat.not_lt_zero p)

/-- White space belongs to no token. -/
theorem space (h : Scanned chars done pos) {blank more : List Char}
    (hsplit : chars.drop pos = blank ++ more) (hspace : ∀ c ∈ blank, isSpace c = true) :
    Scanned chars done (pos + blank.length) where
  stands := h.stands
  before tok htok := Nat.le_trans (h.before tok htok) (Nat.le_add_right pos _)
  ordered := h.ordered
  blank := by
    intro p hp c hc hfree
    by_cases hbefore : p < pos
    · exact h.blank p hbefore c hc hfree
    · refine hspace c (List.mem_of_getElem? (i := p - pos) ?_)
      have hlt : p - pos < blank.length := by omega
      have hleft : (blank ++ more)[p - pos]? = blank[p - pos]? := List.getElem?_append_left hlt
      rw [← hleft, ← hsplit, List.getElem?_drop, Nat.add_sub_cancel' (Nat.le_of_not_lt hbefore),
        hc]
  comment_last := h.comment_last
  comment_ends := by
    intro tok htok hkind
    rw [← List.drop_drop, h.comment_ends tok htok hkind, List.drop_nil]

/-- A lexeme becomes one more token. -/
theorem lexeme {c : Char} {rest : List Char} {l : Lexeme} (h : Scanned chars done pos)
    (hrest : chars.drop pos = c :: rest) (hlexeme : Shorthand.lexeme c rest = .ok l) :
    Scanned chars (⟨l.kind, l.text, pos + 1⟩ :: done) (pos + l.chars.length) := by
  have hstands := standsIn_of_lexeme hrest hlexeme
  have hlength : (Token.mk l.kind l.text (pos + 1)).print.length = l.chars.length := by
    rw [← print_of_lexeme hlexeme (pos + 1), String.length_toList]
  have hstop : (Token.mk l.kind l.text (pos + 1)).stop = pos + l.chars.length := by
    rw [Token.stop, hlength]
    rfl
  refine ⟨?_, ?_, ?_, ?_, ?_, ?_⟩
  · exact List.forall_mem_cons.mpr ⟨hstands, h.stands⟩
  · refine List.forall_mem_cons.mpr ⟨Nat.le_of_eq hstop, fun tok htok => ?_⟩
    exact Nat.le_trans (h.before tok htok) (Nat.le_add_right pos _)
  · exact List.pairwise_cons.mpr ⟨h.before, h.ordered⟩
  · intro p hp next hnext hfree
    rw [List.forall_mem_cons] at hfree
    by_cases hbefore : p < pos
    · exact h.blank p hbefore next hnext hfree.2
    · exact absurd ⟨Nat.le_of_not_lt hbefore, hstop ▸ hp⟩ hfree.1
  · -- after a comment there would be nothing left for the lexeme
    intro tok htok hkind
    have hnil := h.comment_ends tok htok hkind
    rw [hrest] at hnil
    cases hnil
  · refine List.forall_mem_cons.mpr ⟨fun hkind => ?_, fun tok htok hkind => ?_⟩
    · obtain ⟨text, -, -, rfl⟩ := lexeme_comment hlexeme hkind
      exact drop_after (hrest.trans (lexeme_append hlexeme).symm)
    · rw [← List.drop_drop, h.comment_ends tok htok hkind, List.drop_nil]

/-- The tokens before a place where lexing ends cover the line up to that place. -/
theorem covers (h : Scanned chars done pos) {problem? : Option Problem}
    (hrest : problem?.isSome = true ∨ ∀ c ∈ chars.drop pos, isSpace c = true) :
    (Lexed.mk done.reverse problem?).Covers chars where
  stands tok htok := h.stands tok (List.mem_reverse.mp htok)
  ordered := List.pairwise_reverse.mpr h.ordered
  blank := by
    intro p c hc hfree
    simp only [List.mem_reverse] at hfree ⊢
    by_cases hbefore : p < pos
    · exact .inl (h.blank p hbefore c hc hfree)
    · rcases hrest with hproblem | hspace
      · exact .inr ⟨hproblem, fun tok htok =>
          Nat.le_trans (h.before tok htok) (Nat.le_of_not_lt hbefore)⟩
      · refine .inl (hspace c (List.mem_of_getElem? (i := p - pos) ?_))
        rwa [List.getElem?_drop, Nat.add_sub_cancel' (Nat.le_of_not_lt hbefore)]
  comment_last := by
    intro tok htok
    rw [List.dropLast_reverse, List.mem_reverse] at htok
    exact h.comment_last tok htok

end Scanned

/-- Lexing goes on to cover the line. -/
theorem covers_lexOnto {chars rest : List Char} {done : List Token} {pos : Nat}
    (h : Scanned chars done pos) (hrest : chars.drop pos = rest) :
    (lexOnto done pos rest).Covers chars := by
  -- the places where lexing goes on come ever later in the line
  fun_induction lexOnto done pos rest with
  | case1 done pos rest hblank =>
      refine h.covers (.inr fun c hc => ?_)
      rw [hrest, ← List.takeWhile_append_dropWhile (p := isSpace) (l := rest), hblank,
        List.append_nil] at hc
      exact List.all_eq_true.mp List.all_takeWhile c hc
  | case2 done pos rest c next hnext problem hproblem => exact h.covers (.inl rfl)
  | case3 done pos rest c next hnext first l hlexeme ih =>
      have hsplit : chars.drop pos = rest.takeWhile isSpace ++ c :: next := by
        rw [hrest, ← hnext, List.takeWhile_append_dropWhile]
      have hspace : Scanned chars done first :=
        h.space hsplit fun d hd => List.all_eq_true.mp List.all_takeWhile d hd
      have hfirst : chars.drop first = c :: next := drop_after hsplit
      exact ih (hspace.lexeme hfirst hlexeme)
        (drop_after (hfirst.trans (lexeme_append hlexeme).symm))

/-- **The tokens of a line are the line.**  Where lexing succeeds, and up to where it fails, every
token stands in the line as it is printed, at its column; the tokens do not overlap, and all else is
white space.  A comment is the last token, names and numbers end only where nothing that belongs to
them follows, and an operator is the longest one that stands there. -/
theorem lex_covers_line (line : String) : (lex line).Covers line.toList :=
  covers_lexOnto (.start _) rfl

end Shorthand
