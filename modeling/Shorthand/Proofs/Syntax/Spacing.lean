import Shorthand.Proofs.Syntax.Lossless

/-!
# Lexing undoes printing

The tokens of a line can be written down again, with white space of any kind and length between
them, and lexing what was written gives the same tokens, but for the columns.  This is so for every
list of lexemes in which only the last one is a comment, wherever the lexemes come from: `<` and `=`
stay two operators, a string keeps the blanks and the slashes that it holds, and only a comment has
nothing after it.

## Strategy

`Spaced` follows the list of tokens, and so does the induction of `lexOnto_of_spaced`: a lexeme
before white space is cut off as a whole (`lexOnto_print`), and the white space before the next one
only moves it (`lexOnto_spaces`).  The last lexeme may be a comment, which takes what is left.  The
tokens of a line are lexemes of which only the last is a comment, and `joinTokens` writes them with
single blanks, which is one way to space them out (`spaced_joinTokens`).
-/

namespace Shorthand

open Text

/-! ## Tokens up to their columns -/

/-- What a token is, wherever it stands. -/
def Token.shape (tok : Token) : TokenKind × String := (tok.kind, tok.text)

/-- The token comes back, at whatever column, when its text is lexed alone. -/
def Token.LexesAlone (tok : Token) : Prop :=
  ∃ col, lex tok.print = ⟨[{ tok with col := col }], none⟩

/-- Lexing came to the end of the line, and the tokens are those given, but for the columns. -/
def Lexed.Gives (lexed : Lexed) (tokens : List Token) : Prop :=
  lexed.problem? = none ∧ lexed.tokens.map Token.shape = tokens.map Token.shape

instance (lexed : Lexed) (tokens : List Token) : Decidable (lexed.Gives tokens) :=
  inferInstanceAs (Decidable (_ ∧ _))

/-- The characters are the texts of the tokens, in order, with some white space between any two of
them. -/
inductive Spaced : List Token → List Char → Prop where
  | nil : Spaced [] []
  | last (tok : Token) : Spaced [tok] tok.print.toList
  | cons (tok : Token) {next : Token} {tokens : List Token} {gap chars : List Char}
      (hne : gap ≠ []) (hgap : ∀ c ∈ gap, isSpace c = true)
      (hrest : Spaced (next :: tokens) chars) :
      Spaced (tok :: next :: tokens) (tok.print.toList ++ (gap ++ chars))

/-- A token that comes back alone can only come back at the first column. -/
theorem Token.LexesAlone.isLexeme {tok : Token} (h : tok.LexesAlone) : tok.IsLexeme := by
  obtain ⟨col, hlex⟩ := h
  have hcovers := covers_lexOnto (.start tok.print.toList) rfl
  change (lex tok.print).Covers tok.print.toList at hcovers
  rw [hlex] at hcovers
  have hstands := hcovers.stands _ (List.mem_singleton_self _)
  -- the whole text of the token stands at its column, so that nothing is left before it
  have hlength := hstands.written.length_le
  have hprint : 0 < tok.print.toList.length := by
    rw [String.length_toList]
    exact hstands.print_pos
  have hpos := hstands.col_pos
  have hsame : (Token.print { tok with col := col }) = tok.print := rfl
  rw [hsame, List.length_drop, Token.start] at hlength
  have hcol : col = 1 := by
    simp only at hpos hlength
    omega
  rw [Token.IsLexeme, hlex, hcol]

/-! ## Lexing spaced lexemes -/

/-- White space before what is left only moves it. -/
theorem lexOnto_spaces (done : List Token) {gap : List Char}
    (hgap : ∀ c ∈ gap, isSpace c = true) (chars : List Char) (pos : Nat) :
    lexOnto done pos (gap ++ chars) = lexOnto done (pos + gap.length) chars := by
  induction gap generalizing pos with
  | nil => rfl
  | cons c gap ih =>
      have hc := hgap c (List.mem_cons_self ..)
      have hrest : ∀ d ∈ gap, isSpace d = true := fun d hd => hgap d (List.mem_cons_of_mem _ hd)
      rw [List.cons_append, lexOnto_space _ _ _ hc, ih hrest, List.length_cons, Nat.add_assoc,
        Nat.add_comm 1]

/-- A lexeme at the end of the line is the last token, also when it is a comment. -/
theorem lexOnto_last {tok : Token} (htok : tok.IsLexeme) (done : List Token) (pos : Nat) :
    lexOnto done pos tok.print.toList = ⟨done.reverse ++ [{ tok with col := pos + 1 }], none⟩ := by
  by_cases hkind : tok.kind = .comment
  · have hprint : tok.print.toList = '/' :: '/' :: tok.text.toList := by
      simp [Token.print, hkind]
    rw [hprint, lexOnto_comment]
    simp [← hkind]
  · have hstep := lexOnto_print htok hkind done pos startsBlank_nil
    rw [List.append_nil] at hstep
    rw [hstep, lexOnto_of_blank _ _ (by simp)]
    simp

/-- Lexing goes on with exactly the tokens that are written. -/
theorem lexOnto_of_spaced {tokens : List Token} {chars : List Char} (hspaced : Spaced tokens chars)
    (hlexemes : ∀ tok ∈ tokens, tok.IsLexeme)
    (hcomments : ∀ tok ∈ tokens.dropLast, tok.kind ≠ .comment) (done : List Token) (pos : Nat) :
    ∃ placed, lexOnto done pos chars = ⟨done.reverse ++ placed, none⟩ ∧
      placed.map Token.shape = tokens.map Token.shape := by
  -- the line begins after any tokens and at any place, so that the rest of it is such a line too
  induction hspaced generalizing done pos with
  | nil => exact ⟨[], by rw [lexOnto_of_blank _ _ (by simp), List.append_nil], rfl⟩
  | last tok => exact ⟨_, lexOnto_last (hlexemes tok (by simp)) done pos, rfl⟩
  | @cons tok next tokens gap chars hne hgap hrest ih =>
      have htok : tok.IsLexeme := hlexemes tok (by simp)
      have hkind : tok.kind ≠ .comment := hcomments tok (by simp)
      have hblank : StartsBlank (gap ++ chars) := by
        cases gap with
        | nil => exact absurd rfl hne
        | cons c gap => exact startsBlank_cons (hgap c (List.mem_cons_self ..))
      obtain ⟨placed, hplaced, hshapes⟩ :=
        ih (fun other hother => hlexemes other (List.mem_cons_of_mem _ hother))
          (fun other hother => hcomments other (by simp [hother]))
          ({ tok with col := pos + 1 } :: done) (pos + tok.print.length + gap.length)
      refine ⟨{ tok with col := pos + 1 } :: placed, ?_, ?_⟩
      · rw [lexOnto_print htok hkind done pos hblank, lexOnto_spaces _ hgap, hplaced]
        simp
      · rw [List.map_cons, hshapes]
        rfl

/-- Spaced lexemes are lexed as themselves, if only the last one is a comment. -/
theorem gives_of_spaced {tokens : List Token} {line : String} (hspaced : Spaced tokens line.toList)
    (hlexemes : ∀ tok ∈ tokens, tok.IsLexeme)
    (hcomments : ∀ tok ∈ tokens.dropLast, tok.kind ≠ .comment) : (lex line).Gives tokens := by
  obtain ⟨placed, hplaced, hshapes⟩ := lexOnto_of_spaced hspaced hlexemes hcomments [] 0
  rw [lex, hplaced]
  exact ⟨rfl, hshapes⟩

/-! ## Joined tokens -/

/-- Single blanks are white space. -/
theorem spaced_joinTokens (tokens : List Token) : Spaced tokens (joinTokens tokens).toList := by
  induction tokens with
  | nil =>
      have hempty : (joinTokens []).toList = [] := by simp [joinTokens]
      rw [hempty]
      exact .nil
  | cons tok tokens ih =>
      cases tokens with
      | nil =>
          have honly : joinTokens [tok] = tok.print := by simp [joinTokens]
          rw [honly]
          exact .last tok
      | cons next tokens =>
          have hjoin : (joinTokens (tok :: next :: tokens)).toList =
              tok.print.toList ++ ([' '] ++ (joinTokens (next :: tokens)).toList) := by
            simp [joinTokens]
          rw [hjoin]
          exact .cons tok (by simp) (List.forall_mem_singleton.mpr (by decide +kernel)) ih

/-- **Lexing undoes the printing of tokens.**  Lexemes of which only the last one may be a comment
can be written with any white space between them, and lexing the line succeeds with the same kinds
and texts in the same order.  The tokens of a line that was lexed are such lexemes, so joining them
with blanks loses nothing but their columns. -/
theorem lex_undoes_printing :
    (∀ (tokens : List Token) (line : String), (∀ tok ∈ tokens, tok.LexesAlone) →
      (∀ tok ∈ tokens.dropLast, tok.kind ≠ .comment) → Spaced tokens line.toList →
        (lex line).Gives tokens) ∧
    ∀ line : String, (lex (joinTokens (lex line).tokens)).Gives (lex line).tokens := by
  constructor
  · intro tokens line halone hcomments hspaced
    exact gives_of_spaced hspaced (fun tok htok => (halone tok htok).isLexeme) hcomments
  · intro line
    have hcovers : (lex line).Covers line.toList := covers_lexOnto (.start _) rfl
    exact gives_of_spaced (spaced_joinTokens _) (fun tok htok => isLexeme_of_mem_lex htok)
      hcovers.comment_last

/-- Tokens that would be read differently if they touched: `<` and `=`, a slash before a slash, and
literals that hold blanks. -/
def delicateTokens : List Token :=
  [.mark "<", .mark "=", .mark "/", .mark "/", ⟨.string, "\"x // y\"", 0⟩, ⟨.expr, "$( f(1) )", 0⟩,
    ⟨.comment, " the end // ", 9⟩]

/-- Delicate tokens are lexed as themselves from a line with tabs and wide blanks between them, and
from their joined texts. -/
theorem delicateTokens_undone :
    (lex "<\t= /  /\u2003\"x // y\"\n$( f(1) )\u00a0// the end // ").Gives delicateTokens ∧
    (lex (joinTokens (lex "x<y//z").tokens)).Gives (lex "x<y//z").tokens := by
  have hlexemes : ∀ tok ∈ delicateTokens, tok.IsLexeme := by decide +kernel
  have hspaced : Spaced delicateTokens
      "<\t= /  /\u2003\"x // y\"\n$( f(1) )\u00a0// the end // ".toList := by
    have htext : "<\t= /  /\u2003\"x // y\"\n$( f(1) )\u00a0// the end // ".toList =
        ['<'] ++ (['\t'] ++ (['='] ++ ([' '] ++ (['/'] ++ ([' ', ' '] ++ (['/'] ++ (['\u2003'] ++
          ("\"x // y\"".toList ++ (['\n'] ++ ("$( f(1) )".toList ++ (['\u00a0'] ++
            "// the end // ".toList))))))))))) := by
      decide
    rw [htext]
    have hspace : ∀ c ∈ ['\t', ' ', '\u2003', '\n', '\u00a0'], isSpace c = true :=
      List.all_eq_true.mp (by decide +kernel)
    refine .cons _ (by simp) ?_ (.cons _ (by simp) ?_ (.cons _ (by simp) ?_ (.cons _ (by simp) ?_
      (.cons _ (by simp) ?_ (.cons _ (by simp) ?_ (.last _))))))
    all_goals
      intro c hc
      exact hspace c (by simp_all)
  exact ⟨lex_undoes_printing.1 _ _ (fun tok htok => ⟨1, hlexemes tok htok⟩) (by decide) hspaced,
    lex_undoes_printing.2 _⟩

end Shorthand
