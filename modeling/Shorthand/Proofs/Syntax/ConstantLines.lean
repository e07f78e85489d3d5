import Shorthand.Proofs.Syntax.Encoding
import Shorthand.Proofs.Syntax.RoundTrip
import Shorthand.Statement.Parse

/-!
# Lines that declare

A declaration that is printed is read back from its line, and nothing else is
(`parseLine_declaration`).

A constant is written as `const NAME = VALUE`, with the value as it is.  If the value is put
together from its own tokens, the line is read as the definition of just this constant
(`parseLine_constantLine`), wherever it stands in a source.

The value is lexed behind other tokens.  That moves its tokens to the right and does nothing else
(`lexOnto_toList`), for lexing never looks back.  Neither end of the line is white space, so that
the line is not changed when it is trimmed, nor when a carriage return is dropped from its end.
-/

namespace Shorthand

open Text

/-! ## Lexing behind other tokens -/

/-- The token at a place further to the right. -/
def Token.moved (distance : Nat) (tok : Token) : Token := { tok with col := tok.col + distance }

@[simp] theorem Token.print_moved (distance : Nat) (tok : Token) :
    (tok.moved distance).print = tok.print := rfl

/-- What is lexed does not depend on the tokens before it, nor on its place. -/
theorem exists_lexOnto (chars : List Char) :
    ∃ (tokens : List Token) (problem? : Option Problem), ∀ done pos, lexOnto done pos chars =
      ⟨done.reverse ++ tokens.map (Token.moved pos), problem?⟩ := by
  induction hlength : chars.length using Nat.strongRecOn generalizing chars with
  | ind length ih =>
      cases hrest : chars.dropWhile isSpace with
      | nil => exact ⟨[], none, fun done pos => by simp [lexOnto_of_blank done pos hrest]⟩
      | cons c rest =>
          cases hlexeme : lexeme c rest with
          | error problem =>
              exact ⟨[], some problem, fun done pos => by
                simp [lexOnto_of_error done pos hrest hlexeme]⟩
          | ok l =>
              have hshort : l.rest.length < length := by
                have hlexed := length_rest_lt_of_lexeme hlexeme
                have hdropped := (List.dropWhile_suffix (l := chars) isSpace).length_le
                rw [hrest] at hdropped
                omega
              obtain ⟨tokens, problem?, hafter⟩ := ih _ hshort l.rest rfl
              refine ⟨⟨l.kind, l.text, (chars.takeWhile isSpace).length + 1⟩ ::
                  tokens.map (Token.moved ((chars.takeWhile isSpace).length + l.chars.length)),
                problem?, fun done pos => ?_⟩
              rw [lexOnto_of_ok done pos hrest hlexeme, hafter]
              simp [Token.moved, Function.comp_def, Nat.add_comm, Nat.add_left_comm, Nat.add_assoc]

theorem lexOnto_toList (done : List Token) (pos : Nat) (text : String) :
    lexOnto done pos text.toList =
      ⟨done.reverse ++ (lex text).tokens.map (Token.moved pos), (lex text).problem?⟩ := by
  obtain ⟨tokens, problem?, hlex⟩ := exists_lexOnto text.toList
  have hstart : Token.moved 0 = id := rfl
  rw [lex, hlex, hlex, hstart]
  simp

/-! ## The ends of a line -/

theorem getLast?_of_closeQuote {quote : Char} {taken chars closed after : List Char}
    (h : closeQuote quote taken chars = some (closed, after)) : closed.getLast? = some quote := by
  fun_induction closeQuote quote taken chars with
  | case1 => cases h
  | case2 taken c rest ih => exact ih h
  | case3 taken c rest _ hc =>
      obtain ⟨rfl, -⟩ := Prod.mk.inj (Option.some.inj h)
      simpa using hc
  | case4 taken c rest _ hc ih => exact ih h

theorem getLast?_of_closeParen {depth : Nat} {taken chars closed after : List Char}
    (h : closeParen depth taken chars = some (closed, after)) : closed.getLast? = some ')' := by
  fun_induction closeParen depth taken chars with
  | case1 => cases h
  | case2 depth taken c rest hopen ih => exact ih h
  | case3 taken c rest hopen hclose =>
      obtain ⟨rfl, -⟩ := Prod.mk.inj (Option.some.inj h)
      simpa using hclose
  | case4 taken c rest hopen hclose depth ih => exact ih h
  | case5 depth taken c rest hopen hclose ih => exact ih h

/-- A lexeme does not end in white space, unless it is a comment. -/
theorem isSpace_getLast_of_lexeme {c last : Char} {rest : List Char} {l : Lexeme}
    (h : lexeme c rest = .ok l) (hc : isSpace c = false) (hkind : l.kind ≠ .comment)
    (hlast : l.chars.getLast? = some last) : isSpace last = false := by
  have hword : last ∈ c :: rest.takeWhile isIdentPart → isSpace last = false := by
    intro hmem
    rcases List.mem_cons.mp hmem with rfl | hpart
    · exact hc
    · have hident := List.all_eq_true.mp List.all_takeWhile last hpart
      cases hspace : isSpace last with
      | false => rfl
      | true => rw [isIdentPart_of_isSpace hspace] at hident; cases hident
  cases cuts_of_lexeme h with
  | comment => exact absurd rfl hkind
  | ident | number => exact hword (List.mem_of_getLast? hlast)
  | string hquote hclose | char hquote hclose =>
      rw [getLast?_of_closeQuote hclose] at hlast
      obtain rfl := Option.some.inj hlast
      rw [hquote]
      decide
  | expr hdollar hopen hclose =>
      rw [getLast?_of_closeParen hclose] at hlast
      obtain rfl := Option.some.inj hlast
      decide
  | op hslash hfound =>
      exact isSpace_of_mem_operators (of_operatorAt?_eq_some hfound).1 last
        (List.mem_of_getLast? hlast)

theorem isSpace_getLast_of_isLexeme {tok : Token} {last : Char} (h : tok.IsLexeme)
    (hkind : tok.kind ≠ .comment) (hlast : tok.print.toList.getLast? = some last) :
    isSpace last = false := by
  obtain ⟨c, tail, hprint, hc, hlexeme⟩ := cut_of_isLexeme h
  rw [hprint] at hlast
  exact isSpace_getLast_of_lexeme hlexeme hc hkind hlast

theorem trim_eq_self {text : String} (hfirst : ∀ c ∈ text.toList.head?, isSpace c = false)
    (hlast : ∀ c ∈ text.toList.getLast?, isSpace c = false) : trim text = text := by
  have hdrop : ∀ chars : List Char, (∀ c ∈ chars.head?, isSpace c = false) →
      chars.dropWhile isSpace = chars := by
    intro chars hhead
    cases chars with
    | nil => rfl
    | cons c chars => simp [hhead c rfl]
  rw [List.getLast?_eq_head?_reverse] at hlast
  rw [trim, trimChars, hdrop _ hfirst, hdrop _ hlast, List.reverse_reverse, String.ofList_toList]

/-- A text that is put together from lexemes does not end in white space. -/
theorem exists_getLast_join {tokens : List Token} (hne : tokens ≠ [])
    (htokens : ∀ tok ∈ tokens, tok.IsLexeme ∧ tok.kind ≠ .comment) :
    ∃ last, (String.join (tokens.map Token.print)).toList.getLast? = some last ∧
      isSpace last = false := by
  obtain ⟨front, tok, rfl⟩ := List.eq_nil_or_concat tokens |>.resolve_left hne
  obtain ⟨hlexeme, hkind⟩ := htokens tok (by simp)
  obtain ⟨c, tail, hprint, -, -⟩ := cut_of_isLexeme hlexeme
  have hlast : tok.print.toList.getLast? = some (tail.getLast?.getD c) := by
    rw [hprint, List.getLast?_cons]
  refine ⟨_, ?_, isSpace_getLast_of_isLexeme hlexeme hkind hlast⟩
  rw [← hlast]
  simp [hprint, List.getLast?_cons]

/-! ## The line of a declaration -/

/-- The line of a declaration is read as just this declaration. -/
theorem parseLine_declaration {declaration : Declaration} (h : declaration.WellFormed) :
    parseLine Handler.all (Statement.declare declaration).print = .ok [.declare declaration] := by
  have hwell : (Statement.declare declaration).WellFormed := h
  rw [parseLine, Statement.lex_print hwell]
  exact dispatch_tokens hwell (by simp)

/-! ## The line of a constant -/

/-- The line that defines a constant. -/
def constantLine (name value : String) : String := "const " ++ name ++ " = " ++ value

theorem toList_constantLine (name value : String) :
    (constantLine name value).toList =
      (Token.word "const").print.toList ++ ' ' :: ((Token.word name).print.toList ++
        ' ' :: ((Token.mark "=").print.toList ++ ' ' :: value.toList)) := by
  have hconst : (Token.word "const").print.toList ++ [' '] = "const ".toList := rfl
  have hequals : ' ' :: ((Token.mark "=").print.toList ++ [' ']) = " = ".toList := rfl
  simp [constantLine, Token.print, ← hconst, ← hequals]

/-- What stands behind the equals sign of a constant is its value, up to the end of the line. -/
theorem dispatch_const {name value : String} {tokens : List Token} {col col' col'' : Nat}
    (hname : IsName name) (htokens : tokens ≠ [])
    (hvalue : value = String.join (tokens.map Token.print))
    (hinside : ∀ tok ∈ tokens, endsStatement [";"] tok = false) :
    dispatch Handler.all
        (⟨.ident, "const", col⟩ :: ⟨.ident, name, col'⟩ :: ⟨.op, "=", col''⟩ :: tokens) =
      .ok [.declare (.const name value)] := by
  have hbody : ∀ tok ∈ (⟨.ident, name, col'⟩ :: ⟨.op, "=", col''⟩ :: tokens : List Token),
      endsStatement [";"] tok = false := by
    simp only [List.forall_mem_cons]
    exact ⟨rfl, rfl, hinside⟩
  have hsegment : Handler.declaration.segment
      (⟨.ident, name, col'⟩ :: ⟨.op, "=", col''⟩ :: tokens) =
        ⟨⟨.ident, name, col'⟩ :: ⟨.op, "=", col''⟩ :: tokens, [], none⟩ := by
    have happend := Segment.upTo_append hbody []
    simpa [Handler.segment, Segment.upTo] using happend
  refine dispatch_first (find?_starts_declaration (by decide) col) hsegment rfl ?_
  simp [Handler.read, readDeclaration, readConst_equals hname htokens hvalue]

section constantLine

variable {name value : String} (h : (Declaration.const name value).WellFormed)

include h

theorem lex_constantLine :
    ∃ first second third distance, lex (constantLine name value) =
      ⟨⟨.ident, "const", first⟩ :: ⟨.ident, name, second⟩ :: ⟨.op, "=", third⟩ ::
        (lex value).tokens.map (Token.moved distance), none⟩ := by
  obtain ⟨hname, hproblem, -, -, -⟩ := h
  have hspace : isSpace ' ' = true := by decide
  have hconst : (Token.word "const").IsLexeme := by decide +kernel
  have hequals : (Token.mark "=").IsLexeme := isLexeme_mark (by decide)
  have hblank : ∀ chars, StartsBlank (' ' :: chars) := fun chars => startsBlank_cons hspace
  rw [lex, toList_constantLine,
    lexOnto_print hconst (by simp) _ _ (hblank _), lexOnto_space _ _ _ hspace,
    lexOnto_print hname.1 (by simp) _ _ (hblank _), lexOnto_space _ _ _ hspace,
    lexOnto_print hequals (by simp) _ _ (hblank _), lexOnto_space _ _ _ hspace, lexOnto_toList,
    hproblem]
  exact ⟨_, _, _, _, rfl⟩

/-- The line ends with the value, and so not in white space. -/
theorem exists_getLast_constantLine :
    ∃ last, (constantLine name value).toList.getLast? = some last ∧ isSpace last = false := by
  obtain ⟨-, -, hne, hvalue, hinside⟩ := h
  have htokens : ∀ tok ∈ (lex value).tokens, tok.IsLexeme ∧ tok.kind ≠ .comment := by
    refine fun tok htok => ⟨isLexeme_of_mem_lex htok, fun hkind => ?_⟩
    have hends := hinside tok htok
    simp [endsStatement, hkind] at hends
  obtain ⟨last, hlast, hspace⟩ := exists_getLast_join hne htokens
  rw [← hvalue] at hlast
  refine ⟨last, ?_, hspace⟩
  have hline : (constantLine name value).toList =
      ("const " ++ name ++ " = ").toList ++ value.toList := String.toList_append
  rw [hline, List.getLast?_append, hlast, Option.some_or]

theorem trim_constantLine : trim (constantLine name value) = constantLine name value := by
  obtain ⟨last, hlast, hspace⟩ := exists_getLast_constantLine h
  refine trim_eq_self ?_ ?_
  · rw [toList_constantLine]
    simp [Token.print]
    decide
  · intro c hc
    obtain rfl := Option.some.inj (hlast.symm.trans hc)
    exact hspace

theorem lineText_constantLine :
    Source.lineText (constantLine name value).toUTF8.toList = constantLine name value := by
  obtain ⟨last, hlast, hspace⟩ := exists_getLast_constantLine h
  refine Source.lineText_toUTF8 hlast ?_
  rintro rfl
  exact absurd hspace (by decide)

/-- The line of a constant is read as its definition and nothing else. -/
theorem parseLine_constantLine :
    parseLine Handler.all (constantLine name value) = .ok [.declare (.const name value)] := by
  obtain ⟨first, second, third, distance, hlex⟩ := lex_constantLine h
  obtain ⟨hname, -, htokens, hvalue, hinside⟩ := h
  rw [parseLine, hlex]
  refine dispatch_const hname (by simpa using htokens) ?_ (List.forall_mem_map.mpr hinside)
  rw [List.map_map]
  exact hvalue

end constantLine

end Shorthand
