import Mathlib.Data.List.Chain
import Mathlib.Data.List.TakeWhile
import Shorthand.Proofs.Syntax.ConstantLines
import Shorthand.Proofs.Syntax.Spacing

/-!
# Tokens without blanks between them

The value of a constant is kept as the texts of its tokens, one directly after the other.  Lexing it
gives the tokens back exactly if no token clings to the next one (`gives_glued_iff`): the two texts
`1` and `2` are the number `12`, and `<` and `=` are the operator `<=`.

## Strategy

A token that stands before other characters is cut off as it is, unless it goes on into them
(`Token.GoesOn`): a word before a character of words, an operator before characters that make a
longer one of it, or a comment.  If it does not go on, the cut is that of the token alone
(`lexeme_before`), and if it does, another token comes out (`shape_ne_of_goesOn`).  Whether a token
goes on into the texts of all the tokens after it can be seen from the next one alone
(`goesOn_append_iff`), since the first two characters of every operator of three are an operator
themselves.
-/

namespace Shorthand

open Text

/-! ## Tokens that cling -/

/-- Names, keywords, registers and numbers. -/
def Token.IsWord (tok : Token) : Prop := tok.kind = .ident ∨ tok.kind = .number

instance (tok : Token) : Decidable tok.IsWord := inferInstanceAs (Decidable (_ ∨ _))

/-- What operators may grow to: a longer operator, or the start of a comment. -/
def longMarks : List String := "//" :: operators

/-- Whether two tokens become something else if the second one follows directly on the first one:
two words become one, and two operators a longer one or a comment. -/
def Token.Clings (first second : Token) : Prop :=
  first.IsWord ∧ second.IsWord ∨
    first.kind = .op ∧ second.kind = .op ∧ ∃ mark ∈ longMarks, first.text.length < mark.length ∧
      mark.toList <+: first.text.toList ++ second.text.toList

instance (first second : Token) : Decidable (first.Clings second) :=
  inferInstanceAs (Decidable (_ ∧ _ ∨ _ ∧ _ ∧ _))

/-- Whether the lexeme of a token takes more characters than the text of the token when it stands
before others. -/
def Token.GoesOn (tok : Token) (more : List Char) : Prop :=
  tok.IsWord ∧ (∃ c ∈ more.head?, isIdentPart c = true) ∨
    tok.kind = .op ∧ ∃ mark ∈ longMarks, tok.text.length < mark.length ∧
      mark.toList <+: tok.text.toList ++ more

/-! ## Cutting off a token -/

section cutting

variable {tok : Token} {c : Char} {tail more : List Char}

/-- The text of a token that is no comment. -/
theorem Token.text_eq_print (h : tok.kind ≠ .comment) : tok.text = tok.print := by
  unfold Token.print
  split
  · rename_i hkind
    exact absurd hkind h
  · rfl

/-- How a token comes about when its text is all there is. -/
theorem cuts_of_isLexeme (h : tok.IsLexeme) (hprint : tok.print.toList = c :: tail) :
    Cuts c tail ⟨tok.kind, c :: tail, []⟩ := by
  obtain ⟨c', tail', hprint', -, hlexeme⟩ := cut_of_isLexeme h
  obtain ⟨rfl, rfl⟩ := List.cons.inj (hprint.symm.trans hprint')
  exact cuts_of_lexeme hlexeme

theorem takeWhile_before (htail : tail.takeWhile isIdentPart = tail)
    (hmore : ∀ d ∈ more.head?, isIdentPart d = false) :
    (tail ++ more).takeWhile isIdentPart = tail ∧
      (tail ++ more).dropWhile isIdentPart = more := by
  have hall : ∀ d ∈ tail, isIdentPart d = true := List.takeWhile_eq_self_iff.mp htail
  rw [List.takeWhile_append_of_pos hall, List.dropWhile_append_of_pos hall]
  cases more with
  | nil => exact ⟨List.append_nil _, rfl⟩
  | cons d more =>
      have hd : isIdentPart d = false := hmore d rfl
      simp [hd]

/-- An operator stays the longest one, if no longer one begins with it. -/
theorem operatorAt?_before {op : String} (h : operatorAt? op.toList = some op)
    (hmore : ∀ mark ∈ operators, op.length < mark.length →
      ¬ mark.toList <+: op.toList ++ more) :
    operatorAt? (op.toList ++ more) = some op := by
  unfold operatorAt? at h ⊢
  obtain ⟨-, before, after, htable, hbefore⟩ := List.find?_eq_some_iff_append.mp h
  refine List.find?_eq_some_iff_append.mpr ⟨?_, before, after, htable, ?_⟩
  · exact List.isPrefixOf_iff_prefix.mpr (List.prefix_append _ _)
  · intro other hother
    have hfits := hbefore other hother
    simp only [Bool.not_eq_true', ← Bool.not_eq_true, List.isPrefixOf_iff_prefix] at hfits ⊢
    intro hother'
    rcases Nat.lt_or_ge op.length other.length with hlonger | hle
    · exact hmore other (by simp [htable, hother]) hlonger hother'
    · refine hfits (List.prefix_of_prefix_length_le hother' (List.prefix_append _ more) ?_)
      rwa [String.length_toList, String.length_toList]

/-- A token that does not go on is cut off as it is. -/
theorem lexeme_before (htok : tok.IsLexeme) (hprint : tok.print.toList = c :: tail)
    (hkind : tok.kind ≠ .comment) (hmore : ¬ tok.GoesOn more) :
    lexeme c (tail ++ more) = .ok ⟨tok.kind, c :: tail, more⟩ := by
  have hcuts := cuts_of_isLexeme htok hprint
  obtain ⟨kind, text, col⟩ := tok
  have htext : text.toList = c :: tail := by
    rw [← hprint]
    exact congrArg String.toList (Token.text_eq_print hkind)
  dsimp only at hcuts hkind ⊢
  refine lexeme_of_cuts ?_
  generalize hl : (Lexeme.mk kind (c :: tail) []) = l at hcuts
  cases hcuts with
  | comment =>
      cases hl
      exact absurd rfl hkind
  | ident hstart =>
      obtain ⟨rfl, htail, -⟩ := Lexeme.mk.inj hl
      obtain ⟨htake, hdrop⟩ := takeWhile_before (List.cons.inj htail).2.symm
        fun d hd => Bool.eq_false_iff.mpr fun hpart => hmore (.inl ⟨.inl rfl, d, hd, hpart⟩)
      have hcut : Cuts c (tail ++ more) _ := .ident hstart
      rwa [htake, hdrop] at hcut
  | number hstart hdigit =>
      obtain ⟨rfl, htail, -⟩ := Lexeme.mk.inj hl
      obtain ⟨htake, hdrop⟩ := takeWhile_before (List.cons.inj htail).2.symm
        fun d hd => Bool.eq_false_iff.mpr fun hpart => hmore (.inl ⟨.inr rfl, d, hd, hpart⟩)
      have hcut : Cuts c (tail ++ more) _ := .number hstart hdigit
      rwa [htake, hdrop] at hcut
  | string hquote hclose =>
      obtain ⟨rfl, rfl, rfl⟩ := Lexeme.mk.inj hl
      obtain ⟨body, hbody, hstable⟩ := closeQuote_stable (by simp [hquote]) hclose
      obtain rfl : tail = body := (List.cons.inj hbody).2
      exact .string hquote (hstable more)
  | char hquote hclose hlength =>
      obtain ⟨rfl, rfl, rfl⟩ := Lexeme.mk.inj hl
      obtain ⟨body, hbody, hstable⟩ := closeQuote_stable (by simp [hquote]) hclose
      obtain rfl : tail = body := (List.cons.inj hbody).2
      exact .char hquote (hstable more) hlength
  | expr hdollar hopen hclose =>
      obtain ⟨rfl, rfl, rfl⟩ := Lexeme.mk.inj hl
      obtain ⟨body, hbody, hstable⟩ := closeParen_stable hclose
      obtain ⟨rfl, rfl⟩ := List.cons.inj hbody
      exact .expr rfl rfl (hstable more)
  | @op mark hslash hfound =>
      obtain ⟨rfl, hchars, -⟩ := Lexeme.mk.inj hl
      obtain rfl : text = mark := String.toList_inj.mp (htext.trans hchars)
      rw [← htext] at hfound
      have hstable := operatorAt?_before hfound fun mark hmark hlonger hfits =>
        hmore (.inr ⟨rfl, mark, List.mem_cons_of_mem _ hmark, hlonger, hfits⟩)
      rw [htext, List.cons_append] at hstable
      -- a slash after an operator that ends in one would make it a comment
      have hcomment : ¬ (c = '/' ∧ (tail ++ more).head? = some '/') := by
        rintro ⟨rfl, hnext⟩
        cases tail with
        | cons d tail => exact hslash ⟨rfl, hnext⟩
        | nil =>
            obtain ⟨more, rfl⟩ := List.head?_eq_some_iff.mp hnext
            refine hmore (.inr ⟨rfl, "//", List.mem_cons_self .., ?_, ?_⟩)
            · rw [← String.length_toList, ← String.length_toList, htext]
              decide
            · rw [htext]
              exact ⟨more, rfl⟩
      have hlength : text.length = (c :: tail).length := by rw [← htext, String.length_toList]
      have hcut : Cuts c (tail ++ more) _ := .op hcomment hstable
      simpa [htext, hlength] using hcut

/-- A token that goes on into what follows does not come out. -/
theorem shape_ne_of_goesOn {l : Lexeme} (hprint : tok.print.toList = c :: tail)
    (hmore : tok.GoesOn more) (hl : lexeme c (tail ++ more) = .ok l) :
    (l.kind, l.text) ≠ tok.shape := by
  intro hshape
  obtain ⟨hkind, htext⟩ := Prod.mk.inj hshape
  -- the lexeme would be the token, with the same characters after it
  have hchars : l.chars = c :: tail := by
    rw [← print_of_lexeme hl tok.col, hkind, htext, ← hprint]
  have hrest : l.rest = more := by
    have happend := lexeme_append hl
    rwa [hchars, List.cons_append, List.cons.injEq, eq_self, true_and,
      List.append_cancel_left_eq] at happend
  rcases hmore with ⟨hword, d, hd, hpart⟩ | ⟨hop, mark, hmark, hlonger, hfits⟩
  · rw [Token.IsWord, ← hkind] at hword
    rw [← hrest] at hd
    rw [isIdentPart_of_word hl hword hd] at hpart
    cases hpart
  · rw [Token.text_eq_print (by simp [hop]), hprint, List.cons_append] at hfits
    rcases List.mem_cons.mp hmark with rfl | hmark
    · -- two slashes start a comment
      obtain ⟨rest, hfits⟩ := hfits
      have hslashes : '/' :: '/' :: rest = c :: (tail ++ more) := hfits
      obtain ⟨rfl, hnext⟩ := List.cons.inj hslashes
      rw [← hnext, lexeme_of_cuts (.comment rfl rfl)] at hl
      obtain rfl := Except.ok.inj hl
      rw [hop] at hkind
      cases hkind
    · have hle := (longest_of_lexeme hl (hkind.trans hop)).2 mark hmark hfits
      rw [htext] at hle
      omega

end cutting

/-! ## The next token decides -/

section next

variable {first second : Token} {d : Char} {more tail : List Char}

/-- The characters of operators start no token of another kind. -/
theorem chars_of_mem_longMarks {mark : String} (hmark : mark ∈ longMarks) :
    ∀ c ∈ mark.toList, isIdentPart c = false ∧ c ∉ ['"', '\'', '$'] := by
  have hall : (longMarks.all fun mark => mark.toList.all fun c =>
      !isIdentPart c && !(['"', '\'', '$'].contains c)) = true := by
    decide +kernel
  intro c hc
  have hc := List.all_eq_true.mp (List.all_eq_true.mp hall mark hmark) c hc
  simpa using hc

/-- Every operator of three characters starts with one of two. -/
theorem take_two_mem_longMarks {mark : String} (hmark : mark ∈ longMarks) :
    mark.length ≤ 3 ∧ (mark.length = 3 → String.ofList (mark.toList.take 2) ∈ longMarks) := by
  revert mark
  decide +kernel

/-- Words are the tokens that start with a character of words. -/
theorem isIdentPart_head_iff (h : second.IsLexeme) (hprint : second.print.toList = d :: tail) :
    isIdentPart d = true ↔ second.IsWord := by
  have hcuts := cuts_of_isLexeme h hprint
  generalize hl : (Lexeme.mk second.kind (d :: tail) []) = l at hcuts
  have hkind : second.kind = l.kind := congrArg Lexeme.kind hl
  have hmarks : isIdentPart '/' = false ∧ isIdentPart '"' = false ∧ isIdentPart '\'' = false ∧
      isIdentPart '$' = false := by
    decide
  rw [Token.IsWord, hkind]
  cases hcuts with
  | comment hslash => simp [hslash, hmarks]
  | ident hstart =>
      have hpart := isIdentPart_of_isIdentStart hstart
      simp [hpart]
  | number hstart hdigit => simp [isIdentPart, hdigit]
  | string hquote => simp [hquote, hmarks]
  | char hquote => simp [hquote, hmarks]
  | expr hdollar => simp [hdollar, hmarks]
  | @op mark hslash hfound =>
      have hchars : mark.toList = d :: tail := (congrArg Lexeme.chars hl).symm
      have hmem : mark ∈ longMarks := List.mem_cons_of_mem _ (of_operatorAt?_eq_some hfound).1
      have hpart := (chars_of_mem_longMarks hmem d (by simp [hchars])).1
      simp [hpart]

/-- Operators are the tokens that start with a character of operators, comments apart. -/
theorem kind_of_head (h : second.IsLexeme) (hprint : second.print.toList = d :: tail)
    (hcomment : second.kind ≠ .comment) {mark : String} (hmark : mark ∈ longMarks)
    (hd : d ∈ mark.toList) : second.kind = .op := by
  obtain ⟨hpart, hquotes⟩ := chars_of_mem_longMarks hmark d hd
  have hword := mt (isIdentPart_head_iff h hprint).mpr (Bool.eq_false_iff.mp hpart)
  have hcuts := cuts_of_isLexeme h hprint
  generalize hl : (Lexeme.mk second.kind (d :: tail) []) = l at hcuts
  have hkind : second.kind = l.kind := congrArg Lexeme.kind hl
  rw [Token.IsWord, hkind] at hword
  rw [hkind] at hcomment ⊢
  cases hcuts with
  | comment => exact absurd rfl hcomment
  | ident => exact absurd (.inl rfl) hword
  | number => exact absurd (.inr rfl) hword
  | string hquote | char hquote => simp [hquote] at hquotes
  | expr hdollar => simp [hdollar] at hquotes
  | op => rfl

/-- A longer mark that fits can be seen from the next token. -/
theorem exists_mark_of_append {front next more : List Char} (hfront : front ≠ [])
    (hnext : next ≠ [])
    (h : ∃ mark ∈ longMarks, front.length < mark.length ∧ mark.toList <+: front ++ (next ++ more)) :
    ∃ mark ∈ longMarks, front.length < mark.length ∧ mark.toList <+: front ++ next := by
  obtain ⟨mark, hmark, hlonger, hfits⟩ := h
  rw [← List.append_assoc] at hfits
  rcases Nat.lt_or_ge (front ++ next).length mark.length with hlong | hle
  · -- the mark has three characters, of which the first two stand in the two texts
    have hpos : 0 < front.length ∧ 0 < next.length :=
      ⟨List.length_pos_iff.mpr hfront, List.length_pos_iff.mpr hnext⟩
    obtain ⟨hmax, htwo⟩ := take_two_mem_longMarks hmark
    rw [List.length_append] at hlong
    refine ⟨_, htwo (by omega), ?_, ?_⟩
    · rw [← String.length_toList, String.toList_ofList, List.length_take, String.length_toList]
      omega
    · rw [String.toList_ofList]
      have hboth : (front ++ next).length = 2 := by
        rw [List.length_append]
        omega
      have hprefix : front ++ next <+: mark.toList := by
        refine List.prefix_of_prefix_length_le (List.prefix_append _ more) hfits ?_
        rw [String.length_toList, List.length_append]
        omega
      rw [List.prefix_iff_eq_take, hboth] at hprefix
      exact hprefix ▸ List.prefix_refl _
  · refine ⟨mark, hmark, hlonger, ?_⟩
    refine List.prefix_of_prefix_length_le hfits (List.prefix_append _ more) ?_
    rwa [String.length_toList]

/-- A longer mark takes the first character after the text. -/
theorem mem_of_longer {front : List Char} {mark : String} (hlonger : front.length < mark.length)
    (hfits : mark.toList <+: front ++ d :: tail) : d ∈ mark.toList := by
  have hfront : front <+: mark.toList := by
    refine List.prefix_of_prefix_length_le (List.prefix_append _ (d :: tail)) hfits ?_
    rw [String.length_toList]
    exact Nat.le_of_lt hlonger
  obtain ⟨excess, hexcess⟩ := hfront
  rw [← hexcess, List.prefix_append_right_inj] at hfits
  cases excess with
  | nil =>
      rw [List.append_nil] at hexcess
      rw [hexcess, String.length_toList] at hlonger
      exact absurd hlonger (Nat.lt_irrefl _)
  | cons x excess =>
      obtain rfl := (List.cons_prefix_cons.mp hfits).1
      rw [← hexcess]
      exact List.mem_append_right _ (List.mem_cons_self ..)

/-- A token goes on into the next one and all that follows if it clings to the next one. -/
theorem goesOn_append_iff (hfirst : first.IsLexeme) (hsecond : second.IsLexeme)
    (hcomment : second.kind ≠ .comment) :
    first.GoesOn (second.print.toList ++ more) ↔ first.Clings second := by
  obtain ⟨d, tail, hprint, -, -⟩ := cut_of_isLexeme hsecond
  have hword : (∃ c ∈ (second.print.toList ++ more).head?, isIdentPart c = true) ↔
      second.IsWord := by
    rw [← isIdentPart_head_iff hsecond hprint, hprint]
    simp
  rw [Token.GoesOn, Token.Clings, hword]
  refine or_congr_right (and_congr_right fun hop => ?_)
  -- the same for operators
  obtain ⟨c, front, hfront, -, -⟩ := cut_of_isLexeme hfirst
  have hne : first.text.toList ≠ [] := by
    rw [Token.text_eq_print (by simp [hop]), hfront]
    exact List.cons_ne_nil _ _
  have hnext : second.print.toList ≠ [] := by
    rw [hprint]
    exact List.cons_ne_nil _ _
  rw [← String.length_toList, Token.text_eq_print hcomment]
  constructor
  · intro h
    obtain ⟨mark, hmark, hlonger, hfits⟩ := exists_mark_of_append hne hnext h
    refine ⟨?_, mark, hmark, hlonger, hfits⟩
    rw [hprint] at hfits
    exact kind_of_head hsecond hprint hcomment hmark (mem_of_longer hlonger hfits)
  · rintro ⟨-, mark, hmark, hlonger, hfits⟩
    refine ⟨mark, hmark, hlonger, ?_⟩
    rw [← List.append_assoc]
    exact hfits.trans (List.prefix_append _ _)

end next

/-! ## Lexing glued tokens -/

/-- The texts of tokens, one directly after the other. -/
def gluedTokens (tokens : List Token) : String := String.join (tokens.map Token.print)

theorem toList_gluedTokens_cons (tok : Token) (tokens : List Token) :
    (gluedTokens (tok :: tokens)).toList = tok.print.toList ++ (gluedTokens tokens).toList := by
  simp [gluedTokens]

/-- The first lexeme of a text is its first token, and the others are those of what is left. -/
theorem lex_cons {line more : String} {c : Char} {rest : List Char} {l : Lexeme}
    (hline : line.toList = c :: rest) (hc : isSpace c = false) (hl : lexeme c rest = .ok l)
    (hmore : l.rest = more.toList) :
    (lex line).problem? = (lex more).problem? ∧
      (lex line).tokens.map Token.shape =
        (l.kind, l.text) :: (lex more).tokens.map Token.shape := by
  have hdrop : line.toList.dropWhile isSpace = c :: rest := by simp [hline, hc]
  have hmoved : ∀ distance, Token.shape ∘ Token.moved distance = Token.shape := fun _ => rfl
  rw [lex, lexOnto_of_ok [] 0 hdrop hl, hmore, lexOnto_toList]
  refine ⟨rfl, ?_⟩
  simp only [List.map_append, List.map_map, hmoved, List.reverse_singleton]
  rfl

/-- A token goes on into glued tokens if it clings to the first one. -/
theorem goesOn_glued_iff {tok : Token} {tokens : List Token} (htok : tok.IsLexeme)
    (htokens : ∀ other ∈ tokens, other.IsLexeme ∧ other.kind ≠ .comment) :
    tok.GoesOn (gluedTokens tokens).toList ↔ ∃ next ∈ tokens.head?, tok.Clings next := by
  cases tokens with
  | nil =>
      have hnot : ¬ tok.GoesOn [] := by
        rintro (⟨-, c, hc, -⟩ | ⟨-, mark, -, hlonger, hfits⟩)
        · cases hc
        · have hle := hfits.length_le
          rw [List.append_nil, String.length_toList, String.length_toList] at hle
          omega
      exact ⟨fun h => absurd h hnot, fun ⟨_, hnone, _⟩ => nomatch hnone⟩
  | cons next tokens =>
      obtain ⟨hnext, hcomment⟩ := htokens next (List.mem_cons_self ..)
      rw [toList_gluedTokens_cons, goesOn_append_iff htok hnext hcomment]
      simp

/-- **When tokens can be glued.**  Lexing the texts of tokens, one directly after the other, gives
the tokens back exactly if none of them clings to the next one. -/
theorem gives_glued_iff {tokens : List Token}
    (htokens : ∀ tok ∈ tokens, tok.IsLexeme ∧ tok.kind ≠ .comment) :
    (lex (gluedTokens tokens)).Gives tokens ↔
      tokens.IsChain fun first second => ¬ first.Clings second := by
  induction tokens with
  | nil =>
      have hempty : lex (gluedTokens []) = ⟨[], none⟩ := lexOnto_of_blank _ _ rfl
      rw [hempty]
      exact ⟨fun _ => .nil, fun _ => ⟨rfl, rfl⟩⟩
  | cons tok tokens ih =>
      obtain ⟨⟨htok, hkind⟩, htokens⟩ := List.forall_mem_cons.mp htokens
      obtain ⟨c, tail, hprint, hc, hcut⟩ := cut_of_isLexeme htok
      have hline : (gluedTokens (tok :: tokens)).toList =
          c :: (tail ++ (gluedTokens tokens).toList) := by
        rw [toList_gluedTokens_cons, hprint, List.cons_append]
      rw [List.isChain_cons, ← ih htokens]
      by_cases hgoes : tok.GoesOn (gluedTokens tokens).toList
      · -- another token comes out, if any
        obtain ⟨next, hnext, hclings⟩ := (goesOn_glued_iff htok htokens).mp hgoes
        refine ⟨fun ⟨hproblem, hshapes⟩ => ?_, fun h => absurd hclings (h.1 next hnext)⟩
        exfalso
        cases hl : lexeme c (tail ++ (gluedTokens tokens).toList) with
        | error problem =>
            have hdrop : (gluedTokens (tok :: tokens)).toList.dropWhile isSpace =
                c :: (tail ++ (gluedTokens tokens).toList) := by
              simp [hline, hc]
            rw [lex, lexOnto_of_error [] 0 hdrop hl] at hproblem
            cases hproblem
        | ok l =>
            have hlex := (lex_cons hline hc hl String.toList_ofList.symm).2
            rw [hlex, List.map_cons] at hshapes
            exact shape_ne_of_goesOn hprint hgoes hl (List.cons.inj hshapes).1
      · -- the token comes out, and the text goes on with the others
        have hl := lexeme_before htok hprint hkind hgoes
        obtain ⟨hproblem, hshapes⟩ := lex_cons hline hc hl rfl
        have hfree : ∀ next ∈ tokens.head?, ¬ tok.Clings next := fun next hnext hclings =>
          hgoes ((goesOn_glued_iff htok htokens).mpr ⟨next, hnext, hclings⟩)
        have htext : (Lexeme.mk tok.kind (c :: tail) (gluedTokens tokens).toList).text = tok.text :=
          text_of_print hprint
        rw [Lexed.Gives, Lexed.Gives, hproblem, hshapes, htext, List.map_cons]
        constructor
        · exact fun h => ⟨hfree, h.1, (List.cons.inj h.2).2⟩
        · exact fun h => ⟨h.2.1, congrArg (List.cons tok.shape) h.2.2⟩

/-! ## The value of a constant -/

/-- **When a constant keeps its tokens.**  What stands behind `const NAME =` up to the end of the
line is read as the declaration of a constant with the texts of the tokens as its value.  Lexing the
value gives the tokens back exactly if none of them clings to the next one. -/
theorem const_keeps_tokens_iff {name : String} {tokens : List Token} {col col' col'' : Nat}
    (hname : IsName name) (hne : tokens ≠ [])
    (htokens : ∀ tok ∈ tokens, tok.IsLexeme ∧ endsStatement [";"] tok = false) :
    ∃ value, dispatch Handler.all
        (⟨.ident, "const", col⟩ :: ⟨.ident, name, col'⟩ :: ⟨.op, "=", col''⟩ :: tokens) =
          .ok [.declare (.const name value)] ∧
      ((lex value).Gives tokens ↔ tokens.IsChain fun first second => ¬ first.Clings second) := by
  have hcomment : ∀ tok ∈ tokens, tok.kind ≠ .comment := by
    intro tok htok hkind
    have hends := (htokens tok htok).2
    simp [endsStatement, hkind] at hends
  refine ⟨gluedTokens tokens, ?_, ?_⟩
  · exact dispatch_const hname hne rfl fun tok htok => (htokens tok htok).2
  · exact gives_glued_iff fun tok htok => ⟨(htokens tok htok).1, hcomment tok htok⟩

/-- The tokens of a sum. -/
def sumTokens : List Token := [⟨.number, "1", 0⟩, .mark "+", ⟨.number, "2", 0⟩]

/-- Two numbers, and nothing between them. -/
def numberTokens : List Token := [⟨.number, "1", 0⟩, ⟨.number, "2", 0⟩]

/-- The value `1 + 2` keeps its tokens and the value `1 2` does not. -/
theorem sumTokens_kept :
    (∃ value, dispatch Handler.all (.word "const" :: .word "N" :: .mark "=" :: sumTokens) =
        .ok [.declare (.const "N" value)] ∧ (lex value).Gives sumTokens) ∧
      ∃ value, dispatch Handler.all (.word "const" :: .word "N" :: .mark "=" :: numberTokens) =
        .ok [.declare (.const "N" value)] ∧ ¬ (lex value).Gives numberTokens := by
  have hname : IsName "N" := ⟨by decide +kernel, by decide +kernel⟩
  have hsum : sumTokens.IsChain fun first second => ¬ first.Clings second := by decide +kernel
  have hnumbers : ¬ numberTokens.IsChain fun first second => ¬ first.Clings second := by
    decide +kernel
  obtain ⟨value, hvalue, hkept⟩ := @const_keeps_tokens_iff "N" sumTokens 0 0 0 hname
    (by decide) (by decide +kernel)
  obtain ⟨value', hvalue', hkept'⟩ := @const_keeps_tokens_iff "N" numberTokens 0 0 0 hname
    (by decide) (by decide +kernel)
  exact ⟨⟨value, hvalue, hkept.mpr hsum⟩, value', hvalue', mt hkept'.mp hnumbers⟩

end Shorthand
