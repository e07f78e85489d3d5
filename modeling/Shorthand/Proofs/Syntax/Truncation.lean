import Mathlib.Data.List.TakeWhile
import Shorthand.Proofs.Syntax.ConstantLines
import Shorthand.Proofs.Syntax.Lossless

/-!
# Lexing a line that is cut off

A line may be cut off between two of its tokens.  What is left is lexed as the tokens before the
cut, at the same columns: a lexeme is cut off from the front of a line in the same way as long as
all of it is there (`lexeme_of_append`), and what would have followed only decided where it ends.

A comment is the last token of a line.  So cutting a trimmed line off just before it, and trimming
what is left again, leaves all the other tokens (`lex_before_comment`).
-/

namespace Shorthand

open Text

/-! ## One lexeme -/

/-- A name or a number ends where it ended before, if something is cut off after it. -/
private theorem takeWhile_of_append {front more tail after : List Char}
    (hfront : front = tail ++ after) (htail : tail = (front ++ more).takeWhile isIdentPart) :
    front.takeWhile isIdentPart = tail ∧ front.dropWhile isIdentPart = after := by
  have hinside : ∀ c ∈ tail, isIdentPart c = true := by
    intro c hc
    rw [htail] at hc
    exact List.all_eq_true.mp List.all_takeWhile c hc
  have hafter : after.takeWhile isIdentPart = [] := by
    rw [hfront, List.append_assoc, List.takeWhile_append_of_pos hinside] at htail
    have hnone : (after ++ more).takeWhile isIdentPart = [] :=
      (List.append_right_eq_self).mp htail.symm
    cases after with
    | nil => rfl
    | cons c after =>
        rw [List.cons_append, List.takeWhile_cons] at hnone
        split at hnone
        · cases hnone
        · rename_i hpart
          rw [List.takeWhile_cons_of_neg hpart]
  have hdrop : after.dropWhile isIdentPart = after := by
    have happend := List.takeWhile_append_dropWhile (p := isIdentPart) (l := after)
    rwa [hafter, List.nil_append] at happend
  rw [hfront, List.takeWhile_append_of_pos hinside, List.dropWhile_append_of_pos hinside, hafter,
    hdrop, List.append_nil]
  exact ⟨rfl, rfl⟩

/-- The operator that was the longest one is so among fewer characters. -/
private theorem operatorAt?_of_append {chars more : List Char} {op : String}
    (h : operatorAt? (chars ++ more) = some op) (hfits : op.toList <+: chars) :
    operatorAt? chars = some op := by
  unfold operatorAt? at h ⊢
  obtain ⟨-, before, after, htable, hbefore⟩ := List.find?_eq_some_iff_append.mp h
  refine List.find?_eq_some_iff_append.mpr
    ⟨List.isPrefixOf_iff_prefix.mpr hfits, before, after, htable, ?_⟩
  intro other hother
  have hnot := hbefore other hother
  simp only [Bool.not_eq_true', ← Bool.not_eq_true, List.isPrefixOf_iff_prefix] at hnot ⊢
  exact fun hshorter => hnot (hshorter.trans (List.prefix_append chars more))

/-- A lexeme that fits into the front of the characters leaves the end of the front. -/
private theorem exists_after_of_fits {c : Char} {front more : List Char} {l : Lexeme}
    (h : lexeme c (front ++ more) = .ok l) (hfits : l.chars.length ≤ front.length + 1) :
    ∃ after, l.rest = after ++ more ∧ c :: front = l.chars ++ after := by
  have happend := lexeme_append h
  rw [← List.cons_append] at happend
  rcases List.append_eq_append_iff.mp happend with
    ⟨after, hfront, hrest⟩ | ⟨beyond, hchars, hmore⟩
  · exact ⟨after, hrest, hfront⟩
  · have hnil : beyond = [] := by
      refine List.eq_nil_of_length_eq_zero ?_
      rw [hchars, List.length_append, List.length_cons] at hfits
      omega
    subst hnil
    exact ⟨[], by simpa using hmore.symm, by simpa using hchars.symm⟩

/-- A lexeme is cut off as before, if something is missing after it. -/
theorem lexeme_of_append {c : Char} {front more : List Char} {l : Lexeme}
    (h : lexeme c (front ++ more) = .ok l) (hfits : l.chars.length ≤ front.length + 1) :
    ∃ after, l.rest = after ++ more ∧ lexeme c front = .ok ⟨l.kind, l.chars, after⟩ := by
  obtain ⟨after, hrest, hfront⟩ := exists_after_of_fits h hfits
  refine ⟨after, hrest, lexeme_of_cuts ?_⟩
  cases cuts_of_lexeme h with
  | comment hslash hnext =>
      obtain ⟨rfl, rfl⟩ := List.append_eq_nil_iff.mp hrest.symm
      rw [List.append_nil] at hnext ⊢
      exact .comment hslash hnext
  | ident hstart =>
      obtain ⟨htake, hdrop⟩ := takeWhile_of_append (List.cons.inj hfront).2 rfl
      have hcut : Cuts c front _ := .ident hstart
      rwa [htake, hdrop] at hcut
  | number hstart hdigit =>
      obtain ⟨htake, hdrop⟩ := takeWhile_of_append (List.cons.inj hfront).2 rfl
      have hcut : Cuts c front _ := .number hstart hdigit
      rwa [htake, hdrop] at hcut
  | string hquote hclose =>
      obtain ⟨body, rfl, hstable⟩ := closeQuote_stable (by simp [hquote]) hclose
      obtain rfl : front = body ++ after := (List.cons.inj hfront).2
      exact .string hquote (hstable after)
  | char hquote hclose hlength =>
      obtain ⟨body, rfl, hstable⟩ := closeQuote_stable (by simp [hquote]) hclose
      obtain rfl : front = body ++ after := (List.cons.inj hfront).2
      exact .char hquote (hstable after) hlength
  | expr hdollar hopen hclose =>
      obtain ⟨body, rfl, hstable⟩ := closeParen_stable hclose
      obtain rfl : front = '(' :: (body ++ after) := (List.cons.inj hfront).2
      exact .expr hdollar rfl (hstable after)
  | op hslash hfound =>
      rename_i op
      have hshort := @operatorAt?_of_append (c :: front) _ _ hfound ⟨after, hfront.symm⟩
      have hcut : Cuts c front _ := .op (fun hboth => hslash ⟨hboth.1, ?_⟩) hshort
      · rw [hfront, ← String.length_toList] at hcut
        simpa using hcut
      · rw [List.head?_append, hboth.2, Option.some_or]

/-! ## The tokens before a cut -/

/-- The first lexeme of a line that is lexed without a problem is its first token. -/
theorem exists_lexeme_of_lexOnto {done tokens : List Token} {pos : Nat} {chars rest : List Char}
    {c : Char} (hrest : chars.dropWhile isSpace = c :: rest)
    (h : lexOnto done pos chars = ⟨done.reverse ++ tokens, none⟩) :
    ∃ l others, lexeme c rest = .ok l ∧
      tokens = ⟨l.kind, l.text, pos + (chars.takeWhile isSpace).length + 1⟩ :: others ∧
      lexOnto (⟨l.kind, l.text, pos + (chars.takeWhile isSpace).length + 1⟩ :: done)
        (pos + (chars.takeWhile isSpace).length + l.chars.length) l.rest =
          ⟨done.reverse ++ tokens, none⟩ := by
  cases hlexeme : lexeme c rest with
  | error problem => simp [lexOnto_of_error done pos hrest hlexeme] at h
  | ok l =>
      rw [lexOnto_of_ok done pos hrest hlexeme] at h
      obtain ⟨others, problem?, hlater⟩ := exists_lexOnto l.rest
      have htokens := (Lexed.mk.inj ((hlater _ _).symm.trans h)).1
      rw [List.reverse_cons, List.append_assoc, List.append_right_inj] at htokens
      exact ⟨l, _, rfl, htokens.symm, h⟩

/-- The token of a lexeme stops where the lexeme does. -/
theorem stop_of_lexeme {c : Char} {rest : List Char} {l : Lexeme} (h : lexeme c rest = .ok l)
    (pos : Nat) : (Token.mk l.kind l.text (pos + 1)).stop = pos + l.chars.length := by
  rw [Token.stop, ← print_of_lexeme h (pos + 1), String.length_toList]
  rfl

/-- The characters in front of the first one that is not white space, and those after it. -/
private theorem length_of_dropWhile {chars rest : List Char} {c : Char}
    (h : chars.dropWhile isSpace = c :: rest) :
    (chars.takeWhile isSpace).length + rest.length + 1 = chars.length := by
  have hsplit := congrArg List.length (List.takeWhile_append_dropWhile (p := isSpace) (l := chars))
  rw [h, List.length_append, List.length_cons] at hsplit
  omega

private theorem space_of_append {front rest : List Char} {c : Char}
    (h : front.dropWhile isSpace = c :: rest) (more : List Char) :
    (front ++ more).dropWhile isSpace = c :: (rest ++ more) ∧
      (front ++ more).takeWhile isSpace = front.takeWhile isSpace := by
  have hlength := length_of_dropWhile h
  constructor
  · rw [List.dropWhile_append, h]
    rfl
  · rw [List.takeWhile_append, if_neg (by omega)]

private theorem length_le_of_blank {front : List Char} (h : front.dropWhile isSpace = [])
    (more : List Char) : front.length ≤ ((front ++ more).takeWhile isSpace).length := by
  have hsplit := List.takeWhile_append_dropWhile (p := isSpace) (l := front)
  rw [h, List.append_nil] at hsplit
  rw [List.takeWhile_append, hsplit, if_pos rfl, List.length_append]
  exact Nat.le_add_right _ _

/-- What is left of a line that is cut off between two tokens is lexed as the tokens before the
cut. -/
theorem lexOnto_of_append (more : List Char) (first later : List Token) :
    ∀ (front : List Char) (done : List Token) (pos : Nat),
      lexOnto done pos (front ++ more) = ⟨done.reverse ++ (first ++ later), none⟩ →
      (∀ tok ∈ first, tok.stop ≤ pos + front.length) →
      (∀ tok ∈ later, pos + front.length ≤ tok.start) →
        lexOnto done pos front = ⟨done.reverse ++ first, none⟩ := by
  induction first with
  | nil =>
      intro front done pos h _ hlater
      cases hrest : front.dropWhile isSpace with
      | nil => rw [lexOnto_of_blank _ _ hrest, List.append_nil]
      | cons c rest =>
          obtain ⟨hdrop, htake⟩ := space_of_append hrest more
          obtain ⟨l, others, -, hnext, -⟩ := exists_lexeme_of_lexOnto hdrop h
          -- the next token would start before the cut
          have hstart := hlater _ (hnext ▸ List.mem_cons_self ..)
          have hlength := length_of_dropWhile hrest
          rw [Token.start, htake] at hstart
          simp only at hstart
          omega
  | cons tok first ih =>
      intro front done pos h hfirst hlater
      obtain ⟨htok, hfirst⟩ := List.forall_mem_cons.mp hfirst
      cases hrest : front.dropWhile isSpace with
      | nil =>
          cases hmore : (front ++ more).dropWhile isSpace with
          | nil => simp [lexOnto_of_blank _ _ hmore] at h
          | cons c rest =>
              obtain ⟨l, others, hlexeme, hnext, -⟩ := exists_lexeme_of_lexOnto hmore h
              obtain ⟨tail, hchars, -⟩ := chars_of_lexeme hlexeme
              -- the token would stop after the cut
              have hlength := length_le_of_blank hrest more
              rw [(List.cons.inj hnext).1, stop_of_lexeme hlexeme, hchars, List.length_cons] at htok
              omega
      | cons c rest =>
          obtain ⟨hdrop, htake⟩ := space_of_append hrest more
          obtain ⟨l, others, hlexeme, hnext, hlexed⟩ := exists_lexeme_of_lexOnto hdrop h
          obtain ⟨rfl, rfl⟩ := List.cons.inj hnext
          have hlength := length_of_dropWhile hrest
          rw [stop_of_lexeme hlexeme, htake] at htok
          obtain ⟨after, hafter, hshort⟩ := lexeme_of_append hlexeme (by omega)
          have hchars : l.chars.length + after.length = rest.length + 1 := by
            have happend := congrArg List.length (lexeme_append hshort)
            rwa [List.length_append, List.length_cons] at happend
          have hend : pos + (front.takeWhile isSpace).length + l.chars.length + after.length =
              pos + front.length := by omega
          rw [htake, hafter] at hlexed
          rw [lexOnto_of_ok _ _ hrest hshort]
          have hlast := ih after
            (⟨l.kind, l.text, pos + (front.takeWhile isSpace).length + 1⟩ :: done)
            (pos + (front.takeWhile isSpace).length + l.chars.length) (by rw [hlexed]; simp)
            (by rwa [hend]) (by rwa [hend])
          rw [htake]
          exact hlast.trans (by simp)

/-! ## Trimming -/

section trim

variable {blank chars : List Char} (hblank : ∀ c ∈ blank, isSpace c = true)

include hblank

theorem trimChars_append_left : trimChars (blank ++ chars) = trimChars chars := by
  rw [trimChars, List.dropWhile_append_of_pos hblank]
  rfl

theorem trimChars_append_right : trimChars (chars ++ blank) = trimChars chars := by
  have hreverse : ∀ c ∈ blank.reverse, isSpace c = true :=
    fun c hc => hblank c (List.mem_reverse.mp hc)
  rw [trimChars, trimChars, List.dropWhile_append]
  split
  · rename_i hnone
    have hdrop : blank.dropWhile isSpace = [] := List.dropWhile_eq_nil_iff.mpr hblank
    rw [hdrop, List.isEmpty_iff.mp hnone]
  · rw [List.reverse_append, List.dropWhile_append_of_pos hreverse]

end trim

/-- Trimming takes white space away from both ends. -/
theorem exists_trimChars (chars : List Char) : ∃ after : List Char,
    chars = chars.takeWhile isSpace ++ (trimChars chars ++ after) ∧
      ∀ c ∈ after, isSpace c = true := by
  refine ⟨((chars.dropWhile isSpace).reverse.takeWhile isSpace).reverse, ?_, ?_⟩
  · rw [trimChars, ← List.reverse_append, List.takeWhile_append_dropWhile,
      List.reverse_reverse, List.takeWhile_append_dropWhile]
  · exact fun c hc => List.all_eq_true.mp List.all_takeWhile c (List.mem_reverse.mp hc)

theorem isSpace_of_mem_takeWhile {chars : List Char} :
    ∀ c ∈ chars.takeWhile isSpace, isSpace c = true :=
  fun c hc => List.all_eq_true.mp List.all_takeWhile c hc

/-- Trimming once is enough. -/
theorem trimChars_trimChars (chars : List Char) : trimChars
    (trimChars chars) = trimChars chars := by
  obtain ⟨after, hchars, hafter⟩ := exists_trimChars chars
  have hsame : trimChars (chars.takeWhile isSpace ++ (trimChars chars ++ after)) =
      trimChars (trimChars chars) := by
    rw [trimChars_append_left isSpace_of_mem_takeWhile, trimChars_append_right hafter]
  rw [← hsame, ← hchars]

/-- What starts with no white space keeps its start. -/
theorem exists_trimChars_of_head {chars : List Char} (h : ∀ c ∈ chars.head?, isSpace c = false) :
    ∃ after, chars = trimChars chars ++ after ∧ ∀ c ∈ after, isSpace c = true := by
  obtain ⟨after, hchars, hafter⟩ := exists_trimChars chars
  have hnone : chars.takeWhile isSpace = [] := by
    cases chars with
    | nil => rfl
    | cons c chars => rw [List.takeWhile_cons_of_neg (by simp [h c rfl])]
  rw [hnone, List.nil_append] at hchars
  exact ⟨after, hchars, hafter⟩

/-- A trimmed text starts with no white space. -/
theorem isSpace_head?_trimChars (chars : List Char) :
    ∀ c ∈ (trimChars chars).head?, isSpace c = false := by
  intro c hc
  have hfront : trimChars chars <+: chars.dropWhile isSpace := by
    rw [trimChars, ← List.reverse_suffix, List.reverse_reverse]
    exact List.dropWhile_suffix isSpace
  obtain ⟨after, hafter⟩ := hfront
  have hnot := List.head?_dropWhile_not isSpace chars
  rw [← hafter, List.head?_append, Option.mem_def.mp hc] at hnot
  simpa using hnot

/-! ## Cutting a comment off -/

/-- The last character of a token stands just before its stop. -/
theorem Token.StandsIn.getLast {tok : Token} {chars : List Char} (h : tok.StandsIn chars) :
    ∃ last, tok.print.toList.getLast? = some last ∧ chars[tok.stop - 1]? = some last := by
  obtain ⟨more, hmore⟩ := h.written
  have hpos : 0 < tok.print.toList.length := by
    rw [String.length_toList]
    exact h.print_pos
  obtain ⟨last, hlast⟩ : ∃ last, tok.print.toList.getLast? = some last :=
    ⟨_, List.getLast?_eq_some_getLast (List.ne_nil_of_length_pos hpos)⟩
  refine ⟨last, hlast, ?_⟩
  have hplace : tok.stop - 1 = tok.start + (tok.print.toList.length - 1) := by
    rw [Token.stop, ← String.length_toList]
    omega
  rw [List.getLast?_eq_getElem?] at hlast
  rw [hplace, ← List.getElem?_drop, ← hmore, List.getElem?_append_left (by omega), hlast]

/-- A token that does not end in white space does not reach into the white space in front of a
cut. -/
theorem Token.StandsIn.stop_le {tok : Token} {chars front blank : List Char} {cut : Nat}
    (h : tok.StandsIn chars)
    (hsolid : ∀ {last : Char}, tok.print.toList.getLast? = some last → isSpace last = false)
    (hbefore : tok.stop ≤ cut) (hcut : chars.take cut = front ++ blank)
    (hblank : ∀ c ∈ blank, isSpace c = true) : tok.stop ≤ front.length := by
  refine Nat.le_of_not_lt fun hover => ?_
  obtain ⟨last, hlast, hplace⟩ := h.getLast
  have htaken : (chars.take cut)[tok.stop - 1]? = some last := by
    rw [List.getElem?_take_of_lt (by omega), hplace]
  rw [hcut, List.getElem?_append_right (by omega)] at htaken
  have hspace := hblank last (List.mem_of_getElem? htaken)
  rw [hsolid hlast] at hspace
  cases hspace

/-- The tokens of a trimmed line before its comment stay, when the comment is cut off and the line
is trimmed again. -/
theorem lex_before_comment {line : String} {tokens : List Token} {comment : Token}
    (htrim : trim line = line) (hlex : lex line = ⟨tokens ++ [comment], none⟩) :
    lex (trim (String.ofList (line.toList.take comment.start))) = ⟨tokens, none⟩ := by
  have hcovers : (lex line).Covers line.toList := covers_lexOnto (.start _) rfl
  rw [hlex] at hcovers
  have hhead : ∀ c ∈ (line.toList.take comment.start).head?, isSpace c = false := by
    intro c hc
    have hline : trimChars line.toList = line.toList := by
      rw [← String.toList_ofList (l := trimChars line.toList)]
      exact congrArg String.toList htrim
    refine isSpace_head?_trimChars line.toList c ?_
    rw [hline, ← List.take_append_drop comment.start line.toList, List.head?_append,
      Option.mem_def.mp hc]
    rfl
  obtain ⟨blank, hcut, hblank⟩ := exists_trimChars_of_head hhead
  -- no token ends in white space, so none reaches into what is trimmed away
  have hstop : ∀ tok ∈ tokens,
      tok.stop ≤ 0 + (trimChars (line.toList.take comment.start)).length := by
    intro tok htok
    have hmem : tok ∈ (lex line).tokens := by
      rw [hlex]
      exact List.mem_append_left _ htok
    have hkind : tok.kind ≠ .comment := hcovers.comment_last tok (by simpa using htok)
    have hbefore : tok.stop ≤ comment.start :=
      (List.pairwise_append.mp hcovers.ordered).2.2 tok htok comment (List.mem_singleton_self _)
    have hstands : tok.StandsIn line.toList := hcovers.stands tok (List.mem_append_left _ htok)
    rw [Nat.zero_add]
    exact hstands.stop_le (isSpace_getLast_of_isLexeme (isLexeme_of_mem_lex hmem) hkind) hbefore
      hcut hblank
  have hlexed := lexOnto_of_append (blank ++ line.toList.drop comment.start) tokens [comment]
    (trimChars (line.toList.take comment.start)) [] 0 ?_ hstop ?_
  · rw [trim, lex, String.toList_ofList, String.toList_ofList, hlexed]
    rfl
  · rw [← List.append_assoc, ← hcut, List.take_append_drop]
    exact hlex
  · intro tok htok
    obtain rfl := List.mem_singleton.mp htok
    have hsplit := congrArg List.length hcut
    rw [List.length_append, List.length_take] at hsplit
    omega

end Shorthand
