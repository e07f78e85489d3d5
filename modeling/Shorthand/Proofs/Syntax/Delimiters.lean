import Shorthand.Proofs.Lowering.SingleExpressions
import Shorthand.Proofs.Syntax.Glued
import Shorthand.Proofs.Syntax.Truncation

/-!
# Where delimited tokens end

Strings, characters and expressions are the tokens that go on to a delimiter of their own, whatever
stands before it.

* A quoted literal ends at the first quote of its kind that no backslash escapes.  Backslashes pair
  up with the characters after them from the left on, so that the second character of a pair starts
  no pair itself (`isEscaped`, `ClosesQuote`).
* An expression ends at the parenthesis that closes the one after its dollar sign, so that its depth
  is positive all the way up to there (`parenDepth`, `ClosesParen`).

If a line has no such end after the place where one of these tokens starts, lexing fails there, with
the rest of the line as the only detail.

## Strategy

The scanners `closeQuote` and `closeParen` look at one character after the other, and `EndsAt` is a
condition on all the characters up to an end.  `splitsAt_cons` takes one character off the front of
such a condition, so that the induction along a scanner compares the two step by step
(`closeQuote_eq_some_iff`, `closeParen_eq_some_iff`).  From there on the three kinds are treated
together, by their `Delimited`.

`Reaches` follows lexing over a line.  Whether it comes to the start of such a token does not depend
on what follows: it does exactly if what stands before is lexed by itself to its end, with no
comment in it (`reaches_opening_iff`).
-/

namespace Shorthand

open Text

/-! ## Backslash pairs and parentheses -/

/-- Whether the character at a position is the second one of a backslash pair.  Pairs are read from
the left. -/
def isEscaped : List Char → Nat → Bool
  | '\\' :: _ :: _, 1 => true
  | '\\' :: _ :: chars, n + 2 => isEscaped chars n
  | _ :: chars, n + 1 => isEscaped chars n
  | _, _ => false

/-- The first quote that no backslash escapes stands at the position. -/
structure ClosesQuote (quote : Char) (chars : List Char) (n : Nat) : Prop where
  isQuote : chars[n]? = some quote
  free : isEscaped chars n = false
  first : ∀ m < n, chars[m]? = some quote → isEscaped chars m = true

/-- How many more parentheses are opened than closed. -/
def parenDepth (chars : List Char) : Int := chars.count '(' - chars.count ')'

/-- The parentheses that were open before the characters are closed for the first time by the
character at the position. -/
structure ClosesParen (opened : Int) (chars : List Char) (n : Nat) : Prop where
  closed : opened + parenDepth (chars.take (n + 1)) = 0
  inside : ∀ m ≤ n, 0 < opened + parenDepth (chars.take m)

@[simp] theorem parenDepth_nil : parenDepth [] = 0 := rfl

theorem parenDepth_append (first second : List Char) :
    parenDepth (first ++ second) = parenDepth first + parenDepth second := by
  simp only [parenDepth, List.count_append]
  omega

theorem parenDepth_cons (c : Char) (chars : List Char) :
    parenDepth (c :: chars) = parenDepth [c] + parenDepth chars :=
  parenDepth_append [c] chars

@[simp] theorem parenDepth_open : parenDepth ['('] = 1 := rfl

@[simp] theorem parenDepth_close : parenDepth [')'] = -1 := rfl

theorem parenDepth_other {c : Char} (hopen : c ≠ '(') (hclose : c ≠ ')') : parenDepth [c] = 0 := by
  simp [parenDepth, hopen, hclose]

/-! ## The ends, character by character -/

section ends

variable {quote c : Char} {chars : List Char} {opened : Int} {n : Nat}

@[simp] theorem isEscaped_zero (chars : List Char) : isEscaped chars 0 = false := by
  rw [isEscaped]
  · rintro c rest - ⟨⟩
  · rintro c rest n - ⟨⟩
  · rintro c rest n - ⟨⟩

/-- A character that starts no pair escapes nothing. -/
theorem isEscaped_succ (h : c = '\\' → chars = []) (n : Nat) :
    isEscaped (c :: chars) (n + 1) = isEscaped chars n := by
  rw [isEscaped]
  · rintro d rest rfl rfl -
    cases h rfl
  · rintro d rest m rfl rfl -
    cases h rfl

theorem closesQuote_zero : ClosesQuote quote (c :: chars) 0 ↔ c = quote := by
  constructor
  · intro h
    exact Option.some.inj h.isQuote
  · rintro rfl
    exact ⟨rfl, isEscaped_zero _, fun m hm => absurd hm (Nat.not_lt_zero m)⟩

/-- A character that starts no pair is passed over if it is not the quote. -/
theorem closesQuote_succ (hpair : c = '\\' → chars = []) :
    ClosesQuote quote (c :: chars) (n + 1) ↔ c ≠ quote ∧ ClosesQuote quote chars n := by
  have hstep := isEscaped_succ hpair
  constructor
  · intro h
    refine ⟨?_, h.isQuote, hstep n ▸ h.free, fun m hm hquote => ?_⟩
    · rintro rfl
      have hescaped := h.first 0 (Nat.succ_pos n) rfl
      rw [isEscaped_zero] at hescaped
      cases hescaped
    · rw [← hstep m]
      exact h.first (m + 1) (Nat.succ_lt_succ hm) hquote
  · rintro ⟨hc, h⟩
    refine ⟨h.isQuote, (hstep n).trans h.free, fun m hm hquote => ?_⟩
    cases m with
    | zero => exact absurd (Option.some.inj hquote) hc
    | succ m =>
        rw [hstep m]
        exact h.first m (Nat.lt_of_succ_lt_succ hm) hquote

/-- A pair is passed over, whatever its second character is. -/
theorem closesQuote_pair (hquote : quote ≠ '\\') :
    ¬ ClosesQuote quote ('\\' :: c :: chars) 0 ∧ ¬ ClosesQuote quote ('\\' :: c :: chars) 1 ∧
      (ClosesQuote quote ('\\' :: c :: chars) (n + 2) ↔ ClosesQuote quote chars n) := by
  refine ⟨fun h => hquote (closesQuote_zero.mp h).symm, fun h => Bool.noConfusion h.free, ?_⟩
  constructor
  · intro h
    exact ⟨h.isQuote, h.free, fun m hm hclose => h.first (m + 2) (by omega) hclose⟩
  · intro h
    refine ⟨h.isQuote, h.free, fun m hm hclose => ?_⟩
    match m with
    | 0 => exact absurd (Option.some.inj hclose).symm hquote
    | 1 => rfl
    | m + 2 => exact h.first m (by omega) hclose

theorem closesParen_zero :
    ClosesParen opened (c :: chars) 0 ↔ 0 < opened ∧ opened + parenDepth [c] = 0 := by
  constructor
  · intro h
    have hinside := h.inside 0 (Nat.le_refl 0)
    rw [List.take_zero, parenDepth_nil, Int.add_zero] at hinside
    exact ⟨hinside, h.closed⟩
  · rintro ⟨hopened, hclosed⟩
    refine ⟨hclosed, fun m hm => ?_⟩
    obtain rfl := Nat.le_zero.mp hm
    rwa [List.take_zero, parenDepth_nil, Int.add_zero]

theorem closesParen_succ :
    ClosesParen opened (c :: chars) (n + 1) ↔
      0 < opened ∧ ClosesParen (opened + parenDepth [c]) chars n := by
  have htake : ∀ m, opened + parenDepth ((c :: chars).take (m + 1)) =
      opened + parenDepth [c] + parenDepth (chars.take m) := by
    intro m
    rw [List.take_succ_cons, parenDepth_cons, Int.add_assoc]
  constructor
  · intro h
    have hinside := h.inside 0 (Nat.zero_le _)
    rw [List.take_zero, parenDepth_nil, Int.add_zero] at hinside
    refine ⟨hinside, (htake (n + 1)).symm.trans h.closed, fun m hm => ?_⟩
    rw [← htake m]
    exact h.inside (m + 1) (Nat.succ_le_succ hm)
  · rintro ⟨hopened, h⟩
    refine ⟨(htake (n + 1)).trans h.closed, fun m hm => ?_⟩
    cases m with
    | zero => rwa [List.take_zero, parenDepth_nil, Int.add_zero]
    | succ m =>
        rw [htake m]
        exact h.inside m (Nat.le_of_succ_le_succ hm)

end ends

/-! ## Scanning to the end -/

/-- A position that ends a token splits the characters: what was taken before and the characters up
to the position are closed, and the others are left. -/
def SplitsAt (EndsAt : Nat → Prop) (taken chars closed after : List Char) : Prop :=
  ∃ n, EndsAt n ∧ closed = taken.reverse ++ chars.take (n + 1) ∧ after = chars.drop (n + 1)

theorem splitsAt_cons {EndsAt : Nat → Prop} {c : Char} {taken chars closed after : List Char} :
    SplitsAt EndsAt taken (c :: chars) closed after ↔
      EndsAt 0 ∧ closed = (c :: taken).reverse ∧ after = chars ∨
        SplitsAt (fun n => EndsAt (n + 1)) (c :: taken) chars closed after := by
  constructor
  · rintro ⟨n, hends, rfl, rfl⟩
    cases n with
    | zero => exact .inl ⟨hends, by simp, rfl⟩
    | succ n => exact .inr ⟨n, hends, by simp, rfl⟩
  · rintro (⟨hends, rfl, rfl⟩ | ⟨n, hends, rfl, rfl⟩)
    · exact ⟨0, hends, by simp, rfl⟩
    · exact ⟨n + 1, hends, by simp, rfl⟩

theorem splitsAt_congr {first second : Nat → Prop} (h : ∀ n, first n ↔ second n)
    {taken chars closed after : List Char} :
    SplitsAt first taken chars closed after ↔ SplitsAt second taken chars closed after :=
  exists_congr fun n => and_congr_left fun _ => h n

theorem closeQuote_eq_some_iff {quote : Char} (hquote : quote ≠ '\\')
    {taken chars closed after : List Char} :
    closeQuote quote taken chars = some (closed, after) ↔
      SplitsAt (ClosesQuote quote chars) taken chars closed after := by
  fun_induction closeQuote quote taken chars with
  | case1 taken =>
      constructor
      · rintro ⟨⟩
      · rintro ⟨n, hends, -⟩
        cases hends.isQuote
  | case2 taken c chars ih =>
      obtain ⟨hzero, hone, -⟩ := @closesQuote_pair quote c chars 0 hquote
      rw [ih, splitsAt_cons, or_iff_right fun h => hzero h.1, splitsAt_cons,
        or_iff_right fun h => hone h.1]
      exact splitsAt_congr fun n => (closesQuote_pair hquote).2.2.symm
  | case3 taken c chars hpair hc =>
      obtain rfl : c = quote := by simpa using hc
      have hnone : ¬ SplitsAt (fun n => ClosesQuote c (c :: chars) (n + 1)) (c :: taken) chars
          closed after := by
        rintro ⟨n, hends, -⟩
        exact ((closesQuote_succ fun heq => absurd heq hquote).mp hends).1 rfl
      rw [splitsAt_cons, or_iff_left hnone, closesQuote_zero]
      constructor
      · rintro ⟨⟩
        exact ⟨rfl, rfl, rfl⟩
      · rintro ⟨-, rfl, rfl⟩
        rfl
  | case4 taken c chars hpair hc ih =>
      have hne : c ≠ quote := by simpa using hc
      have hstart : c = '\\' → chars = [] := by
        intro heq
        cases chars with
        | nil => rfl
        | cons d chars => exact absurd rfl (hpair d chars heq)
      rw [ih, splitsAt_cons, closesQuote_zero, or_iff_right fun h => hne h.1]
      refine splitsAt_congr fun n => ?_
      rw [closesQuote_succ hstart, and_iff_right hne]

/-- A character that leaves parentheses open is passed over. -/
theorem splitsAt_closesParen_cons {depth next : Nat} {c : Char}
    (hnext : (depth : Int) + 1 + parenDepth [c] = next + 1) {taken chars closed after : List Char} :
    SplitsAt (ClosesParen (depth + 1) (c :: chars)) taken (c :: chars) closed after ↔
      SplitsAt (ClosesParen (next + 1) chars) (c :: taken) chars closed after := by
  rw [splitsAt_cons, closesParen_zero, or_iff_right (by rw [hnext]; omega)]
  refine splitsAt_congr fun n => ?_
  rw [closesParen_succ, hnext, and_iff_right (by omega)]

theorem closeParen_eq_some_iff {depth : Nat} {taken chars closed after : List Char} :
    closeParen depth taken chars = some (closed, after) ↔
      SplitsAt (ClosesParen (depth + 1) chars) taken chars closed after := by
  fun_induction closeParen depth taken chars with
  | case1 depth taken =>
      constructor
      · rintro ⟨⟩
      · rintro ⟨n, hends, -⟩
        have hinside := hends.inside 0 (Nat.zero_le n)
        have hclosed := hends.closed
        rw [List.take_nil] at hinside hclosed
        omega
  | case2 depth taken c chars hopen ih =>
      obtain rfl : c = '(' := by simpa using hopen
      rw [ih]
      refine (splitsAt_closesParen_cons ?_).symm
      rw [parenDepth_open]
      omega
  | case3 taken c chars hopen hclose =>
      obtain rfl : c = ')' := by simpa using hclose
      have hnone : ¬ SplitsAt (fun n => ClosesParen ((0 : Nat) + 1) (')' :: chars) (n + 1))
          (')' :: taken) chars closed after := by
        rintro ⟨n, hends, -⟩
        have hinside := (closesParen_succ.mp hends).2.inside 0 (Nat.zero_le n)
        simp at hinside
      rw [splitsAt_cons, or_iff_left hnone, closesParen_zero]
      constructor
      · rintro ⟨⟩
        exact ⟨⟨by decide, by decide⟩, rfl, rfl⟩
      · rintro ⟨-, rfl, rfl⟩
        rfl
  | case4 taken c chars hopen hclose depth ih =>
      obtain rfl : c = ')' := by simpa using hclose
      rw [ih]
      refine (splitsAt_closesParen_cons ?_).symm
      rw [parenDepth_close]
      omega
  | case5 depth taken c chars hopen hclose ih =>
      rw [ih]
      refine (splitsAt_closesParen_cons ?_).symm
      rw [parenDepth_other (by simpa using hopen) (by simpa using hclose), Int.add_zero]

/-! ## The three kinds -/

/-- The kinds of tokens that go on to a delimiter of their own. -/
inductive Delimited where
  | string
  | char
  | expr
deriving DecidableEq

namespace Delimited

variable {d : Delimited}

/-- The category of the tokens. -/
def kind : Delimited → TokenKind
  | string => .string
  | char => .char
  | expr => .expr

/-- The characters that start the tokens. -/
def opening : Delimited → List Char
  | string => ['"']
  | char => ['\'']
  | expr => ['$', '(']

/-- What is wrong if a token has no end. -/
def code : Delimited → Code
  | string => .stringUnterminated
  | char => .literalInvalid
  | expr => .expressionUnterminated

/-- The token ends at the position of the characters after its opening. -/
def EndsAt : Delimited → List Char → Nat → Prop
  | string => ClosesQuote '"'
  | char => ClosesQuote '\''
  | expr => ClosesParen 1

/-- Goes on to the end of the token. -/
def close? : Delimited → List Char → Option (List Char × List Char)
  | string => closeQuote '"' ['"']
  | char => closeQuote '\'' ['\'']
  | expr => closeParen 0 ['(', '$']

theorem close?_eq_some_iff {chars closed after : List Char} :
    d.close? chars = some (closed, after) ↔
      SplitsAt (d.EndsAt chars) d.opening.reverse chars closed after := by
  cases d with
  | string => exact closeQuote_eq_some_iff (by decide)
  | char => exact closeQuote_eq_some_iff (by decide)
  | expr => exact closeParen_eq_some_iff

theorem close?_eq_none_iff {chars : List Char} :
    d.close? chars = none ↔ ∀ n, ¬ d.EndsAt chars n := by
  constructor
  · intro hnone n hends
    have hsome := close?_eq_some_iff.mpr ⟨n, hends, rfl, rfl⟩
    rw [hnone] at hsome
    cases hsome
  · intro hnever
    cases hclose : d.close? chars with
    | none => rfl
    | some split =>
        obtain ⟨n, hends, -⟩ := close?_eq_some_iff.mp hclose
        exact absurd hends (hnever n)

/-- A token ends where it does, whatever follows. -/
theorem close?_append {chars closed after : List Char} (h : d.close? chars = some (closed, after))
    (more : List Char) : d.close? (chars ++ more) = some (closed, after ++ more) := by
  have hstable : ∃ body, closed = d.opening.reverse.reverse ++ body ∧
      ∀ more, d.close? (body ++ more) = some (closed, more) := by
    cases d with
    | string => exact closeQuote_stable (by decide) h
    | char => exact closeQuote_stable (by decide) h
    | expr => exact closeParen_stable h
  obtain ⟨body, hclosed, hbody⟩ := hstable
  obtain ⟨n, -, hclosed', hafter⟩ := close?_eq_some_iff.mp h
  have hbody' : body = chars.take (n + 1) := List.append_cancel_left (hclosed.symm.trans hclosed')
  have hchars : chars = body ++ after := by
    rw [hbody', hafter, List.take_append_drop]
  rw [hchars, List.append_assoc]
  exact hbody (after ++ more)

/-- A lexeme of one of the kinds was scanned to its end. -/
theorem exists_close?_of_cuts {c : Char} {rest : List Char} {l : Lexeme} (h : Cuts c rest l)
    (hkind : l.kind = d.kind) :
    ∃ chars, c :: rest = d.opening ++ chars ∧ d.close? chars = some (l.chars, l.rest) := by
  cases h with
  | string hquote hclose =>
      subst hquote
      cases d with
      | string => exact ⟨rest, rfl, hclose⟩
      | char | expr => cases hkind
  | char hquote hclose =>
      subst hquote
      cases d with
      | char => exact ⟨rest, rfl, hclose⟩
      | string | expr => cases hkind
  | expr hdollar hopen hclose =>
      subst hdollar
      obtain ⟨rest, rfl⟩ := List.head?_eq_some_iff.mp hopen
      cases d with
      | expr => exact ⟨rest, rfl, hclose⟩
      | string | char => cases hkind
  | comment | ident | number | op => cases d <;> cases hkind

/-- Without an end there is no lexeme. -/
theorem lexeme_of_close?_eq_none {c : Char} {rest chars : List Char}
    (hopening : c :: rest = d.opening ++ chars) (hclose : d.close? chars = none) :
    lexeme c rest = .error (problemAt d.code (c :: rest)) := by
  cases d with
  | string =>
      obtain ⟨rfl, rfl⟩ := List.cons.inj hopening
      have hnone : closeQuote '"' ['"'] rest = none := hclose
      rw [lexeme, hnone]
      rfl
  | char =>
      obtain ⟨rfl, rfl⟩ := List.cons.inj hopening
      have hnone : closeQuote '\'' ['\''] rest = none := hclose
      rw [lexeme, hnone]
      rfl
  | expr =>
      obtain ⟨hdollar, hrest⟩ : c = '$' ∧ rest = '(' :: chars := List.cons.inj hopening
      subst hdollar hrest
      have hnone : closeParen 0 ['(', '$'] (('(' :: chars).drop 1) = none := hclose
      rw [lexeme, hnone]
      rfl

/-- No token of a kind starts with white space, with a character of words, or with one that could
make an operator longer. -/
theorem exists_opening_eq (d : Delimited) :
    ∃ c rest, d.opening = c :: rest ∧ isSpace c = false ∧ isIdentPart c = false ∧
      c ∈ ['"', '\'', '$'] := by
  cases d with
  | string => exact ⟨'"', [], rfl, by decide, by decide, by decide⟩
  | char => exact ⟨'\'', [], rfl, by decide, by decide, by decide⟩
  | expr => exact ⟨'$', ['('], rfl, by decide, by decide, by decide⟩

/-- The characters after the opening of a token of the line go on to its end, and the token takes
them up to there. -/
theorem ends_of_mem_lex {line : String} {tok : Token} (htok : tok ∈ (lex line).tokens)
    (hkind : tok.kind = d.kind) :
    ∃ chars n, line.toList.drop tok.start = d.opening ++ chars ∧ d.EndsAt chars n ∧
      tok.text.toList = d.opening ++ chars.take (n + 1) := by
  have hcovers : (lex line).Covers line.toList := covers_lexOnto (.start _) rfl
  obtain ⟨more, hmore⟩ := (hcovers.stands tok htok).written
  obtain ⟨c, tail, hprint, -, hlexeme⟩ := cut_of_isLexeme (isLexeme_of_mem_lex htok)
  obtain ⟨inside, hinside, hclose⟩ := exists_close?_of_cuts (cuts_of_lexeme hlexeme) hkind
  obtain ⟨n, hends, hclosed, -⟩ := close?_eq_some_iff.mp (close?_append hclose more)
  have htext : tok.text = tok.print := by
    refine Token.text_eq_print ?_
    rw [hkind]
    cases d <;> exact nofun
  refine ⟨inside ++ more, n, ?_, hends, ?_⟩
  · rw [← hmore, hprint, hinside, List.append_assoc]
  · rw [List.reverse_reverse] at hclosed
    rw [htext, hprint]
    exact hclosed

end Delimited

/-! ## Balanced expressions -/

/-- The text stands between `$(` and the parenthesis that closes it. -/
structure IsBalanced (text : String) : Prop where
  starts : ['$', '('] <+: text.toList
  ends : text.toList.getLast? = some ')'
  inside : ∀ front, front <+: text.toList → front ≠ text.toList → 2 ≤ front.length →
    0 < parenDepth front
  closed : parenDepth text.toList = 0
  /-- What is evaluated is all but the delimiters. -/
  body : "$(" ++ Lowering.expressionBody text ++ ")" = text

theorem ClosesParen.getElem? {chars : List Char} {n : Nat} (h : ClosesParen 1 chars n) :
    chars[n]? = some ')' := by
  have hinside := h.inside n (Nat.le_refl n)
  have hclosed := h.closed
  rw [List.take_add_one, parenDepth_append] at hclosed
  cases hc : chars[n]? with
  | none =>
      rw [hc, Option.toList_none, parenDepth_nil] at hclosed
      omega
  | some c =>
      rw [hc, Option.toList_some] at hclosed
      by_cases hclose : c = ')'
      · rw [hclose]
      · exfalso
        by_cases hopen : c = '('
        · rw [hopen, parenDepth_open] at hclosed
          omega
        · rw [parenDepth_other hopen hclose] at hclosed
          omega

theorem isBalanced_of_closesParen {text : String} {chars : List Char} {n : Nat}
    (htext : text.toList = '$' :: '(' :: chars.take (n + 1)) (h : ClosesParen 1 chars n) :
    IsBalanced text := by
  have hdepth : ∀ inside, parenDepth ('$' :: '(' :: inside) = 1 + parenDepth inside :=
    parenDepth_append ['$', '(']
  have hlast : chars.take (n + 1) = chars.take n ++ [')'] := by
    rw [List.take_add_one, h.getElem?]
    rfl
  have hspaced : text.toList = Lowering.spacedExpression [] (chars.take n) [] := by
    rw [htext, hlast]
    rfl
  refine ⟨⟨_, htext.symm⟩, ?_, ?_, ?_, ?_⟩
  · rw [htext, hlast, ← List.cons_append, ← List.cons_append, List.getLast?_concat]
  · intro front hfront hne hlong
    obtain ⟨m, hm⟩ := Nat.exists_eq_add_of_le' hlong
    -- a proper prefix does not reach beyond the position
    have hle : m ≤ n := by
      by_contra hbeyond
      refine hne (hfront.eq_of_length_le ?_)
      rw [htext, hm, List.length_cons, List.length_cons, List.length_take]
      omega
    have htake : front = '$' :: '(' :: chars.take m := by
      rw [List.prefix_iff_eq_take.mp hfront, hm, htext, List.take_succ_cons, List.take_succ_cons,
        List.take_take, Nat.min_eq_left (Nat.le_succ_of_le hle)]
    rw [htake, hdepth]
    exact h.inside m hle
  · rw [htext, hdepth]
    exact h.closed
  · rw [← String.toList_inj, String.toList_append, String.toList_append,
      Lowering.toList_expressionBody hspaced nofun nofun, hspaced]
    simp [Lowering.spacedExpression]

/-! ## The places that lexing comes to -/

/-- Lexing takes the tokens off the front of the characters and comes to those that are left. -/
inductive Reaches (chars : List Char) : List Token → List Char → Prop where
  | start : Reaches chars [] chars
  | space {tokens : List Token} {c : Char} {rest : List Char}
      (h : Reaches chars tokens (c :: rest)) (hc : isSpace c = true) : Reaches chars tokens rest
  | token {tokens : List Token} {c : Char} {rest : List Char} {l : Lexeme}
      (h : Reaches chars tokens (c :: rest)) (hc : isSpace c = false)
      (hl : lexeme c rest = .ok l) :
      Reaches chars (tokens ++ [⟨l.kind, l.text, chars.length - rest.length⟩]) l.rest

namespace Reaches

variable {chars rest : List Char} {tokens : List Token}

theorem suffix (h : Reaches chars tokens rest) : rest <:+ chars := by
  induction h with
  | start => exact List.suffix_refl _
  | @space tokens c rest _ _ ih => exact (List.suffix_cons c rest).trans ih
  | @token tokens c rest l _ _ hl ih =>
      have hrest : l.rest <:+ c :: rest := ⟨l.chars, lexeme_append hl⟩
      exact hrest.trans ih

/-- Lexing goes on from the place. -/
theorem lexOnto_eq (h : Reaches chars tokens rest) :
    lexOnto [] 0 chars = lexOnto tokens.reverse (chars.length - rest.length) rest := by
  induction h with
  | start => rw [Nat.sub_self, List.reverse_nil]
  | @space tokens c rest h hc ih =>
      have hle := h.suffix.length_le
      rw [List.length_cons] at hle
      rw [ih, lexOnto_space _ _ _ hc, List.length_cons]
      congr 1
      omega
  | @token tokens c rest l h hc hl ih =>
      have hle := h.suffix.length_le
      have hlength := congrArg List.length (lexeme_append hl)
      rw [List.length_append] at hlength
      rw [List.length_cons] at hle hlength
      have hdrop : (c :: rest).dropWhile isSpace = c :: rest := by simp [hc]
      have htake : (c :: rest).takeWhile isSpace = [] := by simp [hc]
      rw [ih, lexOnto_of_ok _ _ hdrop hl, htake, List.reverse_append, List.reverse_singleton,
        List.length_cons, List.length_nil]
      have hcol : chars.length - (rest.length + 1) + 0 + 1 = chars.length - rest.length := by omega
      have hpos : chars.length - (rest.length + 1) + 0 + l.chars.length =
          chars.length - l.rest.length := by omega
      rw [hcol, hpos]
      rfl

/-- White space is passed over. -/
theorem dropWhile (h : Reaches chars tokens rest) :
    Reaches chars tokens (rest.dropWhile isSpace) := by
  induction rest with
  | nil => exact h
  | cons c rest ih =>
      by_cases hc : isSpace c = true
      · rw [List.dropWhile_cons_of_pos hc]
        exact ih (h.space hc)
      · rwa [List.dropWhile_cons_of_neg hc]

/-- If nothing is wrong with what is left, lexing comes to the end. -/
theorem to_end {done : List Token} {pos : Nat} (h : Reaches chars done.reverse rest)
    (hpos : pos + rest.length = chars.length) (hlex : lexOnto done pos rest = ⟨tokens, none⟩) :
    Reaches chars tokens [] := by
  fun_induction lexOnto done pos rest with
  | case1 done pos rest hblank =>
      obtain ⟨rfl, -⟩ := Lexed.mk.inj hlex
      rw [← hblank]
      exact h.dropWhile
  | case2 => cases (Lexed.mk.inj hlex).2
  | case3 done pos rest c next hnext first l hl ih =>
      have hspace : isSpace c = false := by
        have hhead := List.head?_dropWhile_not isSpace rest
        simpa [hnext] using hhead
      have hsplit := congrArg List.length
        (List.takeWhile_append_dropWhile (p := isSpace) (l := rest))
      rw [hnext, List.length_append, List.length_cons] at hsplit
      have hlength := congrArg List.length (lexeme_append hl)
      rw [List.length_append, List.length_cons] at hlength
      have hfirst : first = pos + (rest.takeWhile isSpace).length := rfl
      have hcol : chars.length - next.length = first + 1 := by omega
      have hreached := (hnext ▸ h.dropWhile).token hspace hl
      rw [hcol] at hreached
      exact ih (by rwa [List.reverse_cons]) (by omega) hlex

theorem length_sub_append (before rest more : List Char) :
    (before ++ more).length - (rest ++ more).length = before.length - rest.length := by
  rw [List.length_append, List.length_append, Nat.add_sub_add_right]

/-- Lexing goes over the front of the characters as if nothing followed on it. -/
theorem of_append {before more : List Char} (hmore : more ≠ [])
    (h : Reaches (before ++ more) tokens rest) :
    ∀ after, rest = after ++ more →
      Reaches before tokens after ∧ ∀ tok ∈ tokens, tok.kind ≠ .comment := by
  induction h with
  | start =>
      intro after hafter
      rw [← List.append_cancel_right hafter]
      exact ⟨.start, nofun⟩
  | space _ hc ih =>
      rintro after rfl
      obtain ⟨hreached, hcomment⟩ := ih (_ :: after) rfl
      exact ⟨hreached.space hc, hcomment⟩
  | @token tokens c rest l _ hc hl ih =>
      intro after hafter
      obtain ⟨tail, hchars, -⟩ := chars_of_lexeme hl
      have hrest : rest = tail ++ after ++ more := by
        have happend := lexeme_append hl
        rw [hchars, hafter] at happend
        rw [List.append_assoc]
        exact (List.cons.inj happend).2.symm
      subst hrest
      obtain ⟨hreached, hcomment⟩ := ih (c :: (tail ++ after)) rfl
      obtain ⟨after', hafter', hl'⟩ := lexeme_of_append hl (by
        rw [hchars, List.length_cons, List.length_append]
        omega)
      obtain rfl : after = after' := List.append_cancel_right (hafter.symm.trans hafter')
      refine ⟨?_, ?_⟩
      · rw [length_sub_append]
        exact hreached.token hc hl'
      · intro tok htok
        rcases List.mem_append.mp htok with htok | htok
        · exact hcomment tok htok
        · obtain rfl := List.mem_singleton.mp htok
          intro hkind
          obtain ⟨text, -, -, rfl⟩ := lexeme_comment hl hkind
          exact hmore (List.append_eq_nil_iff.mp hafter.symm).2

end Reaches

section opening

variable {d : Delimited} {tokens : List Token} {line before inside : List Char}

/-- A lexeme ends where it does, also with a token of one of the kinds later on the line. -/
theorem lexeme_append_opening {c : Char} {rest : List Char} {l : Lexeme}
    (hl : lexeme c rest = .ok l) (hc : isSpace c = false) (hkind : l.kind ≠ .comment) :
    lexeme c (rest ++ (d.opening ++ inside)) =
      .ok ⟨l.kind, l.chars, l.rest ++ (d.opening ++ inside)⟩ := by
  obtain ⟨tail, hchars, -⟩ := chars_of_lexeme hl
  have hrest : rest = tail ++ l.rest := by
    have happend := lexeme_append hl
    rw [hchars] at happend
    exact (List.cons.inj happend).2.symm
  have htok : (Token.mk l.kind l.text 0).IsLexeme := isLexeme_of_lexeme hl hc 0
  have hprint := (print_of_lexeme hl 0).trans hchars
  have hends : ¬ (Token.mk l.kind l.text 0).GoesOn l.rest := fun hgoes =>
    shape_ne_of_goesOn hprint hgoes (hrest ▸ hl) rfl
  -- the opening belongs to no word and to no operator
  obtain ⟨first, others, hopening, -, hpart, hmarks⟩ := d.exists_opening_eq
  have hmore : ¬ (Token.mk l.kind l.text 0).GoesOn (l.rest ++ (d.opening ++ inside)) := by
    rw [hopening]
    rintro (⟨hword, x, hx, hxpart⟩ | ⟨hop, mark, hmark, hlonger, hfits⟩)
    · cases hnext : l.rest with
      | nil =>
          rw [hnext] at hx
          obtain rfl : first = x := Option.some.inj hx
          rw [hpart] at hxpart
          cases hxpart
      | cons y ys =>
          rw [hnext] at hx
          exact hends (.inl ⟨hword, x, hnext ▸ hx, hxpart⟩)
    · rw [← List.append_assoc] at hfits
      rcases Nat.lt_or_ge (l.text.toList ++ l.rest).length mark.length with hlong | hle
      · exact (chars_of_mem_longMarks hmark first (mem_of_longer hlong hfits)).2 hmarks
      · refine hends (.inr ⟨hop, mark, hmark, hlonger, ?_⟩)
        refine List.prefix_of_prefix_length_le hfits (List.prefix_append _ _) ?_
        rwa [String.length_toList]
  rw [hrest, List.append_assoc, lexeme_before htok hprint hkind hmore, hchars]

/-- What lexing comes to does not change if a token of one of the kinds follows. -/
theorem Reaches.append_opening {rest : List Char} (h : Reaches before tokens rest)
    (hcomment : ∀ tok ∈ tokens, tok.kind ≠ .comment) :
    Reaches (before ++ (d.opening ++ inside)) tokens (rest ++ (d.opening ++ inside)) := by
  induction h with
  | start => exact .start
  | space _ hc ih => exact (ih hcomment).space hc
  | @token tokens c rest l _ hc hl ih =>
      have hkind : l.kind ≠ .comment :=
        hcomment _ (List.mem_append_right _ (List.mem_singleton_self _))
      have hreached : Reaches (before ++ (d.opening ++ inside)) tokens
          (c :: (rest ++ (d.opening ++ inside))) :=
        ih fun tok htok => hcomment tok (List.mem_append_left _ htok)
      have htoken := hreached.token hc (lexeme_append_opening hl hc hkind)
      rwa [length_sub_append] at htoken

/-- **When lexing comes to the start of a delimited token.**  It does so exactly if what stands
before is lexed by itself to its end, and nothing of it is a comment. -/
theorem reaches_opening_iff :
    Reaches line tokens (d.opening ++ inside) ↔
      ∃ before, line = before ++ (d.opening ++ inside) ∧
        lex (String.ofList before) = ⟨tokens, none⟩ ∧ ∀ tok ∈ tokens, tok.kind ≠ .comment := by
  have hne : d.opening ++ inside ≠ [] := by
    obtain ⟨c, rest, hopening, -⟩ := d.exists_opening_eq
    rw [hopening]
    exact List.cons_ne_nil _ _
  constructor
  · intro h
    obtain ⟨before, rfl⟩ := h.suffix
    obtain ⟨hreached, hcomment⟩ := h.of_append hne [] rfl
    refine ⟨before, rfl, ?_, hcomment⟩
    rw [lex, String.toList_ofList, hreached.lexOnto_eq, lexOnto_of_blank _ _ rfl,
      List.reverse_reverse]
  · rintro ⟨before, rfl, hlex, hcomment⟩
    rw [lex, String.toList_ofList] at hlex
    have hend : Reaches before tokens [] := Reaches.start.to_end (Nat.zero_add _) hlex
    exact hend.append_opening hcomment

end opening

/-! ## Delimited tokens on a line -/

/-- **Delimited tokens end at their delimiter.**  Every expression on a line is balanced: it starts
with `$(`, its depth is positive up to its last character, which closes it, and without the two
delimiters it is what is evaluated.  Strings, characters and expressions stand on the line from
their opening up to the first end that follows on it.  If lexing comes to an opening and no end
follows, it fails with the code for the kind, and the rest of the line is the detail. -/
theorem delimited_tokens_end (line : String) :
    (∀ tok ∈ (lex line).tokens, (tok.kind = .expr → IsBalanced tok.text) ∧
      ∀ d : Delimited, tok.kind = d.kind →
        ∃ chars n, line.toList.drop tok.start = d.opening ++ chars ∧ d.EndsAt chars n ∧
          tok.text.toList = d.opening ++ chars.take (n + 1)) ∧
    ∀ (d : Delimited) (tokens : List Token) (chars : List Char),
      Reaches line.toList tokens (d.opening ++ chars) → (∀ n, ¬ d.EndsAt chars n) →
        lex line =
          ⟨tokens, some (.withTexts d.code [String.ofList (d.opening ++ chars)])⟩ := by
  refine ⟨fun tok htok => ⟨fun hkind => ?_, fun d hkind => ?_⟩, ?_⟩
  · obtain ⟨chars, n, -, hends, htext⟩ := Delimited.ends_of_mem_lex (d := .expr) htok hkind
    exact isBalanced_of_closesParen htext hends
  · exact Delimited.ends_of_mem_lex htok hkind
  · intro d tokens chars hreached hnever
    obtain ⟨c, rest, hopening, hspace, -⟩ := d.exists_opening_eq
    have hclose := Delimited.close?_eq_none_iff.mpr hnever
    have hfront : c :: (rest ++ chars) = d.opening ++ chars := by rw [hopening, List.cons_append]
    have hlexeme := Delimited.lexeme_of_close?_eq_none hfront hclose
    have hdrop : (d.opening ++ chars).dropWhile isSpace = c :: (rest ++ chars) := by
      rw [← hfront, List.dropWhile_cons_of_neg (by simp [hspace])]
    rw [lex, hreached.lexOnto_eq, lexOnto_of_error _ _ hdrop hlexeme, List.reverse_reverse, hfront]
    rfl

/-- A token of each kind. -/
def delimitedFront : String := "$((1)) \"\\\\\" '\\'' "

/-- A line with a token of each kind, and one more that has no end. -/
def delimitedLine : String := delimitedFront ++ "$(\"a"

/-- The tokens that have an end. -/
def delimitedTokens : List Token :=
  [⟨.expr, "$((1))", 1⟩, ⟨.string, "\"\\\\\"", 8⟩, ⟨.char, "'\\''", 13⟩]

theorem delimitedLine_ends :
    IsBalanced "$((1))" ∧
      (∃ chars n, delimitedLine.toList.drop 7 = '"' :: chars ∧ ClosesQuote '"' chars n ∧
        "\"\\\\\"".toList = '"' :: chars.take (n + 1)) ∧
      lex delimitedLine =
        ⟨delimitedTokens, some (.withTexts .expressionUnterminated ["$(\"a"])⟩ := by
  obtain ⟨hends, hfails⟩ := delimited_tokens_end delimitedLine
  have htokens : (lex delimitedLine).tokens = delimitedTokens := by decide +kernel
  have hbefore : lex delimitedFront = ⟨delimitedTokens, none⟩ := by
    have hsame : (lex delimitedFront).tokens = delimitedTokens := by decide +kernel
    have hnone : (lex delimitedFront).problem? = none := by decide +kernel
    rw [← hsame, ← hnone]
  rw [htokens] at hends
  refine ⟨?_, ?_, ?_⟩
  · exact (hends ⟨.expr, "$((1))", 1⟩ (by decide)).1 rfl
  · exact (hends ⟨.string, "\"\\\\\"", 8⟩ (by decide)).2 .string rfl
  · refine hfails .expr delimitedTokens ['"', 'a'] (reaches_opening_iff.mpr ?_) ?_
    · exact ⟨delimitedFront.toList, by decide, hbefore, by decide⟩
    · exact Delimited.close?_eq_none_iff.mp (by decide)

end Shorthand
