import Mathlib.Data.List.TakeWhile
import Shorthand.Proofs.Expression.Single
import Shorthand.Proofs.Syntax.Lexemes

/-!
# Names as expressions

A constant is known to expressions by its name, so its name alone is an expression, and what one
expects is that it has the value of the constant.  `Visible` says for which names that is so, and
`evaluate_name` that it is so for no others.

Names of constants and names of expressions are not quite the same.  The words of expressions are
fewer: they hold no digits but the decimal ones of ASCII, while a constant may be named with digits
of any script, and such a digit starts no token at all.  And some words are taken: the keywords and
the reserved words, and the name of the result.

## Strategy

A word is read up to the first character that does not continue it (`tokensOnto_word`).  In the name
of a constant this is the end of the line (`tokensOnto_word_newline`), or a digit of another script,
behind which nothing is read (`tokensOnto_word_foreign`).  So the program is either a single name or
keyword, or none (`tokens?_name`), and what a single token comes to is known.
-/

namespace Shorthand.Expression

/-! ## Words -/

section words

variable {c : Char} {rest : List Char} {done : List Tok} {depth fuel : Nat} {widths : List Nat}

/-- The characters that start a token and no name and no decimal number. -/
def signs : List Char :=
  ['"', '\'', '.', '<', '>', '/', '=', '!', '+', '-', '*', '%', '&', '|', '^', '~', ':', ';', ',',
   '(', ')', '[', ']', '\x7b', '\x7d']

theorem readMark?_eq_none (hc : c ∉ signs) : readMark? (c :: rest) = none := by
  rw [readMark?]
  all_goals
    intros
    rename_i heq
    exact hc (by rw [(List.cons.inj heq).1]; decide)

theorem isQuote_eq_false (hc : c ∉ signs) : isQuote c = false := by
  simp only [isQuote, Bool.or_eq_false_iff, beq_eq_false_iff_ne]
  constructor <;> (rintro rfl; exact hc (by decide))

/-- No token starts with any other character. -/
theorem readToken?_eq_none (hword : continuesName c = false) (hc : c ∉ signs) :
    readToken? (c :: rest) = none := by
  simp only [continuesName, Bool.or_eq_false_iff] at hword
  obtain ⟨hstart, hdecimal⟩ := hword
  have hdot : (c == '.') = false := by
    rw [beq_eq_false_iff_ne]
    rintro rfl
    exact hc (by decide)
  unfold readToken?
  split
  iterate 3
    · rename_i heq
      rw [(List.cons.inj heq).1] at hstart
      exact absurd hstart (by decide)
  · rename_i heq
    obtain ⟨rfl, rfl⟩ := List.cons.inj heq
    simp only [isQuote_eq_false hc, hstart, hdecimal, hdot, readMark?_eq_none hc, Bool.or_self,
      Bool.false_eq_true, if_false, Option.map_none]
  · rename_i heq
    cases heq

/-- A word is read as a whole, unless it marks the string that follows it. -/
theorem readToken?_of_startsName (hc : startsName c = true)
    (hquote : ((c :: rest).dropWhile continuesName).head?.any isQuote = false) :
    readToken? (c :: rest) = readWord? (c :: rest) := by
  -- behind characters of a word there is no quote
  have hplain : ∀ (word : List Char) (q : Char) (more : List Char),
      c :: rest = word ++ q :: more → word.all continuesName = true → isQuote q = false := by
    intro word q more hchars hword
    cases hpart : continuesName q with
    | true =>
        cases hq : isQuote q with
        | false => rfl
        | true =>
            simp only [isQuote, Bool.or_eq_true, beq_iff_eq] at hq
            rcases hq with rfl | rfl <;> exact absurd hpart (by decide)
    | false =>
        rw [hchars, List.dropWhile_append_of_pos (List.all_eq_true.mp hword), List.dropWhile_cons,
          hpart] at hquote
        exact hquote
  unfold readToken?
  split
  · rename_i q more heq
    rw [hplain ['r', 'b'] q more heq (by decide)]
    rfl
  · rename_i q more _ heq
    rw [hplain ['r'] q more heq (by decide)]
    rfl
  · rename_i q more heq
    rw [hplain ['b'] q more heq (by decide)]
    rfl
  · rename_i heq
    obtain ⟨rfl, rfl⟩ := List.cons.inj heq
    rw [hplain [] c rest rfl rfl, hc]
    rfl
  · rename_i heq
    cases heq

theorem depthAfter?_of_wordToken? {word : String} {tok : Tok} (h : wordToken? word = some tok) :
    depthAfter? depth tok = some depth := by
  unfold wordToken? at h
  split at h
  · obtain rfl := Option.some.inj h
    rfl
  · split at h
    · cases h
    · obtain rfl := Option.some.inj h
      rfl

/-- A word is a token, unless it is reserved, and the text goes on behind it. -/
theorem tokensOnto_word (hc : startsName c = true)
    (hquote : ((c :: rest).dropWhile continuesName).head?.any isQuote = false) :
    tokensOnto done depth widths (fuel + 1) false (c :: rest) =
      (wordToken? (String.ofList ((c :: rest).takeWhile continuesName))).bind fun tok =>
        tokensOnto (tok :: done) depth widths fuel false
          ((c :: rest).dropWhile continuesName) := by
  have hgap : c ∉ gapChars := by
    have hnone : gapChars.any startsName = false := by decide
    exact fun hmem => List.any_eq_false.mp hnone c hmem hc
  rw [tokensOnto_token hgap, readToken?_of_startsName hc hquote, readWord?]
  cases hword : wordToken? (String.ofList ((c :: rest).takeWhile continuesName)) with
  | none => rfl
  | some tok =>
      rw [Option.map_some, Option.bind_some, depthAfter?_of_wordToken? hword]
      rfl

/-- Nothing is read behind a character of which no token is made. -/
theorem tokensOnto_foreign (hword : continuesName c = false) (hsign : c ∉ signs)
    (hgap : c ∉ gapChars) :
    tokensOnto done depth widths (fuel + 1) false (c :: rest) = none := by
  rw [tokensOnto_token hgap, readToken?_eq_none hword hsign]
  rfl

/-- A word up to the end of the line is the last token. -/
theorem tokensOnto_word_newline (hc : startsName c = true)
    (hword : ∀ d ∈ c :: rest, continuesName d = true) :
    tokensOnto done 0 [0] (fuel + 3) false (c :: (rest ++ ['\n'])) =
      (wordToken? (String.ofList (c :: rest))).map fun tok =>
        (tok :: done).reverse ++ [.newline, .ending] := by
  have htake : (c :: (rest ++ ['\n'])).takeWhile continuesName = c :: rest := by
    rw [← List.cons_append, List.takeWhile_append_of_pos hword]
    exact List.append_nil _
  have hdrop : (c :: (rest ++ ['\n'])).dropWhile continuesName = ['\n'] := by
    rw [← List.cons_append, List.dropWhile_append_of_pos hword]
    rfl
  rw [tokensOnto_word hc (by rw [hdrop]; rfl), htake, hdrop]
  cases wordToken? (String.ofList (c :: rest)) with
  | none => rfl
  | some tok => exact @tokensOnto_newline _ fuel

/-- Nothing is read behind a word that ends before such a character. -/
theorem tokensOnto_word_foreign (hc : startsName c = true)
    (hforeign : ∀ d ∈ c :: rest, d ∉ signs ++ gapChars)
    (hnot : ¬ (c :: rest).all continuesName = true) :
    tokensOnto done depth widths (fuel + 2) false (c :: (rest ++ ['\n'])) = none := by
  obtain ⟨d, more, hdrop⟩ : ∃ d more, (c :: rest).dropWhile continuesName = d :: more := by
    cases hdrop : (c :: rest).dropWhile continuesName with
    | nil => exact absurd (List.all_eq_true.mpr (List.dropWhile_eq_nil_iff.mp hdrop)) hnot
    | cons d more => exact ⟨d, more, rfl⟩
  have hd : continuesName d = false := by
    have hnone := List.head?_dropWhile_not continuesName (c :: rest)
    simpa [hdrop] using hnone
  have hmem : d ∈ c :: rest :=
    (List.dropWhile_suffix continuesName).subset (by rw [hdrop]; exact List.mem_cons_self ..)
  obtain ⟨hsign, hgap⟩ : d ∉ signs ∧ d ∉ gapChars := by
    simpa only [List.mem_append, not_or] using hforeign d hmem
  have hdropped : (c :: (rest ++ ['\n'])).dropWhile continuesName = d :: (more ++ ['\n']) := by
    rw [← List.cons_append, List.dropWhile_append, hdrop]
    rfl
  rw [tokensOnto_word hc (by rw [hdropped]; exact isQuote_eq_false hsign), hdropped]
  cases wordToken? (String.ofList ((c :: (rest ++ ['\n'])).takeWhile continuesName)) with
  | none => rfl
  | some tok => exact tokensOnto_foreign hd hsign hgap

end words

/-! ## Names -/

section names

variable {c : Char} {rest : List Char} {text : String} {known? : String → Option Int}

/-- A character of a name is a sign of no kind, and no end of a line. -/
theorem not_mem_of_isIdentPart (hc : isIdentPart c = true) : c ∉ '\r' :: signs ++ gapChars := by
  have hnone : ('\r' :: signs ++ gapChars).any isIdentPart = false := by decide +kernel
  exact fun hmem => List.any_eq_false.mp hnone c hmem hc

/-- The tokens of a name, which has none with a digit of another script in it. -/
theorem tokens?_name (htext : text.toList = c :: rest) (hc : isIdentStart c = true)
    (hrest : ∀ d ∈ rest, isIdentPart d = true) :
    tokens? (programText text) =
      if text.toList.all continuesName = true then (wordToken? text).map assigning else none := by
  have hpart : ∀ d ∈ c :: rest, isIdentPart d = true :=
    List.forall_mem_cons.mpr ⟨isIdentPart_of_isIdentStart hc, hrest⟩
  have hreturn : '\r' ∉ text.toList := by
    rw [htext]
    exact fun hmem => not_mem_of_isIdentPart (hpart '\r' hmem) (List.mem_cons_self ..)
  have hhead : text.toList.head? ≠ some '=' := by
    rw [htext, List.head?_cons, ne_eq, Option.some.injEq]
    rintro rfl
    exact absurd hc (by decide)
  rw [tokens?_line hhead hreturn, htext, List.cons_append]
  split
  · rename_i hall
    rw [tokensOnto_word_newline hc (List.all_eq_true.mp hall), ← htext, String.ofList_toList]
    rfl
  · rename_i hnot
    refine tokensOnto_word_foreign hc (fun d hd hmem => ?_) hnot
    exact not_mem_of_isIdentPart (hpart d hd) (List.mem_cons_of_mem _ hmem)

/-- The names by which expressions know a constant. -/
structure Visible (name : String) : Prop where
  not_result : name ≠ resultName
  not_keyword : Keyword.ofText? name = none
  not_reserved : name ∉ reservedWords
  /-- No digits of other scripts. -/
  continues : name.toList.all continuesName = true

instance (name : String) : Decidable (Visible name) :=
  decidable_of_iff
    (name ≠ resultName ∧ Keyword.ofText? name = none ∧ name ∉ reservedWords ∧
      name.toList.all continuesName = true)
    ⟨fun h => ⟨h.1, h.2.1, h.2.2.1, h.2.2.2⟩, fun h => ⟨h.1, h.2, h.3, h.4⟩⟩

/-- A name that is visible has the value of its constant, and any other name has none. -/
theorem evaluate_name (htext : text.toList = c :: rest) (hc : isIdentStart c = true)
    (hrest : ∀ d ∈ rest, isIdentPart d = true) {value : Int}
    (hvalue : known? text = some value) :
    evaluate known? text = ⟨[], if Visible text then word? value else none⟩ := by
  have htokens := tokens?_name htext hc hrest
  have hhidden : program? known? (programText text) = none → ¬ Visible text →
      evaluate known? text = ⟨[], if Visible text then word? value else none⟩ := by
    intro hprogram hnot
    rw [evaluate_of_program?_eq_none hprogram, if_neg hnot]
  split at htokens
  · rename_i hall
    cases hkeyword : Keyword.ofText? text with
    | some keyword =>
        rw [wordToken?, hkeyword] at htokens
        refine hhidden (program?_of_parse?_eq_none htokens (parse?_assigning_keyword keyword)) ?_
        intro hvisible
        rw [hvisible.not_keyword] at hkeyword
        cases hkeyword
    | none =>
        by_cases hreserved : text ∈ reservedWords
        · have hnone : wordToken? text = none := by
            simp only [wordToken?, hkeyword, List.contains_iff_mem.mpr hreserved, if_true]
          rw [hnone] at htokens
          exact hhidden (program?_of_tokens?_eq_none htokens) fun hvisible =>
            hvisible.not_reserved hreserved
        · have hname : wordToken? text = some (.name text) := by
            have hcontains : reservedWords.contains text = false := by
              rwa [← Bool.not_eq_true, List.contains_iff_mem]
            simp only [wordToken?, hkeyword, hcontains, Bool.false_eq_true, if_false]
          rw [hname] at htokens
          rw [evaluate_of_name htokens hvalue]
          by_cases hresult : text = resultName
          · rw [if_pos hresult, if_neg fun hvisible => hvisible.not_result hresult]
          · rw [if_neg hresult, if_pos ⟨hresult, hkeyword, hreserved, hall⟩]
  · rename_i hnot
    exact hhidden (program?_of_tokens?_eq_none htokens) fun hvisible => hnot hvisible.continues

end names

end Shorthand.Expression
