import Shorthand.Proofs.Expression.Names

/-!
# Integer literals as expressions

The integers of a source line and those of expressions are written alike, but not quite.  Both have
the marks `0x`, `0o` and `0b`, and decimal digits mean the same to both.  But a source line may also
separate digits by underscores and mark an octal number by a leading zero alone, and expressions
have neither.  So a positive literal has its value as an expression if it is plain (`IsPlain`), and
otherwise it has none (`evaluate_number`).

## Strategy

A literal is spelled in one of three ways (`Spelled`).  In each of them expressions read the digits
up to the first underscore.

* **Without underscores** that is the whole literal.  The digits have the same value, unless a
  decimal digit follows on a leading zero: such a number is not read.
* **With underscores** what is left over is a word (`tokens?_of_digit`), and no program has a number
  and a word side by side (`parse?_number_word`).
-/

namespace Shorthand.Expression

open Text Literal

/-! ## Digits -/

section digits

variable {base n v : Nat} {chars : List Char}

/-- Digits add up to their value, from the first one on. -/
theorem readDigits?_of_digits (h : ∀ c ∈ chars, isDigitIn base c = true) :
    Integer.readDigits? base v chars =
      some (chars.foldl (fun n c => n * base + (Integer.digitValue? c).getD 0) v) := by
  induction chars generalizing v with
  | nil => rfl
  | cons c chars ih =>
      obtain ⟨hc, hchars⟩ := List.forall_mem_cons.mp h
      have hne : c ≠ '_' := by
        rintro rfl
        cases hc
      rw [Integer.readDigits?.eq_3 _ _ _ _ hne]
      unfold isDigitIn at hc
      cases hvalue : Integer.digitValue? c with
      | none => simp [hvalue] at hc
      | some digit =>
          have hlt : digit < base := by simpa [hvalue] using hc
          simp only [hlt, if_true, ih hchars, List.foldl_cons, hvalue, Option.getD_some]

/-- Only digits and underscores are read. -/
theorem isDigitIn_of_readDigits? (h : Integer.readDigits? base v chars = some n) :
    ∀ c ∈ chars, c = '_' ∨ isDigitIn base c = true := by
  fun_induction Integer.readDigits? base v chars with
  | case1 => simp
  | case2 v rest ih => exact List.forall_mem_cons.mpr ⟨.inl rfl, ih h⟩
  | case3 v c rest hne digit hvalue hlt ih =>
      refine List.forall_mem_cons.mpr ⟨.inr ?_, ih h⟩
      simpa [isDigitIn, hvalue] using hlt
  | case4 => cases h
  | case5 => cases h

/-- Without underscores the value is that of the digits. -/
theorem value_of_readDigits? (h : Integer.readDigits? base 0 chars = some n)
    (hplain : '_' ∉ chars) : (∀ c ∈ chars, isDigitIn base c = true) ∧ value base chars = n := by
  have hdigits : ∀ c ∈ chars, isDigitIn base c = true := by
    intro c hc
    rcases isDigitIn_of_readDigits? h c hc with rfl | hdigit
    · exact absurd hc hplain
    · exact hdigit
  rw [readDigits?_of_digits hdigits] at h
  exact ⟨hdigits, Option.some.inj h⟩

/-- The letters of ASCII stand at the front of the table. -/
theorem letterRanges_eq : letterRanges = (0x41, 0x5A) :: (0x61, 0x7A) :: letterRanges.drop 2 := rfl

theorem isLetter_of_range {c : Char} (h : 'a' ≤ c ∧ c ≤ 'z' ∨ 'A' ≤ c ∧ c ≤ 'Z') :
    isLetter c = true := by
  have hpoints : 97 ≤ c.toNat ∧ c.toNat ≤ 122 ∨ 65 ≤ c.toNat ∧ c.toNat ≤ 90 := h
  rw [isLetter, letterRanges_eq, Ranges.holds, Ranges.holds]
  split
  · omega
  · split
    · rfl
    · split
      · omega
      · rw [if_pos (by omega)]

/-- No word starts with a digit. -/
theorem startsName_of_isDecimal {c : Char} (h : isDecimal c = true) : startsName c = false := by
  have hbar : c ≠ '_' := by
    rintro rfl
    cases h
  have hpoint : c.toNat ≤ 57 := by
    rw [isDecimal, Bool.and_eq_true, decide_eq_true_eq, decide_eq_true_eq] at h
    exact h.2
  have hletter : isLetter c = false := by
    rw [isLetter, letterRanges_eq, Ranges.holds, if_pos (by omega)]
  rw [startsName, hletter, Bool.or_false, beq_eq_false_iff_ne]
  exact hbar

/-- A digit of whatever base is a character of words. -/
theorem continuesName_of_isDigitIn {c : Char} (h : isDigitIn base c = true) :
    continuesName c = true := by
  unfold isDigitIn Integer.digitValue? at h
  simp only [Bool.and_eq_true, decide_eq_true_eq] at h
  rw [continuesName, startsName]
  by_cases hdecimal : '0' ≤ c ∧ c ≤ '9'
  · simp [isDecimal, hdecimal]
  · have hletter : 'a' ≤ c ∧ c ≤ 'z' ∨ 'A' ≤ c ∧ c ≤ 'Z' := by
      by_contra hnot
      rw [not_or] at hnot
      simp [hdecimal, hnot] at h
    rw [isLetter_of_range hletter, Bool.or_true, Bool.true_or]

theorem isDigitIn_ten (c : Char) : isDigitIn 10 c = isDecimal c := by
  unfold isDigitIn Integer.digitValue? isDecimal
  by_cases hdecimal : ('0' ≤ c && c ≤ '9') = true
  · have hle : c ≤ '9' := by simp_all
    have hpoint : c.toNat ≤ 57 := hle
    have hzero : '0'.toNat = 48 := rfl
    simp only [hdecimal, if_true, hzero]
    exact decide_eq_true (by omega)
  · rw [Bool.not_eq_true] at hdecimal
    simp only [hdecimal, Bool.false_eq_true, if_false]
    -- the digits that are letters count from ten on
    by_cases hlower : ('a' ≤ c && c ≤ 'z') = true
    · rw [if_pos hlower]
      exact decide_eq_false (by omega)
    · rw [if_neg hlower]
      by_cases hupper : ('A' ≤ c && c ≤ 'Z') = true
      · rw [if_pos hupper]
        exact decide_eq_false (by omega)
      · rw [if_neg hupper]

theorem isDigitIn_mono {larger : Nat} (hle : base ≤ larger) {c : Char}
    (h : isDigitIn base c = true) : isDigitIn larger c = true := by
  unfold isDigitIn at h ⊢
  cases hvalue : Integer.digitValue? c with
  | none => simp [hvalue] at h
  | some digit =>
      have hlt : digit < base := by simpa [hvalue] using h
      simpa using lt_of_lt_of_le hlt hle

end digits

/-! ## Spellings -/

section spellings

variable {n : Nat} {chars : List Char}

/-- The base that a mark stands for. -/
def baseOf? (mark : Char) : Option Nat :=
  if mark == 'b' || mark == 'B' then some 2
  else if mark == 'o' || mark == 'O' then some 8
  else if mark == 'x' || mark == 'X' then some 16
  else none

/-- How the value of a literal is written. -/
inductive Spelled (n : Nat) : List Char → Prop where
  | decimal {c : Char} {rest : List Char} (hzero : c ≠ '0') (hc : isDecimal c = true)
      (hdigits : Integer.readDigits? 10 0 (c :: rest) = some n) : Spelled n (c :: rest)
  | octal {c : Char} {rest : List Char} (hmark : baseOf? c = none)
      (hdigits : Integer.readDigits? 8 0 (c :: rest) = some n) : Spelled n ('0' :: c :: rest)
  | based {mark c : Char} {rest : List Char} {base : Nat} (hmark : baseOf? mark = some base)
      (hdigits : Integer.readDigits? base 0 (c :: rest) = some n) :
      Spelled n ('0' :: mark :: c :: rest)

theorem splitBase_of_zero {mark c : Char} {rest : List Char} :
    Integer.splitBase ('0' :: mark :: c :: rest) =
      match baseOf? mark with
      | some base => (base, true, c :: rest)
      | none => (8, true, mark :: c :: rest) := by
  unfold baseOf?
  rw [Integer.splitBase]
  repeat' split
  all_goals simp_all

theorem splitBase_of_ne_zero {c : Char} {rest : List Char} (h : c ≠ '0') :
    Integer.splitBase (c :: rest) = (10, false, c :: rest) := by
  rw [Integer.splitBase]
  all_goals
    intros
    simp_all

/-- The mark of a base is a letter. -/
theorem letter_of_baseOf? {mark : Char} {base : Nat} (h : baseOf? mark = some base) :
    mark ≠ '_' ∧ isDecimal mark = false ∧ isDigitIn 8 mark = false ∧
      continuesName mark = true := by
  have hmark : mark ∈ ['b', 'B', 'o', 'O', 'x', 'X'] := by
    by_contra hnot
    simp only [List.mem_cons, List.not_mem_nil, or_false, not_or] at hnot
    simp [baseOf?, hnot] at h
  simp only [List.mem_cons, List.not_mem_nil, or_false] at hmark
  rcases hmark with rfl | rfl | rfl | rfl | rfl | rfl <;> decide

/-- No mark of a base is an octal digit. -/
theorem baseOf?_eq_none_of_octal {c : Char} (h : c = '_' ∨ isDigitIn 8 c = true) :
    baseOf? c = none := by
  cases hbase : baseOf? c with
  | none => rfl
  | some base =>
      obtain ⟨hbar, -, hoctal, -⟩ := letter_of_baseOf? hbase
      rcases h with rfl | hdigit
      · exact absurd rfl hbar
      · rw [hoctal] at hdigit
        cases hdigit

/-- A positive value is written in one of the three ways. -/
theorem spelled_of_magnitude? (h : Integer.magnitude? chars = some n) (hpos : 0 < n) :
    Spelled n chars := by
  -- the digits behind the mark of the base, whichever it is
  have hdigits : ∀ {base : Nat} {marked : Bool} {digits : List Char},
      Integer.splitBase chars = (base, marked, digits) →
        Integer.separated marked digits = true ∧ Integer.readDigits? base 0 digits = some n := by
    intro base marked digits hsplit
    rw [Integer.magnitude?, hsplit] at h
    simpa using (Option.ite_none_left_eq_some.mp h).2
  cases chars with
  | nil => cases h
  | cons c rest =>
      by_cases hzero : c = '0'
      · subst hzero
        rcases rest with _ | ⟨d, _ | ⟨e, rest⟩⟩
        · -- zero itself is not positive
          have hvalue := (hdigits rfl).2
          rw [Integer.readDigits?] at hvalue
          exact absurd (Option.some.inj hvalue) hpos.ne
        · have hvalue := (hdigits rfl).2
          have hd := isDigitIn_of_readDigits? hvalue d (List.mem_singleton_self d)
          exact .octal (baseOf?_eq_none_of_octal hd) hvalue
        · have hsplit := @splitBase_of_zero d e rest
          cases hmark : baseOf? d with
          | none =>
              rw [hmark] at hsplit
              exact .octal hmark (hdigits hsplit).2
          | some base =>
              rw [hmark] at hsplit
              exact .based hmark (hdigits hsplit).2
      · obtain ⟨hseparated, hvalue⟩ := hdigits (splitBase_of_ne_zero hzero)
        have hbar : c ≠ '_' := by
          rintro rfl
          cases rest <;> simp [Integer.separated] at hseparated
        refine .decimal hzero ?_ hvalue
        rw [← isDigitIn_ten]
        exact (isDigitIn_of_readDigits? hvalue c (List.mem_cons_self ..)).resolve_left hbar

end spellings

/-! ## Reading a literal -/

section reading

variable {n base : Nat} {c mark : Char} {rest chars : List Char}

/-- The limit for the values of digits that follow on the mark of a base. -/
def limitOf? (base : Nat) : Option Nat := if base = 16 then none else some Integer.signedLimit

theorem readNumber?_of_zero :
    readNumber? ('0' :: mark :: rest) =
      match baseOf? mark with
      | some base => readBased? base (limitOf? base) rest
      | none => readDecimal? ('0' :: mark :: rest) := by
  unfold baseOf?
  rw [readNumber?]
  by_cases hbinary : mark = 'b' ∨ mark = 'B'
  · rcases hbinary with rfl | rfl <;> rfl
  · by_cases hoctal : mark = 'o' ∨ mark = 'O'
    · rcases hoctal with rfl | rfl <;> rfl
    · by_cases hhex : mark = 'x' ∨ mark = 'X'
      · rcases hhex with rfl | rfl <;> rfl
      · simp [hbinary, hoctal, hhex]

theorem readNumber?_decimal (hzero : c ≠ '0') (hc : isDecimal c = true) :
    readNumber? (c :: rest) = readDecimal? (c :: rest) := by
  have hdot : c ≠ '.' := by
    rintro rfl
    cases hc
  rw [readNumber?]
  · intro rest' heq
    exact hdot (List.cons.inj heq).1
  · intro mark rest' heq
    exact hzero (List.cons.inj heq).1

/-- The digits of a number end at its first underscore. -/
theorem exists_dropWhile_of_underscore {isKind : Char → Bool}
    (h : ∀ c ∈ chars, c = '_' ∨ isKind c = true) (hbar : isKind '_' = false) (hmem : '_' ∈ chars) :
    ∃ more, (chars ++ ['\n']).dropWhile isKind = '_' :: (more ++ ['\n']) ∧ more ⊆ chars := by
  rw [List.dropWhile_append]
  cases hdrop : chars.dropWhile isKind with
  | nil =>
      have hkind := List.dropWhile_eq_nil_iff.mp hdrop '_' hmem
      rw [hbar] at hkind
      cases hkind
  | cons d more =>
      have hsubset : d :: more ⊆ chars := by
        rw [← hdrop]
        exact (List.dropWhile_suffix isKind).subset
      have hnot : isKind d = false := by
        have hnone := List.head?_dropWhile_not isKind chars
        simpa [hdrop] using hnone
      have hd : d = '_' := (h d (hsubset (List.mem_cons_self ..))).resolve_right (by simp [hnot])
      subst hd
      exact ⟨more, rfl, fun e he => hsubset (List.mem_cons_of_mem _ he)⟩

/-- If anything is read, then it is a number, and a word with an underscore follows on it. -/
def StopsAtWord (read? : Option (Tok × List Char)) : Prop :=
  ∀ read ∈ read?, ∃ n more, read = (.int n, '_' :: (more ++ ['\n'])) ∧
    ∀ d ∈ more, continuesName d = true

theorem readBased?_stopsAtWord {limit? : Option Nat}
    (h : ∀ c ∈ chars, c = '_' ∨ isDigitIn base c = true) (hmem : '_' ∈ chars) :
    StopsAtWord (readBased? base limit? (chars ++ ['\n'])) := by
  obtain ⟨more, hdrop, hsubset⟩ := exists_dropWhile_of_underscore h rfl hmem
  intro read hread
  obtain ⟨-, hread⟩ := Option.ite_none_left_eq_some.mp hread
  obtain rfl := Option.some.inj hread
  refine ⟨_, more, by rw [hdrop], fun d hd => ?_⟩
  rcases h d (hsubset hd) with rfl | hdigit
  · decide
  · exact continuesName_of_isDigitIn hdigit

/-- A number without a point and without an exponent is an integer. -/
theorem readFloat?_of_end {whole : List Char} (hc : c = '\n' ∨ c = '_') :
    readFloat? whole (c :: rest) = some (none, c :: rest) := by
  rcases hc with rfl | rfl <;> rfl

theorem readDecimal?_stopsAtWord (h : ∀ c ∈ chars, c = '_' ∨ isDecimal c = true)
    (hmem : '_' ∈ chars) : StopsAtWord (readDecimal? (chars ++ ['\n'])) := by
  obtain ⟨more, hdrop, hsubset⟩ := exists_dropWhile_of_underscore h rfl hmem
  intro read hread
  rw [Option.mem_def, readDecimal?, hdrop, readFloat?_of_end (.inr rfl)] at hread
  obtain ⟨-, hread⟩ := Option.ite_none_left_eq_some.mp hread
  obtain rfl := Option.some.inj hread
  refine ⟨_, more, rfl, fun d hd => ?_⟩
  rcases h d (hsubset hd) with rfl | hdigit
  · decide
  · rw [← isDigitIn_ten] at hdigit
    exact continuesName_of_isDigitIn hdigit

theorem readBased?_of_digits {limit? : Option Nat} (h : ∀ c ∈ chars, isDigitIn base c = true)
    (hne : chars ≠ []) (hlimit : ∀ limit ∈ limit?, value base chars < limit) :
    readBased? base limit? (chars ++ ['\n']) = some (.int (value base chars), ['\n']) := by
  have htake : (chars ++ ['\n']).takeWhile (isDigitIn base) = chars := by
    rw [List.takeWhile_append_of_pos h]
    exact List.append_nil _
  have hdrop : (chars ++ ['\n']).dropWhile (isDigitIn base) = ['\n'] :=
    List.dropWhile_append_of_pos h
  unfold readBased?
  rw [htake, hdrop]
  cases limit? with
  | none => simp [hne]
  | some limit => simp [hne, hlimit limit rfl]

/-- A decimal number is read, unless it is positive and starts with a zero. -/
theorem readDecimal?_of_digits (h : ∀ c ∈ chars, isDecimal c = true) :
    readDecimal? (chars ++ ['\n']) =
      if chars.head? = some '0' ∧ chars.any (· != '0') = true then none
      else some (.int (value 10 chars), ['\n']) := by
  have htake : (chars ++ ['\n']).takeWhile isDecimal = chars := by
    rw [List.takeWhile_append_of_pos h]
    exact List.append_nil _
  have hdrop : (chars ++ ['\n']).dropWhile isDecimal = ['\n'] :=
    List.dropWhile_append_of_pos h
  rw [readDecimal?, htake, hdrop, readFloat?_of_end (.inl rfl)]
  simp

/-- Zeros have no positive value. -/
theorem value_of_zeros (h : ∀ c ∈ chars, c = '0') : value base chars = 0 := by
  unfold value
  induction chars with
  | nil => rfl
  | cons c chars ih =>
      obtain ⟨rfl, hchars⟩ := List.forall_mem_cons.mp h
      rw [List.foldl_cons]
      have hzero : 0 * base + (Integer.digitValue? '0').getD 0 = 0 := by
        rw [Nat.zero_mul]
        rfl
      rw [hzero, ih hchars]

end reading

/-! ## Literals as programs -/

section programs

variable {n : Nat} {c : Char} {rest : List Char} {text : String}
  {known? : String → Option Int}

theorem readToken?_of_decimal (hc : isDecimal c = true) :
    readToken? (c :: rest) = readNumber? (c :: rest) := by
  have hquote : isQuote c = false := by
    simp only [isQuote, Bool.or_eq_false_iff, beq_eq_false_iff_ne]
    constructor <;> (rintro rfl; cases hc)
  unfold readToken?
  split
  iterate 3
    · rename_i heq
      rw [(List.cons.inj heq).1] at hc
      cases hc
  · rename_i heq
    obtain ⟨rfl, rfl⟩ := List.cons.inj heq
    simp only [hquote, startsName_of_isDecimal hc, hc, Bool.true_or, if_true, Bool.false_eq_true,
      if_false]
  · rename_i heq
    cases heq

/-- The first token of a text that starts with a digit is a number. -/
theorem tokens?_of_digit (htext : text.toList = c :: rest) (hc : isDecimal c = true)
    (hreturn : '\r' ∉ text.toList) :
    tokens? (programText text) =
      (readNumber? (text.toList ++ ['\n'])).bind fun read =>
        (depthAfter? 0 read.1).bind fun depth =>
          tokensOnto [read.1, .mark .assign, .name resultName] depth [0]
            (2 * (text.toList ++ ['\n']).length + 4) false read.2 := by
  have hhead : text.toList.head? ≠ some '=' := by
    rw [htext, List.head?_cons, ne_eq, Option.some.injEq]
    rintro rfl
    exact absurd hc (by decide)
  have hgap : c ∉ gapChars := by
    have hnone : gapChars.any isDecimal = false := by decide
    exact fun hmem => List.any_eq_false.mp hnone c hmem hc
  rw [tokens?_line hhead hreturn, htext, List.cons_append, tokensOnto_token hgap,
    readToken?_of_decimal hc]

/-- No program has a number and a word side by side. -/
theorem parse?_number_word {word : String} {tok : Tok} (h : wordToken? word = some tok) (n : Nat) :
    Parser.parse? [.name resultName, .mark .assign, .int n, tok, .newline, .ending] = none := by
  unfold wordToken? at h
  split at h
  · obtain rfl := Option.some.inj h
    rename_i keyword _
    cases keyword <;> rfl
  · obtain ⟨-, hname⟩ := Option.ite_none_left_eq_some.mp h
    obtain rfl := Option.some.inj hname
    rfl

/-- A number that goes on with an underscore has no value. -/
theorem evaluate_of_stopsAtWord (htext : text.toList = c :: rest) (hc : isDecimal c = true)
    (hreturn : '\r' ∉ text.toList) (hstops : StopsAtWord (readNumber? (text.toList ++ ['\n']))) :
    evaluate known? text = ⟨[], none⟩ := by
  have htokens := tokens?_of_digit htext hc hreturn
  cases hread : readNumber? (text.toList ++ ['\n']) with
  | none =>
      rw [hread] at htokens
      exact evaluate_of_program?_eq_none (program?_of_tokens?_eq_none htokens)
  | some read =>
      obtain ⟨n, more, rfl, hmore⟩ := hstops read hread
      have hword : ∀ d ∈ '_' :: more, continuesName d = true :=
        List.forall_mem_cons.mpr ⟨by decide, hmore⟩
      have hdepth : depthAfter? 0 (.int n) = some 0 := rfl
      simp only [hread, Option.bind_some, hdepth] at htokens
      rw [tokensOnto_word_newline (by decide) hword] at htokens
      cases htok : wordToken? (String.ofList ('_' :: more)) with
      | none =>
          rw [htok] at htokens
          exact evaluate_of_program?_eq_none (program?_of_tokens?_eq_none htokens)
      | some tok =>
          rw [htok, Option.map_some] at htokens
          exact evaluate_of_program?_eq_none
            (program?_of_parse?_eq_none htokens (parse?_number_word htok n))

/-- A number that is read up to the end of the line is the value. -/
theorem evaluate_of_readNumber? (htext : text.toList = c :: rest) (hc : isDecimal c = true)
    (hreturn : '\r' ∉ text.toList)
    (hread : readNumber? (text.toList ++ ['\n']) = some (.int n, ['\n'])) :
    evaluate known? text = ⟨[], word? n⟩ := by
  have htokens := tokens?_of_digit htext hc hreturn
  have hdepth : depthAfter? 0 (.int n) = some 0 := rfl
  simp only [hread, Option.bind_some, hdepth] at htokens
  rw [tokensOnto_newline] at htokens
  exact evaluate_of_int htokens

end programs

/-! ## The value of a literal -/

/-- A literal without underscores, in which no decimal digit follows on a leading zero. -/
structure IsPlain (chars : List Char) : Prop where
  no_underscore : '_' ∉ chars
  no_zero : chars.head? = some '0' → chars[1]?.any isDecimal = false

instance (chars : List Char) : Decidable (IsPlain chars) :=
  decidable_of_iff ('_' ∉ chars ∧ (chars.head? = some '0' → chars[1]?.any isDecimal = false))
    ⟨fun h => ⟨h.1, h.2⟩, fun h => ⟨h.1, h.2⟩⟩

section values

variable {n : Nat} {chars : List Char} {text : String} {known? : String → Option Int}

/-- A plain literal is read as its value, and any other stops at a word or is not read. -/
def ReadAs (n : Nat) (chars : List Char) : Prop :=
  (IsPlain chars ∧ readNumber? (chars ++ ['\n']) = some (.int n, ['\n'])) ∨
    (¬ IsPlain chars ∧ StopsAtWord (readNumber? (chars ++ ['\n'])))

theorem readAs_decimal {c : Char} {rest : List Char} (hzero : c ≠ '0') (hc : isDecimal c = true)
    (hdigits : Integer.readDigits? 10 0 (c :: rest) = some n) : ReadAs n (c :: rest) := by
  rw [ReadAs, List.cons_append, readNumber?_decimal hzero hc, ← List.cons_append]
  by_cases hbar : '_' ∈ c :: rest
  · refine .inr ⟨fun hplain => hplain.no_underscore hbar, ?_⟩
    refine readDecimal?_stopsAtWord (fun d hd => ?_) hbar
    rw [← isDigitIn_ten]
    exact isDigitIn_of_readDigits? hdigits d hd
  · obtain ⟨hall, hvalue⟩ := value_of_readDigits? hdigits hbar
    have hdecimals : ∀ d ∈ c :: rest, isDecimal d = true := fun d hd => by
      rw [← isDigitIn_ten]
      exact hall d hd
    refine .inl ⟨⟨hbar, fun hhead => absurd (Option.some.inj hhead) hzero⟩, ?_⟩
    rw [readDecimal?_of_digits hdecimals, if_neg fun hlead => hzero (Option.some.inj hlead.1),
      hvalue]

/-- A number that starts with a zero and is positive is not read. -/
theorem readAs_octal {c : Char} {rest : List Char} (hmark : baseOf? c = none)
    (hdigits : Integer.readDigits? 8 0 (c :: rest) = some n) (hpos : 0 < n) :
    ReadAs n ('0' :: c :: rest) := by
  have hdecimal : ∀ d ∈ '0' :: c :: rest, d = '_' ∨ isDecimal d = true := by
    refine List.forall_mem_cons.mpr ⟨.inr rfl, fun d hd => ?_⟩
    refine (isDigitIn_of_readDigits? hdigits d hd).imp_right fun hd => ?_
    rw [← isDigitIn_ten]
    exact isDigitIn_mono (by decide) hd
  have hread : readNumber? ('0' :: c :: rest ++ ['\n']) =
      readDecimal? ('0' :: c :: rest ++ ['\n']) := by
    rw [List.cons_append, List.cons_append, readNumber?_of_zero, hmark]
  rw [ReadAs, hread]
  by_cases hbar : '_' ∈ '0' :: c :: rest
  · exact .inr ⟨fun hplain => hplain.no_underscore hbar, readDecimal?_stopsAtWord hdecimal hbar⟩
  · have hdecimals : ∀ d ∈ '0' :: c :: rest, isDecimal d = true := fun d hd =>
      (hdecimal d hd).resolve_left fun heq => hbar (heq ▸ hd)
    have hsome : ('0' :: c :: rest).any (· != '0') = true := by
      by_contra hzeros
      rw [Bool.not_eq_true, List.any_eq_false] at hzeros
      have hall : ∀ d ∈ c :: rest, d = '0' := fun d hd => by
        simpa using hzeros d (List.mem_cons_of_mem _ hd)
      have hvalue := (value_of_readDigits? hdigits fun hmem =>
        hbar (List.mem_cons_of_mem _ hmem)).2
      rw [value_of_zeros hall] at hvalue
      exact hpos.ne hvalue
    rw [readDecimal?_of_digits hdecimals, if_pos ⟨rfl, hsome⟩]
    refine .inr ⟨fun hplain => ?_, nofun⟩
    have hnot : isDecimal c = false := hplain.no_zero rfl
    rw [hdecimals c (by simp)] at hnot
    cases hnot

theorem readAs_based {mark c : Char} {rest : List Char} {base : Nat}
    (hmark : baseOf? mark = some base)
    (hdigits : Integer.readDigits? base 0 (c :: rest) = some n)
    (hfits : n < Integer.signedLimit) : ReadAs n ('0' :: mark :: c :: rest) := by
  have hread : readNumber? ('0' :: mark :: c :: rest ++ ['\n']) =
      readBased? base (limitOf? base) (c :: rest ++ ['\n']) := by
    rw [List.cons_append, List.cons_append, readNumber?_of_zero, hmark]
  obtain ⟨hbarless, hletter, -, -⟩ := letter_of_baseOf? hmark
  rw [ReadAs, hread]
  by_cases hbar : '_' ∈ c :: rest
  · refine .inr ⟨fun hplain => hplain.no_underscore ?_, ?_⟩
    · exact List.mem_cons_of_mem _ (List.mem_cons_of_mem _ hbar)
    · exact readBased?_stopsAtWord (isDigitIn_of_readDigits? hdigits) hbar
  · obtain ⟨hall, hvalue⟩ := value_of_readDigits? hdigits hbar
    refine .inl ⟨⟨?_, ?_⟩, ?_⟩
    · rintro (_ | ⟨_, _ | ⟨_, hmem⟩⟩)
      · exact hbarless rfl
      · exact hbar hmem
    · exact fun _ => hletter
    · rw [readBased?_of_digits hall (List.cons_ne_nil c rest), hvalue]
      intro limit hlimit
      obtain ⟨-, hlimit⟩ := Option.ite_none_left_eq_some.mp hlimit
      rwa [← Option.some.inj hlimit, hvalue]

/-- How a literal with a positive value is read as an expression. -/
theorem Spelled.readAs (h : Spelled n chars) (hpos : 0 < n) (hfits : n < Integer.signedLimit) :
    ReadAs n chars := by
  cases h with
  | decimal hzero hc hdigits => exact readAs_decimal hzero hc hdigits
  | octal hmark hdigits => exact readAs_octal hmark hdigits hpos
  | based hmark hdigits => exact readAs_based hmark hdigits hfits

/-- A literal is a word but for the digit with which it starts. -/
theorem Spelled.starts (h : Spelled n chars) :
    ∃ c rest, chars = c :: rest ∧ isDecimal c = true ∧ ∀ d ∈ rest, continuesName d = true := by
  have hall : ∀ {base : Nat} {digits : List Char}, Integer.readDigits? base 0 digits = some n →
      ∀ d ∈ digits, continuesName d = true := by
    intro base digits hdigits d hd
    rcases isDigitIn_of_readDigits? hdigits d hd with rfl | hdigit
    · decide
    · exact continuesName_of_isDigitIn hdigit
  cases h with
  | @decimal c rest hzero hc hdigits =>
      exact ⟨c, rest, rfl, hc, fun d hd => hall hdigits d (List.mem_cons_of_mem _ hd)⟩
  | @octal c rest hmark hdigits => exact ⟨'0', c :: rest, rfl, rfl, hall hdigits⟩
  | @based mark c rest base hmark hdigits =>
      exact ⟨'0', mark :: c :: rest, rfl, rfl,
        List.forall_mem_cons.mpr ⟨(letter_of_baseOf? hmark).2.2.2, hall hdigits⟩⟩

/-- **A plain literal has its value as an expression**, and no other literal with a positive value
has one. -/
theorem evaluate_number (h : Integer.magnitude? text.toList = some n) (hpos : 0 < n)
    (hfits : n < Integer.signedLimit) :
    evaluate known? text = ⟨[], if IsPlain text.toList then some n else none⟩ := by
  have hspelled := spelled_of_magnitude? h hpos
  obtain ⟨c, rest, htext, hc, hrest⟩ := hspelled.starts
  have hreturn : '\r' ∉ text.toList := by
    rw [htext]
    rintro (_ | ⟨_, hmem⟩)
    · cases hc
    · exact absurd (hrest '\r' hmem) (by decide)
  rcases hspelled.readAs hpos hfits with ⟨hplain, hread⟩ | ⟨hnot, hstops⟩
  · rw [evaluate_of_readNumber? htext hc hreturn hread, if_pos hplain, word?, if_pos]
    simp only [Integer.fitsSigned, Bool.and_eq_true, decide_eq_true_eq]
    omega
  · rw [evaluate_of_stopsAtWord htext hc hreturn hstops, if_neg hnot]

end values

end Shorthand.Expression
