import Mathlib.Algebra.BigOperators.Group.List.Basic
import Mathlib.Data.List.Induction
import Shorthand.Proofs.Expression.Numbers
import Shorthand.Proofs.Lowering.Updates
import Shorthand.Proofs.Syntax.ConstantLines
import Shorthand.Proofs.Syntax.Delimiters

/-!
# The sizes of strings

The directive of a string has its literal as it is written, and leaves the escapes to the assembler.
The size that is recorded with it is counted from the bytes of the literal, for which all of its
escapes have to be known.

Between its quotes a literal consists of elements: escapes, which are a backslash, the character
after it and the digits that belong to it, and other characters, each by itself (`elements`).  If
all of them are known, each of them counts with its own bytes, of which it has at least one.  If one
of them is not, as in `"a\qb"`, the literal has no bytes, and only the zero at the end is counted.

## Strategy

`contents?` looks for escapes by patterns that have all of their digits in them.  For each kind of
escape, that comes to the same as cutting off the digits that belong to it (`escapeDigits`) and
looking whether they are enough.  So the bytes are read off the elements one by one
(`contents?_escape`, `contents?_plain`), and the size follows by induction along the elements
(`contents?_eq`).  That a literal is closed by its last quote is known from where its token ends
(`Delimited.ends_of_mem_lex`).
-/

namespace Shorthand

open Expression (isDigitIn_ten isDigitIn_mono)
open Expression.Literal (isDecimal isDigitIn value)
open Lowering Text

/-! ## Elements of a literal -/

namespace Text.Quoted

/-- What a literal consists of between its quotes. -/
inductive Element where
  /-- A character that stands for itself. -/
  | plain (c : Char)
  /-- A backslash, the character after it, and the digits that belong to them. -/
  | escape (letter : Char) (digits : List Char)
deriving DecidableEq

/-- The base of the digits after the start of an escape, and how many there are at most.  An octal
escape starts with the first of its three digits. -/
def digitFormat (letter : Char) : Nat × Nat :=
  if letter = 'x' then (16, 2)
  else if letter = 'u' then (16, 4)
  else if letter = 'U' then (16, 8)
  else if isDigitIn 8 letter then (8, 2)
  else (10, 0)

/-- The digits that belong to an escape, among the characters after its start. -/
def escapeDigits (letter : Char) (rest : List Char) : List Char :=
  (rest.take (digitFormat letter).2).takeWhile (isDigitIn (digitFormat letter).1)

/-- The elements of the characters between the quotes. -/
def elements : List Char → List Element
  | [] => []
  | '\\' :: letter :: rest =>
      .escape letter (escapeDigits letter rest) ::
        elements (rest.drop (escapeDigits letter rest).length)
  | c :: rest => .plain c :: elements rest
termination_by chars => chars.length
decreasing_by
  · simp only [List.length_drop, List.length_cons]
    omega
  · simp

namespace Element

/-- The bytes of an element, if it is known.  An escape has all of its digits, and they are the
number of a byte or of a character.  Without digits its letter stands for a control character, the
backslash or the quote. -/
def bytes? : Element → Option (List UInt8)
  | plain c => if c ∈ ['\\', '"', '\n'] then none else some (String.utf8EncodeChar c)
  | escape letter digits =>
      if digits.length ≠ (digitFormat letter).2 then none
      else if letter = 'x' then some [(value 16 digits).toUInt8]
      else if letter = 'u' ∨ letter = 'U' then
        (character? (value 16 digits)).map String.utf8EncodeChar
      else if isDigitIn 8 letter then
        if value 8 (letter :: digits) < 256 then some [(value 8 (letter :: digits)).toUInt8]
        else none
      else (controlByte? letter).map fun byte => [byte]

/-- Whether the bytes of an element are known. -/
def isKnown (e : Element) : Bool := e.bytes?.isSome

/-- The bytes of an element, and none if it is not known. -/
def bytes (e : Element) : List UInt8 := e.bytes?.getD []

/-- The bytes of elements, if all of them are known. -/
def allBytes? : List Element → Option (List UInt8)
  | [] => some []
  | e :: es => e.bytes?.bind fun bytes => (allBytes? es).map (bytes ++ ·)

theorem allBytes?_eq (es : List Element) :
    allBytes? es = if es.all isKnown then some (es.flatMap bytes) else none := by
  induction es with
  | nil => rfl
  | cons e es ih =>
      rw [allBytes?, ih, List.all_cons, List.flatMap_cons]
      cases hbytes : e.bytes? with
      | none => simp [isKnown, hbytes]
      | some known =>
          have hknown : e.isKnown = true := by rw [isKnown, hbytes, Option.isSome_some]
          have heq : e.bytes = known := by rw [bytes, hbytes, Option.getD_some]
          rw [hknown, Bool.true_and, heq, Option.bind_some]
          split <;> rfl

/-- An element that is known has bytes. -/
theorem one_le_length_bytes {e : Element} (h : e.isKnown = true) : 1 ≤ e.bytes.length := by
  have hchar : ∀ c, 1 ≤ (String.utf8EncodeChar c).length := by
    intro c
    rw [String.length_utf8EncodeChar]
    exact c.utf8Size_pos
  obtain ⟨bytes, hbytes⟩ := Option.isSome_iff_exists.mp h
  rw [Element.bytes, hbytes, Option.getD_some]
  cases e with
  | plain c =>
      obtain ⟨-, hbytes⟩ := Option.ite_none_left_eq_some.mp hbytes
      rw [← Option.some.inj hbytes]
      exact hchar c
  | escape letter digits =>
      simp only [bytes?] at hbytes
      split_ifs at hbytes with hcount hbyte hpoint hoctal hlt
      · cases hbytes
        exact Nat.le_refl 1
      · obtain ⟨c, -, rfl⟩ := Option.map_eq_some_iff.mp hbytes
        exact hchar c
      · cases hbytes
        exact Nat.le_refl 1
      · obtain ⟨byte, -, rfl⟩ := Option.map_eq_some_iff.mp hbytes
        exact Nat.le_refl 1

end Element

/-! ## Numbers by their digits -/

theorem hex?_concat (digits : List Char) (c : Char) :
    hex? (digits ++ [c]) = (hex? digits).bind fun n =>
      (Integer.digitValue? c).bind fun digit =>
        if digit < 16 then some (n * 16 + digit) else none := by
  rw [hex?, List.foldl_append]
  rfl

theorem hex?_eq (digits : List Char) :
    hex? digits = if digits.all (isDigitIn 16) then some (value 16 digits) else none := by
  induction digits using List.reverseRecOn with
  | nil => rfl
  | append_singleton digits c ih =>
      have hvalue : value 16 (digits ++ [c]) =
          value 16 digits * 16 + (Integer.digitValue? c).getD 0 := List.foldl_append
      rw [hex?_concat, ih, List.all_append, List.all_cons, List.all_nil, Bool.and_true, hvalue]
      cases digits.all (isDigitIn 16) with
      | false => simp
      | true =>
          cases hdigit : Integer.digitValue? c with
          | none => simp [isDigitIn, hdigit]
          | some digit => simp [isDigitIn, hdigit]

/-- The octal digits are those from zero to seven. -/
theorem octalDigit?_eq (c : Char) :
    (if '0' ≤ c && c ≤ '7' then some (c.toNat - '0'.toNat) else none) =
      if isDigitIn 8 c then some ((Integer.digitValue? c).getD 0) else none := by
  have hzero : '0'.toNat = 48 := rfl
  have hseven : c ≤ '7' ↔ c.toNat ≤ 55 := Iff.rfl
  have hnine : c ≤ '9' ↔ c.toNat ≤ 57 := Iff.rfl
  by_cases hdecimal : isDecimal c = true
  · have hvalue : Integer.digitValue? c = some (c.toNat - '0'.toNat) := if_pos hdecimal
    have hlow : '0' ≤ c := by
      rw [isDecimal, Bool.and_eq_true, decide_eq_true_eq] at hdecimal
      exact hdecimal.1
    have hle : 48 ≤ c.toNat := hlow
    have hoctal : c.toNat ≤ 55 ↔ c.toNat - 48 < 8 := by omega
    simp [isDigitIn, hvalue, hzero, hlow, hseven, hoctal]
  · have hdigit : isDigitIn 8 c = false := by
      rw [Bool.eq_false_iff]
      exact fun h => hdecimal (isDigitIn_ten c ▸ isDigitIn_mono (by decide) h)
    have hnot : ¬ ('0' ≤ c && c ≤ '7') = true := by
      intro hoctal
      refine hdecimal ?_
      simp only [isDecimal, Bool.and_eq_true, decide_eq_true_eq, hseven, hnine] at hoctal ⊢
      exact ⟨hoctal.1, by omega⟩
    rw [if_neg hnot, hdigit]
    rfl

theorem octalByte?_eq (a b c : Char) :
    octalByte? a b c =
      if [a, b, c].all (isDigitIn 8) then
        if value 8 [a, b, c] < 256 then some (value 8 [a, b, c]).toUInt8 else none
      else none := by
  simp only [octalByte?, octalDigit?_eq]
  cases ha : isDigitIn 8 a with
  | false => simp [ha]
  | true =>
      cases hb : isDigitIn 8 b with
      | false => simp [ha, hb]
      | true =>
          cases hc : isDigitIn 8 c with
          | false => simp [ha, hb, hc]
          | true => simp [ha, hb, hc, value]

/-! ## Escapes by their digits -/

section escapes

variable {letter : Char} {base count : Nat} {rest : List Char}

/-- An escape has all of its digits if as many characters as it needs are digits. -/
theorem length_escapeDigits_iff (hformat : digitFormat letter = (base, count)) :
    (escapeDigits letter rest).length = count ↔
      count ≤ rest.length ∧ (rest.take count).all (isDigitIn base) = true := by
  rw [escapeDigits, hformat, List.all_eq_true]
  constructor
  · intro h
    -- no digit was dropped, and none was missing
    have hprefix := List.takeWhile_prefix (isDigitIn base) (l := rest.take count)
    have hle := hprefix.length_le
    rw [h, List.length_take] at hle
    have heq := hprefix.eq_of_length_le (by rw [h, List.length_take]; omega)
    exact ⟨by omega, List.takeWhile_eq_self_iff.mp heq⟩
  · rintro ⟨hle, hall⟩
    rw [List.takeWhile_eq_self_iff.mpr hall, List.length_take, Nat.min_eq_left hle]

/-- All the digits that an escape needs are the characters after its start. -/
theorem escapeDigits_eq_take (hformat : digitFormat letter = (base, count))
    (h : (escapeDigits letter rest).length = count) :
    escapeDigits letter rest = rest.take count := by
  have hdigits := ((length_escapeDigits_iff hformat).mp h).2
  rw [escapeDigits, hformat, List.takeWhile_eq_self_iff.mpr (List.all_eq_true.mp hdigits)]

theorem hex?_take (hformat : digitFormat letter = (16, count)) :
    (if rest.length < count then none else hex? (rest.take count)) =
      if (escapeDigits letter rest).length = count then some (value 16 (escapeDigits letter rest))
      else none := by
  by_cases hall : (escapeDigits letter rest).length = count
  · obtain ⟨hle, hdigits⟩ := (length_escapeDigits_iff hformat).mp hall
    rw [if_pos hall, if_neg (by omega), hex?_eq, if_pos hdigits,
      escapeDigits_eq_take hformat hall]
  · rw [if_neg hall]
    rw [length_escapeDigits_iff hformat, not_and] at hall
    split
    · rfl
    · rw [hex?_eq, if_neg (hall (by omega))]

/-! ### The patterns of escapes -/

theorem contents?_byte (rest : List Char) :
    contents? ('\\' :: 'x' :: rest) =
      (if rest.length < 2 then none else hex? (rest.take 2)).bind fun n =>
        (contents? (rest.drop 2)).map ([n.toUInt8] ++ ·) := by
  rcases rest with _ | ⟨a, _ | ⟨b, rest⟩⟩
  case cons.cons =>
    have hlong : ¬ (a :: b :: rest).length < 2 := by simp
    rw [if_neg hlong, contents?.eq_def]
    split
    case h_2 heq =>
      cases heq
      cases hvalue : hex? [a, b] <;> simp [hvalue]
    -- the characters fit no other pattern
    all_goals grind
  -- with fewer characters the letter would have to stand for a byte by itself
  all_goals rfl

theorem contents?_point (hletter : letter = 'u' ∨ letter = 'U')
    (hformat : digitFormat letter = (16, count)) (rest : List Char) :
    contents? ('\\' :: letter :: rest) =
      ((if rest.length < count then none else hex? (rest.take count)).bind character?).bind fun c =>
        (contents? (rest.drop count)).map (String.utf8EncodeChar c ++ ·) := by
  rcases hletter with rfl | rfl
  · obtain rfl : 4 = count := (Prod.mk.inj hformat).2
    rcases rest with _ | ⟨a, _ | ⟨b, _ | ⟨c, _ | ⟨d, rest⟩⟩⟩⟩
    case cons.cons.cons.cons =>
      have hlong : ¬ (a :: b :: c :: d :: rest).length < 4 := by simp
      rw [if_neg hlong, contents?.eq_def]
      split
      case h_3 heq =>
        cases heq
        cases hchar : (hex? [a, b, c, d]).bind character? <;> simp [hchar]
      all_goals grind
    all_goals rfl
  · obtain rfl : 8 = count := (Prod.mk.inj hformat).2
    rcases rest with _ | ⟨a, _ | ⟨b, _ | ⟨c, _ | ⟨d, _ | ⟨e, _ | ⟨f, _ | ⟨g, _ | ⟨h, rest⟩⟩⟩⟩⟩⟩⟩⟩
    case cons.cons.cons.cons.cons.cons.cons.cons =>
      have hlong : ¬ (a :: b :: c :: d :: e :: f :: g :: h :: rest).length < 8 := by simp
      rw [if_neg hlong, contents?.eq_def]
      split
      case h_4 heq =>
        cases heq
        cases hchar : (hex? [a, b, c, d, e, f, g, h]).bind character? <;> simp [hchar]
      all_goals grind
    all_goals rfl

/-- Letters without a pattern of their own stand for a byte by themselves or with two more octal
digits. -/
theorem contents?_letter (hbyte : letter ≠ 'x') (hshort : letter ≠ 'u') (hlong : letter ≠ 'U')
    (rest : List Char) :
    contents? ('\\' :: letter :: rest) =
      match controlByte? letter with
      | some byte => (contents? rest).map (byte :: ·)
      | none =>
          match rest with
          | b :: c :: after =>
              match octalByte? letter b c with
              | some byte => (contents? after).map (byte :: ·)
              | none => none
          | _ => none := by
  rw [contents?.eq_def]
  split
  case h_6 heq =>
    cases heq
    rfl
  all_goals grind

theorem contents?_octal (hoctal : isDigitIn 8 letter = true) (rest : List Char) :
    contents? ('\\' :: letter :: rest) =
      if (2 ≤ rest.length ∧ (rest.take 2).all (isDigitIn 8) = true) ∧
          value 8 (letter :: rest.take 2) < 256 then
        (contents? (rest.drop 2)).map ([(value 8 (letter :: rest.take 2)).toUInt8] ++ ·)
      else none := by
  have hne : letter ≠ 'x' ∧ letter ≠ 'u' ∧ letter ≠ 'U' := by
    refine ⟨?_, ?_, ?_⟩ <;> (rintro rfl; exact absurd hoctal (by decide))
  have hcontrol : controlByte? letter = none := by
    rw [controlByte?] <;> (rintro rfl; exact absurd hoctal (by decide))
  rw [contents?_letter hne.1 hne.2.1 hne.2.2, hcontrol]
  rcases rest with _ | ⟨b, _ | ⟨c, rest⟩⟩
  case cons.cons =>
    have hlong : 2 ≤ (b :: c :: rest).length := by simp
    simp only [octalByte?_eq, List.all_cons, hoctal, Bool.true_and, List.take_succ_cons,
      List.take_zero, List.drop_succ_cons, List.drop_zero, hlong, true_and]
    cases hall : isDigitIn 8 b && (isDigitIn 8 c && [].all (isDigitIn 8)) with
    | false => simp
    | true => by_cases hlt : value 8 [letter, b, c] < 256 <;> simp [hlt]
  all_goals rfl

theorem contents?_control (hbyte : letter ≠ 'x') (hshort : letter ≠ 'u') (hlong : letter ≠ 'U')
    (hoctal : isDigitIn 8 letter = false) (rest : List Char) :
    contents? ('\\' :: letter :: rest) =
      (controlByte? letter).bind fun byte => (contents? rest).map ([byte] ++ ·) := by
  rw [contents?_letter hbyte hshort hlong]
  rcases rest with _ | ⟨b, _ | ⟨c, rest⟩⟩
  case cons.cons =>
    simp only [octalByte?_eq, List.all_cons, hoctal, Bool.false_and, Bool.false_eq_true, if_false]
    cases controlByte? letter <;> rfl
  all_goals cases controlByte? letter <;> rfl

end escapes

/-- The bytes of an escape come first, if it is known. -/
theorem contents?_escape (letter : Char) (rest : List Char) :
    contents? ('\\' :: letter :: rest) =
      (Element.escape letter (escapeDigits letter rest)).bytes?.bind fun bytes =>
        (contents? (rest.drop (escapeDigits letter rest).length)).map (bytes ++ ·) := by
  -- where digits are missing, neither side gives any bytes
  by_cases hbyte : letter = 'x'
  · subst hbyte
    have hformat : digitFormat 'x' = (16, 2) := rfl
    rw [contents?_byte, hex?_take hformat]
    by_cases hall : (escapeDigits 'x' rest).length = 2
    · simp [Element.bytes?, hformat, hall]
    · simp [Element.bytes?, hformat, hall]
  by_cases hpoint : letter = 'u' ∨ letter = 'U'
  · obtain ⟨count, hformat⟩ : ∃ count, digitFormat letter = (16, count) := by
      rcases hpoint with rfl | rfl
      · exact ⟨4, rfl⟩
      · exact ⟨8, rfl⟩
    rw [contents?_point hpoint hformat, hex?_take hformat]
    by_cases hall : (escapeDigits letter rest).length = count
    · simp only [Element.bytes?, hformat, hall, hbyte, hpoint, ne_eq, not_true_eq_false, if_false,
        if_true, Option.bind_map]
      rfl
    · simp [Element.bytes?, hformat, hall]
  obtain ⟨hshort, hlong⟩ := not_or.mp hpoint
  by_cases hoctal : isDigitIn 8 letter = true
  · have hformat : digitFormat letter = (8, 2) := by
      simp [digitFormat, hbyte, hshort, hlong, hoctal]
    simp only [contents?_octal hoctal, ← length_escapeDigits_iff hformat]
    by_cases hall : (escapeDigits letter rest).length = 2
    · rw [← escapeDigits_eq_take hformat hall]
      by_cases hlt : value 8 (letter :: escapeDigits letter rest) < 256
      · simp [Element.bytes?, hformat, hall, hbyte, hpoint, hoctal, hlt]
      · simp [Element.bytes?, hformat, hall, hbyte, hpoint, hoctal, hlt]
    · simp [Element.bytes?, hformat, hall]
  · have hformat : digitFormat letter = (10, 0) := by
      simp [digitFormat, hbyte, hshort, hlong, hoctal]
    have hnone : escapeDigits letter rest = [] := by
      rw [escapeDigits, hformat]
      rfl
    rw [contents?_control hbyte hshort hlong (Bool.eq_false_iff.mpr hoctal), hnone]
    simp only [Element.bytes?, hformat, hbyte, hpoint, hoctal, List.length_nil, ne_eq,
      not_true_eq_false, if_false, Bool.false_eq_true, Option.bind_map]
    rfl

/-- A character that starts no escape comes with its own bytes. -/
theorem contents?_plain {c : Char} {rest : List Char} (hpair : c = '\\' → rest = []) :
    contents? (c :: rest) =
      (Element.plain c).bytes?.bind fun bytes => (contents? rest).map (bytes ++ ·) := by
  by_cases hc : c = '\\'
  · subst hc
    rw [hpair rfl]
    rfl
  · rw [contents?.eq_def]
    split
    case h_7 heq =>
      cases heq
      by_cases hquote : c = '"' ∨ c = '\n'
      · simp [Element.bytes?, hc, hquote]
      · simp [Element.bytes?, hc, hquote]
    all_goals grind

/-- The bytes of a literal are those of its elements. -/
theorem contents?_eq (chars : List Char) :
    contents? chars = Element.allBytes? (elements chars) := by
  fun_induction elements chars with
  | case1 => rfl
  | case2 letter rest ih => rw [contents?_escape, ih, Element.allBytes?]
  | case3 c rest hpair ih =>
      rw [contents?_plain, ih, Element.allBytes?]
      intro hc
      cases rest with
      | nil => rfl
      | cons letter rest => exact absurd rfl (hpair letter rest hc)

/-- The size that is counted for elements: a zero at the end, and before it the bytes, if all of
them are known. -/
def countedSize (es : List Element) : Nat :=
  if es.all Element.isKnown then (es.flatMap Element.bytes).length + 1 else 1

/-- Elements are counted in full exactly if all of them are known. -/
theorem length_lt_countedSize_iff (es : List Element) :
    es.length + 1 ≤ countedSize es ↔ ∀ e ∈ es, e.isKnown = true := by
  rw [countedSize, ← List.all_eq_true]
  cases hall : es.all Element.isKnown with
  | true =>
      have hle : es.length ≤ (es.flatMap Element.bytes).length := by
        rw [List.length_flatMap, ← List.length_map fun e : Element => e.bytes.length]
        refine List.length_le_sum_of_one_le _ (List.forall_mem_map.mpr fun e he => ?_)
        exact Element.one_le_length_bytes (List.all_eq_true.mp hall e he)
      simpa using hle
  | false =>
      have hne : es ≠ [] := by
        rintro rfl
        cases hall
      simpa using hne

end Text.Quoted

/-! ## Strings on a line -/

open Quoted

/-- The size of a string is counted from its elements. -/
theorem Lowering.stringSize_eq {literal : String} {inside : List Char}
    (h : literal.toList = '"' :: (inside ++ ['"'])) :
    stringSize literal = countedSize (elements inside) := by
  have hbytes : bytes? literal = Element.allBytes? (elements inside) := by
    rw [bytes?, h]
    simp [contents?_eq]
  rw [stringSize, hbytes, Element.allBytes?_eq, countedSize]
  cases (elements inside).all Element.isKnown with
  | true => simp
  | false => rfl

/-- The literal of a token stands between two quotes. -/
theorem exists_inside_of_mem_lex {line : String} {tok : Token} (htok : tok ∈ (lex line).tokens)
    (hkind : tok.kind = .string) : ∃ inside, tok.text.toList = '"' :: (inside ++ ['"']) := by
  obtain ⟨chars, n, -, hends, htext⟩ := Delimited.ends_of_mem_lex (d := .string) htok hkind
  have hquote : chars[n]? = some '"' := hends.isQuote
  refine ⟨chars.take n, ?_⟩
  rw [htext, List.take_add_one, hquote]
  rfl

/-- The state with one more text. -/
def Lowering.State.withText (state : State) (name literal : String) (size : Nat) : State :=
  state.reserve ⟨name, .byte, ".asciz", [literal]⟩ ⟨size, .byte, [literal]⟩

/-- The line of a string. -/
theorem print_string (name literal : String) :
    (Statement.declare (.string name literal)).print = "string " ++ name ++ " = " ++ literal := by
  rw [← String.toList_inj, Statement.print]
  simp [Statement.tokens, Statement.front, Statement.colon, Declaration.tokens, joinTokens,
    Token.print]

/-- **When a string is counted in full.**  Every string literal of a line can be declared under a
new name, and the directive has the literal as it is.  If all of its elements are known, the size is
that of their bytes and a zero, and so at least one more than there are elements.  Otherwise it is
one, which is too small. -/
theorem string_counted_iff [Interpreter] {line name : String} {tok : Token}
    (htok : tok ∈ (lex line).tokens) (hkind : tok.kind = .string) (hname : IsName name) :
    ∃ inside size, tok.text.toList = '"' :: (inside ++ ['"']) ∧
      parseLine Handler.all ("string " ++ name ++ " = " ++ tok.text) =
        .ok [.declare (.string name tok.text)] ∧
      (∀ state : State, state.symbols.storage? name = none →
        declare state (.string name tok.text) = .ok (state.withText name tok.text size) ∧
          (state.withText name tok.text size).symbols.storage? name =
            some ⟨size, .byte, [tok.text]⟩) ∧
      size = countedSize (elements inside) ∧
      ((elements inside).length + 1 ≤ size ↔ ∀ e ∈ elements inside, e.isKnown = true) := by
  obtain ⟨inside, htext⟩ := exists_inside_of_mem_lex htok hkind
  refine ⟨inside, countedSize (elements inside), htext, ?_, ?_, rfl, length_lt_countedSize_iff _⟩
  · have halone : tok.IsLexeme := isLexeme_of_mem_lex htok
    have hlexeme : (Token.mk .string tok.text 0).IsLexeme := by
      rw [← hkind]
      exact halone
    rw [← print_string]
    exact parseLine_declaration ⟨hname, hlexeme⟩
  · intro state hnew
    rw [declare, stringStorage, stringSize_eq htext]
    exact enter_new hnew

/-- An octal escape with a single digit is not known, so that nothing of the text is counted. -/
theorem zeroEscape_not_counted :
    declare State.start (.string "s" "\"a\\0b\"") =
        .ok (State.start.withText "s" "\"a\\0b\"" 1) ∧
      (elements ['a', '\\', '0', 'b']).length = 3 := by
  have htok : (⟨.string, "\"a\\0b\"", 1⟩ : Token) ∈ (lex "\"a\\0b\"").tokens := by
    decide +kernel
  have hname : IsName "s" := ⟨by decide +kernel, by decide +kernel⟩
  have helements : elements ['a', '\\', '0', 'b'] = [.plain 'a', .escape '0' [], .plain 'b'] := by
    decide +kernel
  have hsize : countedSize [.plain 'a', .escape '0' [], .plain 'b'] = 1 := by decide
  obtain ⟨inside, size, htext, -, hdeclare, rfl, -⟩ := string_counted_iff htok rfl hname
  obtain rfl : ['a', '\\', '0', 'b'] = inside :=
    List.append_cancel_right (List.cons.inj htext).2
  rw [helements, hsize] at hdeclare
  exact ⟨(hdeclare State.start rfl).1, congrArg List.length helements⟩

end Shorthand
