import Mathlib.Tactic.Common
import Shorthand.Source

/-!
# Reading text that was written as UTF-8

Reading bytes never fails, and bytes that no text is written with are replaced.  Here the other
direction is shown: the bytes of a text are read as the text (`decode_toUTF8`).  Every character is
written with one to four bytes, and from these bytes `next` takes the character and nothing else
(`next_utf8EncodeChar`).
-/

namespace Shorthand.Text.Utf8

/-! ## One sequence -/

section next

variable {a b c d : UInt8} {v : Nat} (tail : List UInt8)

theorem next_single (ha : a.toNat = v) (hv : v ≤ 0x7f) : next a tail = (Char.ofNat v, tail) := by
  have hsmall : a < 0x80 := by
    rw [UInt8.lt_iff_toNat_lt, ha]
    exact Nat.lt_succ_of_le hv
  rw [next.eq_def, if_pos hsmall, ha]

theorem next_pair (ha : a.toNat = v / 64 % 32 + 192) (hb : b.toNat = v % 64 + 128)
    (hv : 0x7f < v ∧ v ≤ 0x7ff) : next a (b :: tail) = (Char.ofNat v, tail) := by
  have hlarge : ¬a < 0x80 := by
    rw [UInt8.lt_iff_toNat_lt, ha, show (0x80 : UInt8).toNat = 128 from rfl]
    omega
  have hpair : isPair a b = true := by
    simp [isPair, continues, UInt8.le_iff_toNat_le, ha, hb]
    omega
  have hchar : pairChar a b = Char.ofNat v := by
    rw [pairChar, payload, ha, hb]
    congr 1
    omega
  rcases tail with _ | ⟨c, _ | ⟨d, tail⟩⟩ <;> simp [next, hlarge, hpair, hchar]

theorem next_triple (ha : a.toNat = v / 4096 % 16 + 224) (hb : b.toNat = v / 64 % 64 + 128)
    (hc : c.toNat = v % 64 + 128) (hv : 0x7ff < v ∧ v ≤ 0xffff)
    (hvalid : v < 0xd800 ∨ 0xdfff < v) : next a (b :: c :: tail) = (Char.ofNat v, tail) := by
  have hlarge : ¬a < 0x80 := by
    rw [UInt8.lt_iff_toNat_lt, ha, show (0x80 : UInt8).toNat = 128 from rfl]
    omega
  have hpair : isPair a b = false := by
    simp [isPair, continues, UInt8.le_iff_toNat_le, ha, hb]
  have htriple : isTriple a b c = true := by
    simp [isTriple, continues, UInt8.le_iff_toNat_le, bne_iff_ne, ← UInt8.toNat_inj, ha, hb, hc]
    omega
  have hchar : tripleChar a b c = Char.ofNat v := by
    rw [tripleChar, payload, payload, ha, hb, hc]
    congr 1
    omega
  rcases tail with _ | ⟨d, tail⟩ <;> simp [next, hlarge, hpair, htriple, hchar]

theorem next_quadruple (ha : a.toNat = v / 262144 % 8 + 240) (hb : b.toNat = v / 4096 % 64 + 128)
    (hc : c.toNat = v / 64 % 64 + 128) (hd : d.toNat = v % 64 + 128)
    (hv : 0xffff < v ∧ v < 0x110000) :
    next a (b :: c :: d :: tail) = (Char.ofNat v, tail) := by
  have hlarge : ¬a < 0x80 := by
    rw [UInt8.lt_iff_toNat_lt, ha, show (0x80 : UInt8).toNat = 128 from rfl]
    omega
  have hpair : isPair a b = false := by
    simp [isPair, continues, UInt8.le_iff_toNat_le, ha, hb]
  have htriple : isTriple a b c = false := by
    simp [isTriple, continues, UInt8.le_iff_toNat_le, ha, hb, hc]
  have hquadruple : isQuadruple a b c d = true := by
    simp [isQuadruple, continues, UInt8.le_iff_toNat_le, bne_iff_ne, ← UInt8.toNat_inj, ha, hb, hc,
      hd]
    omega
  have hchar : quadrupleChar a b c d = Char.ofNat v := by
    rw [quadrupleChar, payload, payload, payload, ha, hb, hc, hd]
    congr 1
    omega
  simp [next, hlarge, hpair, htriple, hquadruple, hchar]

end next

/-! ## One character -/

/-- A byte that is a mark with some bits of a number. -/
theorem toNat_ofNat_mod_add {n m k : Nat} (hm : 0 < m) (h : m + k ≤ 256) :
    (UInt8.ofNat (n % m + k)).toNat = n % m + k := by
  have hlt := Nat.mod_lt n hm
  rw [UInt8.toNat_ofNat', Nat.mod_eq_of_lt (by omega)]

/-- The bytes of a character are read as the character, whatever follows them. -/
theorem next_utf8EncodeChar (c : Char) (tail : List UInt8) :
    ∃ a rest, String.utf8EncodeChar c = a :: rest ∧ next a (rest ++ tail) = (c, tail) := by
  have hbyte : ∀ {n m k : Nat}, 0 < m → m + k ≤ 256 →
      (UInt8.ofNat (n % m + k)).toNat = n % m + k := toNat_ofNat_mod_add
  have hvalid : c.val.toNat < 0xd800 ∨ 0xdfff < c.val.toNat ∧ c.val.toNat < 0x110000 := c.valid
  have hchar : Char.ofNat c.val.toNat = c := Char.ofNat_toNat c
  unfold String.utf8EncodeChar
  generalize c.val.toNat = v at hvalid hchar
  subst hchar
  dsimp only
  split
  · refine ⟨_, _, rfl, next_single tail ?_ ‹_›⟩
    rw [UInt8.toNat_ofNat', Nat.mod_eq_of_lt (by omega)]
  split
  · exact ⟨_, _, rfl, next_pair tail (hbyte (by decide) (by decide)) (hbyte (by decide) (by decide))
      ⟨by omega, ‹_›⟩⟩
  split
  · exact ⟨_, _, rfl, next_triple tail (hbyte (by decide) (by decide))
      (hbyte (by decide) (by decide)) (hbyte (by decide) (by decide)) ⟨by omega, ‹_›⟩ (by omega)⟩
  · exact ⟨_, _, rfl, next_quadruple tail (hbyte (by decide) (by decide))
      (hbyte (by decide) (by decide)) (hbyte (by decide) (by decide))
      (hbyte (by decide) (by decide)) ⟨by omega, by omega⟩⟩

/-! ## Texts -/

theorem decodeOnto_flatMap (read chars : List Char) :
    decodeOnto read (chars.flatMap String.utf8EncodeChar) = read.reverse ++ chars := by
  induction chars generalizing read with
  | nil => simp [decodeOnto]
  | cons c chars ih =>
      obtain ⟨a, rest, hbytes, hnext⟩ :=
        next_utf8EncodeChar c (chars.flatMap String.utf8EncodeChar)
      rw [List.flatMap_cons, hbytes, List.cons_append, decodeOnto, hnext, ih]
      simp

/-- The bytes of an array are taken one by one, from its start. -/
theorem toList_loop (bytes : ByteArray) (taken : Nat) (read : List UInt8) :
    ByteArray.toList.loop bytes taken read = read.reverse ++ bytes.data.toList.drop taken := by
  fun_induction ByteArray.toList.loop bytes taken read with
  | case1 taken read h ih =>
      have hlength : taken < bytes.data.toList.length := by simpa using h
      rw [ih, List.drop_eq_getElem_cons hlength]
      simp [ByteArray.get!, h]
  | case2 taken read h =>
      have hlength : bytes.data.toList.length ≤ taken := by simpa using h
      rw [List.drop_eq_nil_of_le hlength, List.append_nil]

theorem toList_toUTF8 (text : String) :
    text.toUTF8.toList = text.toList.flatMap String.utf8EncodeChar := by
  have htoList : text.toUTF8.toList = text.toUTF8.data.toList := toList_loop _ 0 []
  rw [htoList, String.toUTF8_eq_toByteArray, ← String.utf8Encode_toList, List.utf8Encode,
    List.toList_data_toByteArray]

/-- The bytes of a text are read as the text. -/
theorem decode_toUTF8 (text : String) : decode text.toUTF8.toList = text := by
  rw [decode, toList_toUTF8, decodeOnto_flatMap, List.reverse_nil, List.nil_append,
    String.ofList_toList]

/-! ## The ends of lines -/

/-- Only a carriage return is written with the byte of a carriage return. -/
theorem eq_return_of_getLast? {c : Char} (h : (String.utf8EncodeChar c).getLast? = some 13) :
    c = '\r' := by
  have hchar : Char.ofNat c.val.toNat = c := Char.ofNat_toNat c
  have hlast : ∀ n : Nat, UInt8.ofNat (n % 64 + 128) ≠ 13 := by
    intro n heq
    have hnat := congrArg UInt8.toNat heq
    rw [toNat_ofNat_mod_add (by decide) (by decide), show (13 : UInt8).toNat = 13 from rfl] at hnat
    omega
  unfold String.utf8EncodeChar at h
  generalize c.val.toNat = v at h hchar
  subst hchar
  dsimp only at h
  split at h
  · have hbyte : UInt8.ofNat v = 13 := Option.some.inj h
    have hnat := congrArg UInt8.toNat hbyte
    rw [UInt8.toNat_ofNat', Nat.mod_eq_of_lt (by omega)] at hnat
    rw [hnat]
    rfl
  split at h
  · exact absurd (Option.some.inj h) (hlast v)
  split at h
  · exact absurd (Option.some.inj h) (hlast v)
  · exact absurd (Option.some.inj h) (hlast v)

end Shorthand.Text.Utf8

namespace Shorthand

/-- The text of a line of bytes. -/
def Source.lineText (line : List UInt8) : String := Text.Utf8.decode (dropReturn line)

/-- A line that was written as a text is read as the text, unless a carriage return at its end is
taken for a part of the end of the line. -/
theorem Source.lineText_toUTF8 {text : String} {last : Char}
    (hlast : text.toList.getLast? = some last) (hreturn : last ≠ '\r') :
    lineText text.toUTF8.toList = text := by
  have hbyte : text.toUTF8.toList.getLast? ≠ some 13 := by
    obtain ⟨front, hfront⟩ := List.getLast?_eq_some_iff.mp hlast
    obtain ⟨byte, hend⟩ : ∃ byte, (String.utf8EncodeChar last).getLast? = some byte :=
      ⟨_, List.getLast?_eq_some_getLast String.utf8EncodeChar_ne_nil⟩
    rw [Text.Utf8.toList_toUTF8, hfront, List.flatMap_append, List.flatMap_singleton,
      List.getLast?_append, hend, Option.some_or]
    rintro ⟨rfl⟩
    exact hreturn (Text.Utf8.eq_return_of_getLast? hend)
  rw [lineText, dropReturn, if_neg (by simpa using hbyte), Text.Utf8.decode_toUTF8]

end Shorthand
