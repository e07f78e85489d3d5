import Shorthand.Proofs.Syntax.Encoding

/-!
# The bytes of characters

Every character that is read comes from some bytes, and the next one from the bytes after them.  So
bytes can be cut off behind any number of characters (`takeChars`), and what is left is read as
these characters (`toList_decode_takeChars`): whether bytes belong together is seen from them alone.
A carriage return at the end is never part of a longer sequence, so it is read as the last character
(`toList_decode_append_return`).

`Reads` says how the next character comes about, one case for each length of a sequence, and one for
a byte that starts none.
-/

namespace Shorthand.Text.Utf8

/-! ## The next character -/

/-- The character that starts with the byte `a`, with the bytes after it. -/
inductive Reads (a : UInt8) : List UInt8 → Char × List UInt8 → Prop where
  | single {tail : List UInt8} (ha : a < 0x80) : Reads a tail (Char.ofNat a.toNat, tail)
  | pair {b : UInt8} {tail : List UInt8} (ha : ¬a < 0x80) (h : isPair a b = true) :
      Reads a (b :: tail) (pairChar a b, tail)
  | triple {b c : UInt8} {tail : List UInt8} (ha : ¬a < 0x80) (hpair : isPair a b = false)
      (h : isTriple a b c = true) : Reads a (b :: c :: tail) (tripleChar a b c, tail)
  | quadruple {b c d : UInt8} {tail : List UInt8} (ha : ¬a < 0x80) (hpair : isPair a b = false)
      (htriple : isTriple a b c = false) (h : isQuadruple a b c d = true) :
      Reads a (b :: c :: d :: tail) (quadrupleChar a b c d, tail)
  | replaced {rest : List UInt8} (ha : ¬a < 0x80)
      (hpair : ∀ b, [b] <+: rest → isPair a b = false)
      (htriple : ∀ b c, [b, c] <+: rest → isTriple a b c = false)
      (hquadruple : ∀ b c d, [b, c, d] <+: rest → isQuadruple a b c d = false) :
      Reads a rest (replacement, rest)

theorem reads_next (a : UInt8) (rest : List UInt8) : Reads a rest (next a rest) := by
  unfold next
  by_cases ha : a < 0x80
  · rw [if_pos ha]
    exact .single ha
  rw [if_neg ha]
  rcases rest with _ | ⟨b, _ | ⟨c, _ | ⟨d, tail⟩⟩⟩ <;> dsimp only
  all_goals repeat' split
  all_goals first
    | exact .pair ha ‹_›
    | exact .triple ha (by simpa using ‹¬isPair _ _ = true›) ‹_›
    | exact .quadruple ha (by simpa using ‹¬isPair _ _ = true›)
        (by simpa using ‹¬isTriple _ _ _ = true›) ‹_›
    | refine .replaced ha ?_ ?_ ?_ <;> simp_all [List.cons_prefix_cons]

theorem next_of_reads {a : UInt8} {rest : List UInt8} {result : Char × List UInt8}
    (h : Reads a rest result) : next a rest = result := by
  cases h with
  | single ha => rw [next.eq_def, if_pos ha]
  | @pair b tail ha h => rcases tail with _ | ⟨c, _ | ⟨d, tail⟩⟩ <;> simp [next, ha, h]
  | @triple b c tail ha hpair h => rcases tail with _ | ⟨d, tail⟩ <;> simp [next, ha, hpair, h]
  | quadruple ha hpair htriple h => simp [next, ha, hpair, htriple, h]
  | replaced ha hpair htriple hquadruple =>
      rw [next.eq_def, if_neg ha]
      rcases rest with _ | ⟨b, _ | ⟨c, _ | ⟨d, tail⟩⟩⟩ <;>
        simp_all [List.cons_prefix_cons]

/-- The bytes of a character are read alike whatever follows on them, as long as nothing else does:
less of it may follow. -/
theorem exists_next_eq (a : UInt8) (rest : List UInt8) :
    ∃ own, rest = own ++ (next a rest).2 ∧
      ∀ more, more <+: (next a rest).2 → next a (own ++ more) = ((next a rest).1, more) := by
  generalize hnext : next a rest = result
  have hreads := reads_next a rest
  rw [hnext] at hreads
  cases hreads with
  | single ha => exact ⟨[], rfl, fun more _ => next_of_reads (.single ha)⟩
  | @pair b tail ha h => exact ⟨[b], rfl, fun more _ => next_of_reads (.pair ha h)⟩
  | @triple b c tail ha hpair h =>
      exact ⟨[b, c], rfl, fun more _ => next_of_reads (.triple ha hpair h)⟩
  | @quadruple b c d tail ha hpair htriple h =>
      exact ⟨[b, c, d], rfl, fun more _ => next_of_reads (.quadruple ha hpair htriple h)⟩
  | replaced ha hpair htriple hquadruple =>
      refine ⟨[], rfl, fun more hmore => next_of_reads ?_⟩
      -- bytes that start no sequence do not start one when some of them are missing
      exact .replaced ha (fun b hb => hpair b (hb.trans hmore))
        (fun b c hbc => htriple b c (hbc.trans hmore))
        (fun b c d hbcd => hquadruple b c d (hbcd.trans hmore))

/-- A carriage return continues no sequence. -/
theorem next_append_return (a : UInt8) (rest : List UInt8) :
    next a (rest ++ [13]) = ((next a rest).1, (next a rest).2 ++ [13]) := by
  generalize hnext : next a rest = result
  have hreads := reads_next a rest
  rw [hnext] at hreads
  refine next_of_reads ?_
  have hreturn : continues 13 = false := by decide
  cases hreads with
  | single ha => exact .single ha
  | pair ha h => exact .pair ha h
  | triple ha hpair h => exact .triple ha hpair h
  | quadruple ha hpair htriple h => exact .quadruple ha hpair htriple h
  | replaced ha hpair htriple hquadruple =>
      refine .replaced ha ?_ ?_ ?_
      · intro b hb
        rcases rest with _ | ⟨b', rest⟩ <;>
          simp_all [List.cons_prefix_cons, isPair]
      · intro b c hbc
        rcases rest with _ | ⟨b', _ | ⟨c', rest⟩⟩ <;>
          simp_all [List.cons_prefix_cons, isTriple]
      · intro b c d hbcd
        rcases rest with _ | ⟨b', _ | ⟨c', _ | ⟨d', rest⟩⟩⟩ <;>
          simp_all [List.cons_prefix_cons, isQuadruple]

/-! ## Reading characters -/

theorem decodeOnto_eq (read : List Char) (bytes : List UInt8) :
    decodeOnto read bytes = read.reverse ++ decodeOnto [] bytes := by
  induction hlength : bytes.length using Nat.strongRecOn generalizing read bytes with
  | ind length ih =>
      cases bytes with
      | nil => simp [decodeOnto]
      | cons a rest =>
          have hshort : (next a rest).2.length < length := by
            have hle := length_next_le a rest
            rw [List.length_cons] at hlength
            omega
          rw [decodeOnto, decodeOnto, ih _ hshort (_ :: read) _ rfl, ih _ hshort [_] _ rfl]
          simp

theorem decode_cons (a : UInt8) (rest : List UInt8) :
    (decode (a :: rest)).toList = (next a rest).1 :: (decode (next a rest).2).toList := by
  rw [decode, decode, String.toList_ofList, String.toList_ofList, decodeOnto, decodeOnto_eq]
  rfl

/-- A carriage return at the end is read as a character of its own. -/
theorem toList_decode_append_return (bytes : List UInt8) :
    (decode (bytes ++ [13])).toList = (decode bytes).toList ++ ['\r'] := by
  induction hlength : bytes.length using Nat.strongRecOn generalizing bytes with
  | ind length ih =>
      cases bytes with
      | nil => decide +kernel
      | cons a rest =>
          have hshort : (next a rest).2.length < length := by
            have hle := length_next_le a rest
            rw [List.length_cons] at hlength
            omega
          rw [List.cons_append, decode_cons, next_append_return, decode_cons, ih _ hshort _ rfl,
            List.cons_append]

/-- The bytes of the first characters. -/
def takeChars : Nat → List UInt8 → List UInt8
  | 0, _ => []
  | _ + 1, [] => []
  | count + 1, a :: rest =>
      (a :: rest).take (rest.length + 1 - (next a rest).2.length) ++
        takeChars count (next a rest).2

theorem takeChars_cons {a : UInt8} {rest own : List UInt8} (h : rest = own ++ (next a rest).2)
    (count : Nat) :
    takeChars (count + 1) (a :: rest) = a :: (own ++ takeChars count (next a rest).2) := by
  have hlength : rest.length + 1 - (next a rest).2.length = (a :: own).length := by
    have hsplit := congrArg List.length h
    rw [List.length_append] at hsplit
    rw [List.length_cons]
    omega
  have htake : (a :: rest).take (a :: own).length = a :: own := by
    refine (List.prefix_iff_eq_take.mp ⟨(next a rest).2, ?_⟩).symm
    rw [List.cons_append, ← h]
  rw [takeChars, hlength, htake, List.cons_append]

theorem isPrefix_takeChars (count : Nat) (bytes : List UInt8) :
    takeChars count bytes <+: bytes := by
  induction count generalizing bytes with
  | zero => exact List.nil_prefix
  | succ count ih =>
      cases bytes with
      | nil => exact List.nil_prefix
      | cons a rest =>
          obtain ⟨own, hrest, -⟩ := exists_next_eq a rest
          obtain ⟨after, hafter⟩ := ih (next a rest).2
          refine ⟨after, ?_⟩
          rw [takeChars_cons hrest, List.cons_append, List.append_assoc, hafter, ← hrest]

/-- The bytes of the first characters are read as these characters. -/
theorem toList_decode_takeChars (count : Nat) (bytes : List UInt8) :
    (decode (takeChars count bytes)).toList = (decode bytes).toList.take count := by
  have hnil : (decode []).toList = [] := by decide +kernel
  induction count generalizing bytes with
  | zero => rw [takeChars, hnil, List.take_zero]
  | succ count ih =>
      cases bytes with
      | nil => rw [takeChars, hnil, List.take_nil]
      | cons a rest =>
          obtain ⟨own, hrest, hown⟩ := exists_next_eq a rest
          have hnext := hown _ (isPrefix_takeChars count (next a rest).2)
          rw [takeChars_cons hrest, decode_cons, decode_cons, hnext, ih, List.take_succ_cons]

end Shorthand.Text.Utf8
