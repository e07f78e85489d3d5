import Shorthand.Proofs.Syntax.Accepted
import Shorthand.Proofs.Syntax.Families

/-!
# Updates of a register are abbreviations

A register can be updated by an operator with an equals sign, or by one that is written twice.  Both
abbreviate an assignment in which the register is written again (`Abbreviates`): `r1 += 2` stands
for `r1 = r1 + 2`, and `r1++` for `r1 = r1 + 1`.  Whatever follows on the line, it comes to the same
statements or to the same problem if the assignment is written out (`dispatch_abbreviated`).

## Strategy

No token of an abbreviation ends a statement, and none of what it stands for.  So what follows is
cut off at the same token on both lines (`Segment.upTo_append`), and the two readers are left to be
compared on one segment.  That of assignments comes to read an operand after the operator, as that
of compound operators does at once (`readUpdate_written`), and an operator that is written twice has
the one as its operand already.
-/

namespace Shorthand

open Machine

variable {handlers : List Handler} {dst equals again sign one : Token} {op : Operator}
  {short long rest : List Token}

/-! ## Abbreviations -/

/-- The tokens of an update after its register, and those that they stand for. -/
inductive Abbreviates (dst : Token) : (short long : List Token) → Prop where
  | compound {mark equals again sign : Token} {op : Operator}
      (hmark : mark.isOp (op.symbol ++ "=") = true) (hequals : equals.isOp "=" = true)
      (hagain : again.isWord dst.text = true) (hsign : sign.isOp op.symbol = true) :
      Abbreviates dst [mark] [equals, again, sign]
  | increment {mark equals again sign one : Token} (hmark : mark.isOp "++" = true)
      (hequals : equals.isOp "=" = true) (hagain : again.isWord dst.text = true)
      (hsign : sign.isOp "+" = true) (hkind : one.kind = .number) (htext : one.text = "1") :
      Abbreviates dst [mark] [equals, again, sign, one]
  | decrement {mark equals again sign one : Token} (hmark : mark.isOp "--" = true)
      (hequals : equals.isOp "=" = true) (hagain : again.isWord dst.text = true)
      (hsign : sign.isOp "-" = true) (hkind : one.kind = .number) (htext : one.text = "1") :
      Abbreviates dst [mark] [equals, again, sign, one]

theorem not_ends_of_isOp {tok : Token} {text : String} (h : tok.isOp text = true)
    (hne : text ≠ ";") : endsStatement [";"] tok = false := by
  obtain ⟨hkind, rfl⟩ := Token.isOp_iff.mp h
  simp [endsStatement, hkind, hne]

/-- No token of an abbreviation ends a statement, and none of those that it stands for. -/
theorem Abbreviates.inside (h : Abbreviates dst short long) :
    (∀ tok ∈ short, endsStatement [";"] tok = false) ∧
      ∀ tok ∈ long, endsStatement [";"] tok = false := by
  have hword : ∀ {tok : Token}, tok.isWord dst.text = true → endsStatement [";"] tok = false := by
    intro tok htok
    simp [endsStatement, (Token.isWord_iff.mp htok).1]
  have hnumber : ∀ {tok : Token}, tok.kind = .number → endsStatement [";"] tok = false := by
    intro tok hkind
    simp [endsStatement, hkind]
  cases h with
  | @compound _ _ _ _ op hmark hequals hagain hsign =>
      have hcompound : op.symbol ++ "=" ≠ ";" := by cases op <;> decide
      have hsymbol : op.symbol ≠ ";" := by cases op <;> decide
      simp [not_ends_of_isOp hmark hcompound, not_ends_of_isOp hequals (by decide), hword hagain,
        not_ends_of_isOp hsign hsymbol]
  | increment hmark hequals hagain hsign hkind | decrement hmark hequals hagain hsign hkind =>
      simp [not_ends_of_isOp hmark (by decide), not_ends_of_isOp hequals (by decide), hword hagain,
        not_ends_of_isOp hsign (by decide), hnumber hkind]

/-! ## Readers -/

/-- An assignment of the register to itself reads the operator, and then its operand. -/
theorem readUpdate_written (hdst : dst.isRegister = true) (hequals : equals.isOp "=" = true)
    (hagain : again.isWord dst.text = true) (hsign : sign.isOp op.symbol = true)
    (rest : List Token) :
    readUpdate dst.text equals (again :: sign :: rest) = do
      let (rhs, rest) ← readOperand rest
      return (.operate dst.text dst.text op rhs, rest) := by
  obtain ⟨hequalsKind, hequalsText⟩ := Token.isOp_iff.mp hequals
  obtain ⟨hagainKind, hagainText⟩ := Token.isWord_iff.mp hagain
  obtain ⟨hsignKind, hsignText⟩ := Token.isOp_iff.mp hsign
  have hregister : again.isRegister = true := by
    simpa [Token.isRegister, hagainKind, hagainText] using (Bool.and_eq_true_iff.mp hdst).2
  have his : equals.is "=" = true := by simp [Token.is, hequalsKind, hequalsText]
  rw [readUpdate, if_pos his, readAssigned, if_pos hregister, readOperation, hagainText, hsignText,
    ofSymbol?_eq_some_iff.mpr rfl]
  simp [hsignKind]

theorem readOperand_one (hkind : one.kind = .number) (htext : one.text = "1")
    (rest : List Token) :
    readOperand (one :: rest) = .ok (.immediate (.number "1"), rest) := by
  have hnumber : numberImmediate "1" = .ok (.number "1") := by decide +kernel
  have hread : readImmediate (one :: rest) = .ok (.number "1", rest) := by
    cases rest <;>
      simp [readImmediate, Token.is, tokenImmediate, hkind, htext, hnumber, bind, Except.bind,
        pure, Except.pure]
  simp [readOperand, Token.isRegister, hkind, hread, bind, Except.bind, pure, Except.pure]

/-- An assignment of the register to itself with one for its operand reads a step. -/
theorem readUpdate_written_one (op : Operator) (hdst : dst.isRegister = true)
    (hequals : equals.isOp "=" = true) (hagain : again.isWord dst.text = true)
    (hsign : sign.isOp op.symbol = true) (hkind : one.kind = .number) (htext : one.text = "1")
    (rest : List Token) :
    readUpdate dst.text equals (again :: sign :: one :: rest) =
      .ok (stepStatement dst.text op, rest) := by
  rw [readUpdate_written hdst hequals hagain hsign, readOperand_one hkind htext]
  rfl

theorem readUpdate_increment {mark : Token} (hmark : mark.isOp "++" = true) (rest : List Token) :
    readUpdate dst.text mark rest = .ok (stepStatement dst.text .add, rest) := by
  obtain ⟨hkind, htext⟩ := Token.isOp_iff.mp hmark
  simp [readUpdate, Token.is, hkind, htext]

theorem readUpdate_decrement {mark : Token} (hmark : mark.isOp "--" = true) (rest : List Token) :
    readUpdate dst.text mark rest = .ok (stepStatement dst.text .sub, rest) := by
  obtain ⟨hkind, htext⟩ := Token.isOp_iff.mp hmark
  simp [readUpdate, Token.is, hkind, htext]

/-- An abbreviation is read as what it stands for, with whatever follows. -/
theorem readRegisterStatement_abbreviated (hdst : dst.isRegister = true)
    (h : Abbreviates dst short long) (rest : List Token) :
    readRegisterStatement dst.text (short ++ rest) =
      readRegisterStatement dst.text (long ++ rest) := by
  cases h with
  | compound hmark hequals hagain hsign =>
      simp only [List.cons_append, List.nil_append, readRegisterStatement,
        readUpdate_compound hmark, readUpdate_written hdst hequals hagain hsign]
  | increment hmark hequals hagain hsign hkind htext =>
      have hwritten := readUpdate_written_one .add hdst hequals hagain hsign hkind htext
      simp only [List.cons_append, List.nil_append, readRegisterStatement,
        readUpdate_increment hmark, hwritten]
  | decrement hmark hequals hagain hsign hkind htext =>
      have hwritten := readUpdate_written_one .sub hdst hequals hagain hsign hkind htext
      simp only [List.cons_append, List.nil_append, readRegisterStatement,
        readUpdate_decrement hmark, hwritten]

/-! ## Lines -/

/-- A register starts a statement, if its family is among those that are asked. -/
theorem progress_register (hmem : .register ∈ handlers) (hdst : dst.isRegister = true)
    (tokens : List Token) :
    progress handlers (dst :: tokens) =
      match readRegisterStatement dst.text (Segment.upTo [";"] tokens).body with
      | .error problem => ⟨[], some problem⟩
      | .ok statement =>
          let later := progress handlers (Segment.upTo [";"] tokens).rest
          { later with statements := statement :: later.statements } := by
  have hstarts : Handler.starts ⟨[], dst⟩ .register = true := by
    simp [Handler.starts, Candidate.single, hdst]
  have hfind := find?_starts_eq_some_iff.mpr ⟨hmem, hstarts⟩
  rw [progress, progressOnto, hfind]
  rfl

/-- **An update of a register comes to what it stands for, whatever follows on the line.**  If the
family of registers is among those that are asked, a line that starts with an update is dispatched
to the same statements, or to the same problem, as the line with the assignment that is written
out; and before a problem, the same statements are read. -/
theorem dispatch_abbreviated (hmem : .register ∈ handlers) (hdst : dst.isRegister = true)
    (h : Abbreviates dst short long) (rest : List Token) :
    dispatch handlers (dst :: (short ++ rest)) = dispatch handlers (dst :: (long ++ rest)) ∧
      progress handlers (dst :: (short ++ rest)) = progress handlers (dst :: (long ++ rest)) := by
  obtain ⟨hshort, hlong⟩ := h.inside
  have hprogress : progress handlers (dst :: (short ++ rest)) =
      progress handlers (dst :: (long ++ rest)) := by
    rw [progress_register hmem hdst, progress_register hmem hdst, Segment.upTo_append hshort,
      Segment.upTo_append hlong, readRegisterStatement_abbreviated hdst h]
  refine ⟨?_, hprogress⟩
  rw [dispatch_eq_result, dispatch_eq_result, hprogress]

/-- The tokens of `2; end now`. -/
def overrunTokens : List Token :=
  [⟨.number, "2", 8⟩, ⟨.op, ";", 9⟩, ⟨.ident, "end", 11⟩, ⟨.ident, "now", 15⟩]

/-- Before these tokens `r1 <<= ` is dispatched as `r1 = r1 << `, to the shift and then to the
tokens that are left over after the end. -/
theorem overrunTokens_dispatched :
    let short := ⟨.ident, "r1", 1⟩ :: ([⟨.op, "<<=", 4⟩] ++ overrunTokens)
    let long := ⟨.ident, "r1", 1⟩ ::
      ([⟨.op, "=", 4⟩, ⟨.ident, "r1", 6⟩, ⟨.op, "<<", 9⟩] ++ overrunTokens)
    Handler.register ∈ Handler.all ∧ (Token.mk .ident "r1" 1).isRegister = true ∧
      Abbreviates ⟨.ident, "r1", 1⟩ [⟨.op, "<<=", 4⟩]
        [⟨.op, "=", 4⟩, ⟨.ident, "r1", 6⟩, ⟨.op, "<<", 9⟩] ∧
      dispatch Handler.all short = .error (.withTexts .trailing ["now"]) ∧
      dispatch Handler.all long = .error (.withTexts .trailing ["now"]) ∧
      progress Handler.all short = progress Handler.all long := by
  have hmem : Handler.register ∈ Handler.all := by decide
  have hregister : (Token.mk .ident "r1" 1).isRegister = true := by decide
  have hmark : (Token.mk .op "<<=" 4).isOp (Operator.shiftLeft.symbol ++ "=") = true := by decide
  have habbreviates : Abbreviates ⟨.ident, "r1", 1⟩ [⟨.op, "<<=", 4⟩]
      [⟨.op, "=", 4⟩, ⟨.ident, "r1", 6⟩, ⟨.op, "<<", 9⟩] :=
    .compound hmark (by decide) (by decide) (by decide)
  obtain ⟨hdispatch, hprogress⟩ := dispatch_abbreviated hmem hregister habbreviates overrunTokens
  have hshort : dispatch Handler.all (⟨.ident, "r1", 1⟩ :: ([⟨.op, "<<=", 4⟩] ++ overrunTokens)) =
      .error (.withTexts .trailing ["now"]) := by decide +kernel
  exact ⟨hmem, hregister, habbreviates, hshort, hdispatch.symm.trans hshort, hprogress⟩

end Shorthand
