import Shorthand.Proofs.Lowering.Updates

/-!
# The checks of single statements

Apart from its place in the program, a statement is checked on its own: expressions have to be
evaluable, sizes have to be valid, and operations need a mnemonic.  The check depends on the
constants that are defined before the statement, and on nothing else.

`Statement.Passes` says what is checked, and `Checked` that a list of statements passes, each of
them with the constants before it.  The functions that lower succeed exactly under these checks.
-/

namespace Shorthand

open Lowering

variable [Interpreter]

/-! ## The check of a statement -/

/-- The expression has a value. -/
def Evaluable (constants : Constants) (text : String) : Prop :=
  ∃ value, valueOf? constants text = some value

/-- The operand has a text: an expression has to have a value. -/
def Immediate.Passes (constants : Constants) : Immediate → Prop
  | expr text => Evaluable constants (expressionBody text)
  | number _ | char _ | name _ => True

/-- The size is the value of an expression, it is positive, and so many units are not more bytes
than there can be. -/
def Immediate.IsSize (constants : Constants) (imm : Immediate) (width : Width) : Prop :=
  ∃ text count, sizeExpression? imm = some text ∧ valueOf? constants text = some count ∧
    0 < count ∧ count * width.bytes ≤ sizeLimit

/-- The declaration is possible: its initial values, its size or the value of the constant pass. -/
def Declaration.Passes (constants : Constants) : Declaration → Prop
  | scalar _ _ init => ∀ imm ∈ init, imm.Passes constants
  | array width _ size => size.IsSize constants width
  | buffer _ size => size.IsSize constants .byte
  | string _ _ => True
  | const _ value =>
      isSingleExpression value = true → Evaluable constants (expressionBody value)

/-- The statement passes its own check, if the given constants are defined before it. -/
def Statement.Passes (constants : Constants) : Statement → Prop
  | load _ _ _ offset => offset.Passes constants
  | loadImmediate _ value => value.Passes constants
  | operate _ _ op (.register _) => ∃ mnemonic, op.registerForm? = some mnemonic
  | operate _ _ op (.immediate value) =>
      (∃ mnemonic, op.immediateForm? = some mnemonic) ∧ value.Passes constants
  | store _ _ (.memory _ offset) => offset.Passes constants
  | store _ _ (.variable _) => True
  | declare declaration => declaration.Passes constants
  | block _ _ | branch _ | otherwise | loop _ | close | call _ | comment _ | move _ _
  | address _ _ | loadName _ _ _ => True

/-- The constants after a statement. -/
def Statement.define (constants : Constants) : Statement → Constants
  | declare (.const name value) =>
      Symbols.put constants name ((constantText? constants value).getD value)
  | _ => constants

/-- Each statement passes its own check, with the constants that are defined before it. -/
def Checked (constants : Constants) : List Statement → Prop
  | [] => True
  | statement :: rest =>
      statement.Passes constants ∧ Checked (statement.define constants) rest

theorem checked_append {constants : Constants} {first second : List Statement} :
    Checked constants (first ++ second) ↔
      Checked constants first ∧ Checked (first.foldl Statement.define constants) second := by
  induction first generalizing constants with
  | nil => simp [Checked]
  | cons statement first ih => simp [Checked, ih, and_assoc]

/-- The same, said of each place of the list. -/
theorem checked_iff {constants : Constants} {statements : List Statement} :
    Checked constants statements ↔ ∀ before statement after,
      statements = before ++ statement :: after →
        statement.Passes (before.foldl Statement.define constants) := by
  constructor
  · rintro h before statement after rfl
    exact (checked_append.mp h).2.1
  · intro h
    induction statements generalizing constants with
    | nil => trivial
    | cons statement rest ih =>
        refine ⟨h [] statement rest rfl, ih ?_⟩
        rintro before later after rfl
        exact h (statement :: before) later after rfl

/-! ## What is lowered and what passes -/

namespace Lowering

variable {constants : Constants}

theorem expressionText?_isSome_iff {text : String} :
    (expressionText? constants text).isSome = true ↔
      Evaluable constants (expressionBody text) := by
  rw [expressionText?, Option.isSome_map, Option.isSome_iff_exists]
  rfl

theorem immediateText?_isSome_iff {imm : Immediate} :
    (immediateText? constants imm).isSome = true ↔ imm.Passes constants := by
  cases imm with
  | expr text => exact expressionText?_isSome_iff
  | number text | char text | name text => simp [immediateText?, Immediate.Passes]

theorem immediateTexts?_isSome_iff {imms : List Immediate} :
    (immediateTexts? constants imms).isSome = true ↔ ∀ imm ∈ imms, imm.Passes constants := by
  induction imms with
  | nil => simp [immediateTexts?]
  | cons imm imms ih =>
      rw [List.forall_mem_cons, ← ih, ← immediateText?_isSome_iff, immediateTexts?]
      cases immediateText? constants imm <;> cases immediateTexts? constants imms <;> simp

omit [Interpreter] in
/-- So many units are not too many bytes, said with a quotient or with a product. -/
private theorem sizeLimit_div_lt_iff (count : Int) (width : Width) :
    sizeLimit / width.bytes < count ↔ ¬ count * width.bytes ≤ sizeLimit := by
  have hpos : (0 : Int) < width.bytes := by cases width <;> decide
  rw [← Int.le_ediv_iff_mul_le hpos, Int.not_le]

theorem sizeOf?_isSome_iff {imm : Immediate} {width : Width} :
    (sizeOf? constants imm width.bytes).isSome = true ↔ imm.IsSize constants width := by
  unfold sizeOf? Immediate.IsSize
  cases sizeExpression? imm with
  | none => simp
  | some text =>
      cases hvalue : valueOf? constants text with
      | none => simp [hvalue]
      | some count => simp [hvalue, Option.filter, sizeLimit_div_lt_iff]

theorem operationOf?_isSome_iff {dst src : Machine.Register} {op : Machine.Operator}
    {rhs : Operand} :
    (operationOf? constants dst src op rhs).isSome = true ↔
      (Statement.operate dst src op rhs).Passes constants := by
  cases rhs with
  | register name =>
      cases hform : op.registerForm? <;> simp [operationOf?, Statement.Passes, hform]
  | immediate imm =>
      rw [Statement.Passes, ← immediateText?_isSome_iff]
      cases hform : op.immediateForm? <;> cases htext : immediateText? constants imm <;>
        simp [operationOf?, hform, htext]

/-- A simple statement has an instruction exactly if it passes its check. -/
theorem selected_isSome_iff {statement : Statement} (hsimple : statement.isSimple = true) :
    (selected constants statement).isSome = true ↔ statement.Passes constants := by
  cases statement with
  | block | branch | loop | otherwise | close | comment | declare => cases hsimple
  | call | move | address => simp [selected, Statement.Passes]
  | loadName dst name cast? =>
      rw [selected, Statement.Passes]
      split <;> simp
  | load dst cast base offset =>
      rw [Statement.Passes, ← immediateText?_isSome_iff, selected]
      cases immediateText? constants offset <;> simp
  | loadImmediate dst value =>
      rw [Statement.Passes, ← immediateText?_isSome_iff, selected]
      cases immediateText? constants value <;> simp
  | operate dst src op rhs => exact operationOf?_isSome_iff
  | store cast src target =>
      cases target with
      | «variable» name => simp [selected, Statement.Passes]
      | memory base offset =>
          rw [Statement.Passes, ← immediateText?_isSome_iff, selected]
          cases immediateText? constants offset <;> simp

/-- A variable has storage exactly if its declaration passes its check. -/
theorem storageOf?_isSome_iff {declaration : Declaration}
    (hvariable : declaration.isVariable = true) :
    (storageOf? constants declaration).isSome = true ↔ declaration.Passes constants := by
  cases declaration with
  | const name value => cases hvariable
  | string name literal => simp [storageOf?, Declaration.Passes]
  | scalar width name init =>
      rw [Declaration.Passes, ← immediateTexts?_isSome_iff, storageOf?]
      cases init with
      | nil => simp [immediateTexts?]
      | cons imm imms => cases immediateTexts? constants (imm :: imms) <;> simp
  | array width name size =>
      rw [Declaration.Passes, ← sizeOf?_isSome_iff, storageOf?]
      cases sizeOf? constants size width.bytes <;> simp
  | buffer name size =>
      rw [Declaration.Passes, ← sizeOf?_isSome_iff, storageOf?]
      cases sizeOf? constants size Width.byte.bytes <;> simp

/-- A constant is defined exactly if its value passes its check. -/
theorem define?_eq_some_iff {name value : String} {constants' : Constants} :
    define? constants name value = some constants' ↔
      (Statement.declare (.const name value)).Passes constants ∧
        (Statement.declare (.const name value)).define constants = constants' := by
  rw [define?, Statement.Passes, Declaration.Passes, Statement.define,
    ← expressionText?_isSome_iff, constantText?]
  by_cases hsingle : isSingleExpression value = true
  · simp only [hsingle, if_true, forall_const]
    cases expressionText? constants value <;> simp
  · simp [hsingle]

/-- The declarations of constants. -/
def declarations (entries : List (String × String)) : List Statement :=
  entries.map fun (name, value) => .declare (.const name value)

theorem defineAll?_eq_some_iff {entries : List (String × String)} {constants' : Constants} :
    defineAll? constants entries = some constants' ↔
      Checked constants (declarations entries) ∧
        (declarations entries).foldl Statement.define constants = constants' := by
  induction entries generalizing constants with
  | nil => simp [defineAll?, declarations, Checked]
  | cons entry entries ih =>
      obtain ⟨name, value⟩ := entry
      have htail : declarations ((name, value) :: entries) =
          .declare (.const name value) :: declarations entries := rfl
      rw [defineAll?, Option.bind_eq_some_iff, htail]
      simp only [define?_eq_some_iff, ih, Checked, List.foldl_cons]
      constructor
      · rintro ⟨_, ⟨hpasses, rfl⟩, hchecked, hrest⟩
        exact ⟨⟨hpasses, hchecked⟩, hrest⟩
      · rintro ⟨⟨hpasses, hchecked⟩, hrest⟩
        exact ⟨_, ⟨hpasses, rfl⟩, hchecked, hrest⟩

end Lowering

end Shorthand
