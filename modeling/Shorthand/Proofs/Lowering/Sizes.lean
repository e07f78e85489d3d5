import Shorthand.Proofs.Expression.Numbers
import Shorthand.Proofs.Lowering.Storage
import Shorthand.Proofs.Symbols.History
import Shorthand.Proofs.Syntax.ConstantLines

/-!
# Names and numbers as sizes

The size of an array is an expression even where it is just a number or a name, so it is read twice:
once as a token of the source line, and then as a program.  The two readings differ on some numbers
and on some names.

* A constant is found by its name if the name is visible to expressions
  (`evaluate_name_eq`); the constant `rc` is not.
* A number has its value if it is plain (`evaluate_literal_eq`); `017` and `1_000` have none.

As the text of a constant a number is never read as a program.  So a number that is refused as a
size can still be the text of a constant, and the constant is accepted as the size.
-/

namespace Shorthand

open Expression Lowering Text

/-! ## Names -/

/-- The characters of a name. -/
theorem IsName.chars {name : String} (h : IsName name) :
    ∃ c rest, name.toList = c :: rest ∧ isIdentStart c = true ∧
      ∀ d ∈ rest, isIdentPart d = true := by
  obtain ⟨c, tail, hprint, -, hlexeme⟩ := cut_of_isLexeme h.1
  obtain ⟨hstart, htail⟩ : isIdentStart c = true ∧ tail.takeWhile isIdentPart = tail := by
    generalize hl : (Lexeme.mk (Token.word name).kind (c :: tail) []) = l at hlexeme
    cases cuts_of_lexeme hlexeme with
    | ident hstart => exact ⟨hstart, (List.cons.inj (congrArg Lexeme.chars hl)).2.symm⟩
    | _ => simp at hl
  refine ⟨c, tail, hprint, hstart, fun d hd => ?_⟩
  rw [← htail] at hd
  exact List.mem_takeWhile_imp hd

/-- A constant whose text is an integer is known to expressions. -/
theorem Symbols.integer?_of_constant? {symbols : Symbols} {name text : String} {value : Int}
    (hconstant : symbols.constant? name = some text)
    (hvalue : Integer.signed? text = some value) : symbols.integer? name = some value := by
  rw [integer?, hconstant, Option.bind_some, hvalue]

/-- An integer that is read from a text has at most 64 bits. -/
theorem Expression.word?_of_signed? {text : String} {value : Int}
    (h : Integer.signed? text = some value) : word? value = some value :=
  if_pos (Option.filter_eq_some_iff.mp h).2

/-- The name of an integer constant has its value if the name is visible, and otherwise none. -/
theorem evaluate_name_eq {symbols : Symbols} {name text : String} {value : Int}
    (hname : IsName name) (hconstant : symbols.constant? name = some text)
    (hvalue : Integer.signed? text = some value) :
    symbols.evaluate name = ⟨[], if Visible name then some value else none⟩ := by
  obtain ⟨c, rest, hchars, hstart, hrest⟩ := hname.chars
  have hknown := Symbols.integer?_of_constant? hconstant hvalue
  rw [Symbols.evaluate, evaluate_name hchars hstart hrest hknown, word?_of_signed? hvalue]

/-! ## Numbers -/

/-- The digits of a positive number, which has no sign then. -/
theorem magnitude?_of_wellFormed {literal : String} {value : Int}
    (hliteral : (Immediate.number literal).WellFormed)
    (hvalue : Integer.signed? literal = some value) (hpos : 1 ≤ value) :
    (Token.mk .number literal 0).IsLexeme ∧
      ∃ n : Nat, value = n ∧ Integer.magnitude? literal.toList = some n := by
  obtain ⟨hvalue, -⟩ := Option.filter_eq_some_iff.mp hvalue
  obtain ⟨-, digits, hlexeme, rfl | rfl⟩ := hliteral
  · refine ⟨hlexeme, ?_⟩
    obtain ⟨c, tail, hprint, -, hcut⟩ := cut_of_isLexeme hlexeme
    have hdigit : isDigit c = true := by
      generalize hl : (Lexeme.mk TokenKind.number (c :: tail) []) = l at hcut
      cases cuts_of_lexeme hcut with
      | number _ hdigit => exact hdigit
      | _ => simp at hl
    have hchars : literal.toList = c :: tail := hprint
    have hsign : c ≠ '-' ∧ c ≠ '+' := by
      constructor <;> (rintro rfl; exact absurd hdigit (by decide))
    rw [hchars] at hvalue ⊢
    split at hvalue
    · rename_i heq
      exact absurd (List.cons.inj heq).1 hsign.1
    · rename_i heq
      exact absurd (List.cons.inj heq).1 hsign.2
    · obtain ⟨_, hread, rfl⟩ := Option.map_eq_some_iff.mp hvalue
      obtain ⟨n, hn, hcast⟩ := Option.bind_eq_some_iff.mp hread
      exact ⟨n, (Option.some.inj hcast).symm, hn⟩
  · -- a number with a minus sign is not positive
    have hchars : ("-" ++ digits).toList = '-' :: digits.toList := by simp
    rw [hchars] at hvalue
    obtain ⟨_, hread, hnegative⟩ := Option.map_eq_some_iff.mp hvalue
    obtain ⟨n, -, hcast⟩ := Option.bind_eq_some_iff.mp hread
    have hn : (n : Int) = _ := Option.some.inj hcast
    omega

/-- A number has its value as an expression if it is plain, and otherwise none. -/
theorem evaluate_literal_eq {symbols : Symbols} {literal : String} {value : Int}
    (hliteral : (Immediate.number literal).WellFormed)
    (hvalue : Integer.signed? literal = some value) (hpos : 1 ≤ value) :
    symbols.evaluate literal = ⟨[], if IsPlain literal.toList then some value else none⟩ := by
  obtain ⟨-, n, rfl, hmagnitude⟩ := magnitude?_of_wellFormed hliteral hvalue hpos
  have hfits : Integer.fitsSigned n = true := (Option.filter_eq_some_iff.mp hvalue).2
  have hlimit : Integer.signedLimit = 2 ^ 63 := rfl
  simp only [Integer.fitsSigned, Bool.and_eq_true, decide_eq_true_eq] at hfits
  rw [Symbols.evaluate, evaluate_number hmagnitude (by omega) (by omega)]

/-! ## Sizes -/

namespace Lowering

/-- A size is accepted if it has a value that is positive and not too large. -/
theorem sizeOf_eq [Interpreter] {state : State} {imm : Immediate} {text : String} {valid : Prop}
    [Decidable valid] {count : Int} (htext : sizeExpression? imm = some text)
    (hvalue : state.symbols.evaluate text = ⟨[], if valid then some count else none⟩)
    (unit : Int) :
    sizeOf state imm unit =
      if valid ∧ 1 ≤ count ∧ count ≤ sizeLimit / unit then .ok (count, state)
      else state.refuse (.withTexts .sizeInvalid [imm.text]) := by
  have hevaluate : state.evaluate text = (if valid then some count else none, state) := by
    rw [State.evaluate, hvalue]
    rfl
  simp only [sizeOf, htext, hevaluate]
  by_cases hvalid : valid
  · by_cases hcount : 1 ≤ count ∧ count ≤ sizeLimit / unit
    · have hright : ¬ (count ≤ 0 || sizeLimit / unit < count) = true := by
        rw [Bool.or_eq_true, decide_eq_true_eq, decide_eq_true_eq]
        omega
      simp only [if_pos hvalid, if_neg hright, if_pos (And.intro hvalid hcount)]
    · have hwrong : (count ≤ 0 || sizeLimit / unit < count) = true := by
        rw [Bool.or_eq_true, decide_eq_true_eq, decide_eq_true_eq]
        omega
      simp only [if_pos hvalid, if_pos hwrong, if_neg fun h => hcount (And.right h)]
  · simp only [if_neg hvalid, if_neg fun h => hvalid (And.left h)]

/-- The state with one more array. -/
def State.withArray (state : State) (width : Width) (name : String) (count : Int) : State :=
  state.reserve ⟨name, alignOf width, ".skip", [toString (count * width.bytes)]⟩
    ⟨count * width.bytes, alignOf width, []⟩

/-- A declaration with a size is accepted if its size is. -/
theorem declare_elements [Interpreter] {state : State} {declaration : Declaration} {width : Width}
    {size : Immediate} (helements : declaration.elements? = some (width, size))
    (hnew : state.symbols.storage? declaration.name = none) {valid : Prop} [Decidable valid]
    {count : Int} {problem : Problem}
    (hsize : sizeOf state size width.bytes =
      if valid then .ok (count, state) else state.refuse problem) :
    declare state declaration =
      if valid then .ok (state.withArray width declaration.name count)
      else state.refuse problem := by
  have harray : declare state declaration =
      arrayStorage state width declaration.name size >>= fun made =>
        enter made.2.2 made.1 made.2.1 := by
    cases declaration with
    | array | buffer =>
        cases helements
        rfl
    | _ => cases helements
  rw [harray, arrayStorage, hsize]
  split
  · exact (enter_new hnew).1
  · rfl

end Lowering

/-- Constants with the names of the result and of a function. -/
def borrowedNames : Symbols := (Symbols.empty.setConstant "rc" "5").setConstant "len" "0x10"

/-- The text of a positive number is a single lexeme. -/
theorem lex_literal {literal : String} (hlexeme : (Token.mk .number literal 0).IsLexeme) :
    lex literal = ⟨[⟨.number, literal, 1⟩], none⟩ := hlexeme

theorem wellFormed_const_literal {name literal : String} (hname : IsName name)
    (hlexeme : (Token.mk .number literal 0).IsLexeme) :
    (Declaration.const name literal).WellFormed := by
  rw [Declaration.WellFormed, lex_literal hlexeme]
  refine ⟨hname, rfl, List.cons_ne_nil _ _, ?_, ?_⟩
  · simp [Token.print]
  · exact List.forall_mem_singleton.mpr rfl

/-- A number is kept as the text of a constant, however it is written. -/
theorem declare_const_literal [Interpreter] {state : State} {name literal : String}
    (hscope : state.scope = .compile) (hsetup : state.setup.isSealed = false)
    (hlexeme : (Token.mk .number literal 0).IsLexeme) :
    ∃ state', declare state (.const name literal) = .ok state' ∧
      state'.symbols.constant? name = some literal := by
  have hsingle : isSingleExpression literal = false := by
    rw [isSingleExpression, lex_literal hlexeme]
    rfl
  have htext : define? state.symbols.constants name literal =
      some (Symbols.put state.symbols.constants name literal) := by
    rw [define?, constantText?, hsingle]
    rfl
  have hagrees := defineConstant_agrees hsetup name literal
  rw [htext] at hagrees
  obtain ⟨state', hdefined, defined, events, hstate'⟩ := hagrees.of_some
  refine ⟨state', ?_, ?_⟩
  · rw [declare, hscope]
    exact hdefined
  · rw [hstate']
    change (state.symbols.withConstants
      (Symbols.put state.symbols.constants name literal)).constant? name = some literal
    rw [← Symbols.setConstant_eq]
    exact if_pos rfl

/-- A constant whose text is an octal number. -/
def octalSize : State := { State.start with symbols := Symbols.empty.setConstant "N" "017" }

end Shorthand
