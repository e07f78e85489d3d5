import Mathlib.Tactic.IntervalCases
import Shorthand.Proofs.Expression.Numbers

/-!
# The value of a decimal number

The decimal digits of a positive number are an expression, and the number is its value, whichever
names are known (`ReadsDecimals`).  So the value of an expression can be written in place of the
expression.  What follows from this holds for every interpreter that reads decimal numbers, and the
one that is used does: the digits are a plain literal, since no zero and no sign stands in front of
them (`evaluate_decimal`).
-/

namespace Shorthand.Expression

/-- The interpreter reads the digits of a positive number of 64 bits as the number. -/
class ReadsDecimals [Interpreter] : Prop where
  value?_toString (known? : String → Option Int) (n : Nat) (hpos : 0 < n) (hfits : n < 2 ^ 63) :
    (evaluate known? (toString n)).value? = some (n : Int)

variable {n : Nat}

/-! ## Digits -/

theorem isDecimal_of_mem_toDigits {c : Char} (h : c ∈ Nat.toDigits 10 n) :
    Literal.isDecimal c = true := by
  have hdigit := Nat.isDigit_of_mem_toDigits (by decide) (by decide) h
  simpa [Char.isDigit, Literal.isDecimal, Char.le_def] using hdigit

/-- Digits stand for the number that they were made from. -/
theorem value_toDigits : Literal.value 10 (Nat.toDigits 10 n) = n := by
  have hfold : ∀ (digits : List Char) (init : Nat), (∀ c ∈ digits, Literal.isDecimal c = true) →
      digits.foldl (fun n c => n * 10 + (Text.Integer.digitValue? c).getD 0) init =
        Nat.ofDigitChars 10 digits init := by
    intro digits
    induction digits with
    | nil => exact fun init _ => rfl
    | cons c digits ih =>
        intro init h
        obtain ⟨hc, hdigits⟩ := List.forall_mem_cons.mp h
        have hvalue : Text.Integer.digitValue? c = some (c.toNat - '0'.toNat) := if_pos hc
        rw [List.foldl_cons, Nat.ofDigitChars_cons, ih _ hdigits, hvalue, Nat.mul_comm]
        rfl
  rw [Literal.value, hfold _ _ fun c hc => isDecimal_of_mem_toDigits hc,
    Nat.ofDigitChars_ten_toDigits]

/-- The digits with which positive numbers start. -/
def leadingDigits : List Char := ['1', '2', '3', '4', '5', '6', '7', '8', '9']

theorem exists_toDigits_eq_cons (h : 0 < n) :
    ∃ c rest, Nat.toDigits 10 n = c :: rest ∧ c ∈ leadingDigits := by
  induction n using Nat.strongRecOn with
  | ind n ih =>
      by_cases hsmall : n < 10
      · refine ⟨n.digitChar, [], Nat.toDigits_of_lt_base hsmall, ?_⟩
        interval_cases n <;> decide
      · obtain ⟨c, rest, hdigits, hc⟩ := ih (n / 10) (by omega) (by omega)
        refine ⟨c, rest ++ [(n % 10).digitChar], ?_, hc⟩
        rw [Nat.toDigits_of_base_le (by decide) (by omega), hdigits, List.cons_append]

/-! ## The value -/

/-- Nothing is wrong with underscores where there are none. -/
theorem separated_of_not_mem {chars : List Char} (h : '_' ∉ chars) (afterDigit : Bool) :
    Text.Integer.separated afterDigit chars = true := by
  fun_induction Text.Integer.separated afterDigit chars with
  | case1 => rfl
  | case2 => simp at h
  | case3 => simp at h
  | case4 afterDigit c rest hne hne' ih => exact ih fun hmem => h (List.mem_cons_of_mem _ hmem)

/-- The digits are a literal for the number. -/
theorem magnitude?_toDigits (h : 0 < n) : Text.Integer.magnitude? (Nat.toDigits 10 n) = some n := by
  have hdigits : ∀ c ∈ Nat.toDigits 10 n, Literal.isDigitIn 10 c = true := fun c hc => by
    rw [isDigitIn_ten]
    exact isDecimal_of_mem_toDigits hc
  have hbar : '_' ∉ Nat.toDigits 10 n := fun hmem =>
    absurd (isDecimal_of_mem_toDigits hmem) (by decide)
  have hread : Text.Integer.readDigits? 10 0 (Nat.toDigits 10 n) = some n := by
    rw [readDigits?_of_digits hdigits]
    exact congrArg some value_toDigits
  obtain ⟨c, rest, hchars, hc⟩ := exists_toDigits_eq_cons h
  have hzero : c ≠ '0' := by
    rintro rfl
    exact absurd hc (by decide)
  rw [hchars] at hread hbar ⊢
  rw [Text.Integer.magnitude?, splitBase_of_ne_zero hzero]
  simp only [List.isEmpty_cons, separated_of_not_mem hbar, hread, Bool.false_eq_true, if_false,
    if_true]

theorem isPlain_toDigits (h : 0 < n) : IsPlain (Nat.toDigits 10 n) where
  no_underscore := fun hmem => absurd (isDecimal_of_mem_toDigits hmem) (by decide)
  no_zero := by
    obtain ⟨c, rest, hchars, hc⟩ := exists_toDigits_eq_cons h
    rw [hchars, List.head?_cons, Option.some.injEq]
    rintro rfl
    exact absurd hc (by decide)

/-- **The digits of a positive number have it as their value**, if it has no more than 64 bits. -/
theorem evaluate_decimal (known? : String → Option Int) (h : 0 < n) (hfits : n < 2 ^ 63) :
    evaluate known? (toString n) = ⟨[], some n⟩ := by
  have hchars : (toString n).toList = Nat.toDigits 10 n := by
    rw [Nat.toString_eq_repr, Nat.toList_repr]
  have hmagnitude : Text.Integer.magnitude? (toString n).toList = some n := by
    rw [hchars, magnitude?_toDigits h]
  have hplain : IsPlain (toString n).toList := by
    rw [hchars]
    exact isPlain_toDigits h
  rw [evaluate_number hmagnitude h hfits, if_pos hplain]

instance : ReadsDecimals where
  value?_toString known? _ hpos hfits :=
    congrArg Evaluation.value? (evaluate_decimal known? hpos hfits)

end Shorthand.Expression
