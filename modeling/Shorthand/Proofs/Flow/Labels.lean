import Shorthand.Lowering.State
import Shorthand.Proofs.Flow.Guard

/-!
# Labels can be read back

The labels of a construct are made from the name of its body, a word, a number and an ending, by
putting them one after the other.  Names of bodies are free, and may look like labels themselves.
Still no two labels are the same text: read from its end, a label shows its ending, then a
number, then a letter that is not a digit, which tells the part of a condition from the word of a
construct, and at last the word, so that what remains is the name of the body (`Label.text_inj`).
-/

namespace Shorthand

open Lowering

/-- The words in labels. -/
inductive Word where
  | branch
  | alternative
  | loop
deriving DecidableEq

/-- The word as it is written. -/
def Word.text : Word → String
  | branch => "if"
  | alternative => "else"
  | loop => "while"

/-- The endings of labels. -/
inductive Ending where
  /-- The label is the name of the construct itself. -/
  | bare
  /-- Where the condition of a loop is tested. -/
  | test
  /-- Where a condition has the value. -/
  | value (value : Bool)
deriving DecidableEq

/-- The ending as it is written. -/
def Ending.text : Ending → String
  | bare => ""
  | test => "_test"
  | value true => "_t"
  | value false => "_f"

/-- A label of a body. -/
structure Label where
  word : Word
  /-- The number of the construct. -/
  number : Nat
  /-- The number of the part of the condition to which the label belongs, if it is one. -/
  part? : Option Nat
  ending : Ending
deriving DecidableEq

/-- The number of a part as it is written. -/
def partText : Option Nat → String
  | none => ""
  | some number => "_c" ++ toString number

/-- The label as it is written in a body with a name. -/
def Label.text (body : String) (label : Label) : String :=
  labelName body label.word.text label.number ++ partText label.part? ++ label.ending.text

namespace Label

variable (body : String) (word : Word) (number : Nat)

theorem text_bare : labelName body word.text number = text body ⟨word, number, none, .bare⟩ := by
  simp [text, partText, Ending.text]

theorem text_test :
    testLabel (labelName body word.text number) = text body ⟨word, number, none, .test⟩ := by
  simp [text, partText, Ending.text, testLabel]

theorem text_true :
    trueLabel (labelName body word.text number) =
      text body ⟨word, number, none, .value true⟩ := by
  simp [text, partText, Ending.text, trueLabel]

theorem text_false :
    falseLabel (labelName body word.text number) =
      text body ⟨word, number, none, .value false⟩ := by
  simp [text, partText, Ending.text, falseLabel]

theorem text_part (part : Nat × Bool) :
    Guard.partLabel (labelName body word.text number) part =
      text body ⟨word, number, some part.1, .value part.2⟩ := by
  obtain ⟨part, value⟩ := part
  cases value <;>
    simp [text, partText, Ending.text, Guard.partLabel, Guard.partName, trueLabel, falseLabel,
      String.append_assoc]

end Label

/-! ## Reading a label from its end -/

/-- The characters end in a digit. -/
private def EndsInDigit (chars : List Char) : Prop :=
  ∃ digit rest, chars.reverse = digit :: rest ∧ digit.isDigit = true

/-- The characters end in something else. -/
private def EndsInLetter (chars : List Char) : Prop :=
  ∃ letter rest, chars.reverse = letter :: rest ∧ letter.isDigit = false

private theorem isDigit_of_mem_toString {number : Nat} {c : Char}
    (h : c ∈ (toString number).toList) : c.isDigit = true := by
  rw [Nat.toString_eq_repr, Nat.toList_repr] at h
  exact Nat.isDigit_of_mem_toDigits (by decide) (by decide) h

private theorem endsInDigit_append_toString (chars : List Char) (number : Nat) :
    EndsInDigit (chars ++ (toString number).toList) := by
  have hne : (toString number).toList.reverse ≠ [] := by
    rw [Nat.toString_eq_repr, Nat.toList_repr, List.reverse_ne_nil_iff]
    exact Nat.toDigits_ne_nil
  obtain ⟨digit, rest, hdigits⟩ := List.exists_cons_of_ne_nil hne
  refine ⟨digit, rest ++ chars.reverse, ?_, ?_⟩
  · rw [List.reverse_append, hdigits, List.cons_append]
  · apply isDigit_of_mem_toString
    rw [← List.mem_reverse, hdigits]
    exact List.mem_cons_self ..

/-- Of a text that ends in a number, the number and what stands before it can be read. -/
private theorem append_toString_inj {a b : List Char} {n m : Nat} (ha : EndsInLetter a)
    (hb : EndsInLetter b) (h : a ++ (toString n).toList = b ++ (toString m).toList) :
    a = b ∧ n = m := by
  -- the digits at the end are what is taken from the reversed text while there are digits
  have hread : ∀ {a : List Char} {n : Nat}, EndsInLetter a →
      (a ++ (toString n).toList).reverse.takeWhile Char.isDigit =
        (toString n).toList.reverse := by
    rintro a n ⟨letter, rest, hletter, hplain⟩
    rw [List.reverse_append, hletter, List.takeWhile_append_of_pos]
    · simp [hplain]
    · intro c hc
      exact isDigit_of_mem_toString (List.mem_reverse.mp hc)
  have hdigits : (toString n).toList = (toString m).toList := by
    rw [← List.reverse_inj, ← hread ha, ← hread hb, h]
  rw [hdigits] at h
  exact ⟨List.append_cancel_right h, Nat.repr_injective (String.toList_inj.mp hdigits)⟩

private theorem append_ending_inj {a b : List Char} {ending ending' : Ending}
    (ha : EndsInDigit a) (hb : EndsInDigit b)
    (h : a ++ ending.text.toList = b ++ ending'.text.toList) : a = b ∧ ending = ending' := by
  obtain ⟨digit, rest, hdigit, hisDigit⟩ := ha
  obtain ⟨digit', rest', hdigit', hisDigit'⟩ := hb
  have hreverse := congrArg List.reverse h
  rw [List.reverse_append, List.reverse_append, hdigit, hdigit'] at hreverse
  -- two different endings show a different character before a digit is reached
  have hending : ending = ending' := by
    rcases ending with _ | _ | (_ | _) <;> rcases ending' with _ | _ | (_ | _) <;>
      simp [Ending.text] at hreverse ⊢ <;> obtain ⟨rfl, -⟩ := hreverse <;>
      simp at hisDigit hisDigit'
  subst hending
  exact ⟨List.append_cancel_right h, rfl⟩

/-- The characters of a label up to its number. -/
private def headChars (body : String) (word : Word) : List Char :=
  (body ++ "_" ++ word.text).toList

private theorem endsInLetter_headChars (body : String) (word : Word) :
    EndsInLetter (headChars body word) := by
  cases word with
  | branch =>
      exact ⟨'f', ['i', '_'] ++ body.toList.reverse, by simp [headChars, Word.text], by decide⟩
  | alternative =>
      exact ⟨'e', ['s', 'l', 'e', '_'] ++ body.toList.reverse, by simp [headChars, Word.text],
        by decide⟩
  | loop =>
      exact ⟨'e', ['l', 'i', 'h', 'w', '_'] ++ body.toList.reverse,
        by simp [headChars, Word.text], by decide⟩

private theorem headChars_inj {body body' : String} {word word' : Word}
    (h : headChars body word = headChars body' word') : body = body' ∧ word = word' := by
  have hreverse := congrArg List.reverse h
  -- the words already differ in one of their last two letters
  have hword : word = word' := by
    cases word <;> cases word' <;> simp [headChars, Word.text] at hreverse ⊢
  subst hword
  have htext := String.toList_inj.mp h
  rw [String.append_assoc, String.append_assoc] at htext
  exact ⟨(String.append_left_inj _).mp htext, rfl⟩

/-- The characters of a label up to its ending. -/
private def stemChars (body : String) (word : Word) (number : Nat) (part? : Option Nat) :
    List Char :=
  headChars body word ++ (toString number).toList ++ (partText part?).toList

private theorem endsInDigit_stemChars (body : String) (word : Word) (number : Nat)
    (part? : Option Nat) : EndsInDigit (stemChars body word number part?) := by
  cases part? with
  | none =>
      rw [stemChars, partText, String.toList_empty, List.append_nil]
      exact endsInDigit_append_toString _ number
  | some part =>
      rw [stemChars, partText, String.toList_append, ← List.append_assoc]
      exact endsInDigit_append_toString _ part

private theorem stemChars_some (body : String) (word : Word) (number part : Nat) :
    stemChars body word number (some part) =
      headChars body word ++ (toString number).toList ++ "_c".toList ++
        (toString part).toList := by
  rw [stemChars, partText, String.toList_append, ← List.append_assoc]

private theorem endsInLetter_mark (chars : List Char) : EndsInLetter (chars ++ "_c".toList) :=
  ⟨'c', '_' :: chars.reverse, by simp, by decide⟩

/-- The name of a construct is not the name of a part of a condition. -/
private theorem headChars_ne_mark (body : String) (word : Word) (chars : List Char) :
    headChars body word ≠ chars ++ "_c".toList := by
  intro h
  have hreverse := congrArg List.reverse h
  cases word <;> simp [headChars, Word.text] at hreverse

private theorem stemChars_inj {body body' : String} {word word' : Word} {number number' : Nat}
    {part? part?' : Option Nat}
    (h : stemChars body word number part? = stemChars body' word' number' part?') :
    body = body' ∧ word = word' ∧ number = number' ∧ part? = part?' := by
  have hletter := endsInLetter_headChars body word
  have hletter' := endsInLetter_headChars body' word'
  cases part? with
  | none =>
      cases part?' with
      | none =>
          simp only [stemChars, partText, String.toList_empty, List.append_nil] at h
          obtain ⟨hhead, rfl⟩ := append_toString_inj hletter hletter' h
          obtain ⟨rfl, rfl⟩ := headChars_inj hhead
          exact ⟨rfl, rfl, rfl, rfl⟩
      | some part' =>
          rw [stemChars_some, stemChars, partText, String.toList_empty, List.append_nil] at h
          -- without their numbers, one of the two would end in the word and the other in the mark
          obtain ⟨hhead, -⟩ := append_toString_inj hletter (endsInLetter_mark _) h
          exact absurd hhead (headChars_ne_mark _ _ _)
  | some part =>
      cases part?' with
      | none =>
          rw [stemChars_some, stemChars, partText, String.toList_empty, List.append_nil] at h
          obtain ⟨hhead, -⟩ := append_toString_inj (endsInLetter_mark _) hletter' h
          exact absurd hhead.symm (headChars_ne_mark _ _ _)
      | some part' =>
          rw [stemChars_some, stemChars_some] at h
          -- first the number of the part is read, then the number of the construct
          obtain ⟨hstem, rfl⟩ :=
            append_toString_inj (endsInLetter_mark _) (endsInLetter_mark _) h
          have hname := List.append_cancel_right hstem
          obtain ⟨hhead, rfl⟩ := append_toString_inj hletter hletter' hname
          obtain ⟨rfl, rfl⟩ := headChars_inj hhead
          exact ⟨rfl, rfl, rfl, rfl⟩

/-- Labels with the same text are the same, and belong to bodies of the same name. -/
theorem Label.text_inj {body body' : String} {label label' : Label} :
    label.text body = label'.text body' ↔ body = body' ∧ label = label' := by
  constructor
  · intro h
    obtain ⟨word, number, part?, ending⟩ := label
    obtain ⟨word', number', part?', ending'⟩ := label'
    have hchars : ∀ body word number part? ending,
        (Label.text body ⟨word, number, part?, ending⟩).toList =
          stemChars body word number part? ++ ending.text.toList := by
      intro body word number part? ending
      simp [Label.text, stemChars, headChars, labelName, String.toList_append]
    rw [← String.toList_inj, hchars, hchars] at h
    obtain ⟨hstem, rfl⟩ := append_ending_inj (endsInDigit_stemChars ..)
      (endsInDigit_stemChars ..) h
    obtain ⟨rfl, rfl, rfl, rfl⟩ := stemChars_inj hstem
    exact ⟨rfl, rfl⟩
  · rintro ⟨rfl, rfl⟩
    rfl

/-- Before its ending a label has a digit. -/
theorem Label.exists_digit (body : String) (label : Label) :
    ∃ stem digit, (label.text body).toList = stem ++ digit :: label.ending.text.toList ∧
      digit.isDigit = true := by
  obtain ⟨word, number, part?, ending⟩ := label
  obtain ⟨digit, rest, hdigit, hisDigit⟩ := endsInDigit_stemChars body word number part?
  refine ⟨rest.reverse, digit, ?_, hisDigit⟩
  have hstem := congrArg List.reverse hdigit
  rw [List.reverse_reverse, List.reverse_cons] at hstem
  rw [List.append_cons, ← hstem]
  simp [Label.text, stemChars, headChars, labelName, String.toList_append]

end Shorthand
