import Shorthand.Proofs.Syntax.ConstantLines

/-!
# Lines inserted into a source

A source is parsed line by line, and where a line stands matters only for the places that failures
are shown with.  `readLines` is what the lines hold, without places, and `parse_readLines` says that
a parse comes to just this.  So lines that are inserted into a source insert their own statements
into its statements, and nothing else changes (`parse_insert`): a line with a problem stops the
parse before or after them as it did without them.

`ofBytes_insert` does the same for the bytes of a source, of which only the lines before the first
one that is too long are read.
-/

namespace Shorthand

open Text

/-! ## Statements without places -/

/-- The statements of the lines before the first one with a problem, and the problem if there is
one. -/
def readLines (handlers : List Handler) : List String → List Statement × Option Problem
  | [] => ([], none)
  | raw :: rest =>
      match parseLine handlers (trim raw) with
      | .error problem => ([], some problem)
      | .ok statements =>
          (statements ++ (readLines handlers rest).1, (readLines handlers rest).2)

section parse

variable (handlers : List Handler)

theorem readLines_append (first second : List String) :
    readLines handlers (first ++ second) =
      match (readLines handlers first).2 with
      | some problem => ((readLines handlers first).1, some problem)
      | none => ((readLines handlers first).1 ++ (readLines handlers second).1,
          (readLines handlers second).2) := by
  induction first with
  | nil => rfl
  | cons raw first ih =>
      cases hline : parseLine handlers (trim raw) with
      | error problem => simp [readLines, hline]
      | ok statements =>
          simp only [List.cons_append, readLines, hline, ih]
          cases (readLines handlers first).2 with
          | none => simp
          | some problem => rfl

theorem parseOnto_readLines (ending? : Option Problem) (done : List Located) (seen : Nat)
    (last : Place) (lines : List String) :
    (parseOnto handlers ending? done seen last lines).statements.map Located.statement =
        done.reverse.map Located.statement ++ (readLines handlers lines).1 ∧
      (parseOnto handlers ending? done seen last lines).failure?.map Failure.problem =
        (readLines handlers lines).2.or ending? := by
  induction lines generalizing done seen last with
  | nil => cases ending? <;> simp [parseOnto, readLines, Failure.on]
  | cons raw lines ih =>
      cases hline : parseLine handlers (trim raw) with
      | error problem => simp [parseOnto, readLines, hline, Failure.on]
      | ok statements =>
          have hrest := ih ((statements.map (Located.mk ⟨seen + 1, trim raw⟩)).reverse ++ done)
            (seen + 1) ⟨seen + 1, trim raw⟩
          simp only [parseOnto, readLines, hline]
          refine ⟨hrest.1.trans ?_, hrest.2⟩
          simp [Function.comp_def]

/-- What is parsed, without places. -/
theorem parse_readLines (source : Source) :
    (parse handlers source).statements.map Located.statement =
        (readLines handlers source.lines).1 ∧
      (parse handlers source).failure?.map Failure.problem =
        (readLines handlers source.lines).2.or source.ending? :=
  parseOnto_readLines handlers source.ending? [] 0 Place.start source.lines

variable {handlers} {before after inserted : List String} {line : String}
  {ending? : Option Problem} {opened additions : List Statement}

/-- Lines that are inserted after a line insert their statements after those of the line, unless
both parses end with the same problem. -/
theorem parse_insert (hline : parseLine handlers (trim line) = .ok opened)
    (hinserted : readLines handlers inserted = (additions, none)) :
    (∃ problem,
      (parse handlers ⟨before ++ line :: after, ending?⟩).failure?.map Failure.problem =
          some problem ∧
        (parse handlers ⟨before ++ line :: (inserted ++ after), ending?⟩).failure?.map
          Failure.problem = some problem) ∨
      (parse handlers ⟨before ++ line :: after, ending?⟩).failure? = none ∧
        (parse handlers ⟨before ++ line :: (inserted ++ after), ending?⟩).failure? = none ∧
        ∃ rest,
          (parse handlers ⟨before ++ line :: after, ending?⟩).statements.map Located.statement =
            (parse handlers ⟨before, none⟩).statements.map Located.statement ++
              (opened ++ rest) ∧
          (parse handlers ⟨before ++ line :: (inserted ++ after), ending?⟩).statements.map
              Located.statement =
            (parse handlers ⟨before, none⟩).statements.map Located.statement ++
              (opened ++ (additions ++ rest)) := by
  have hfirst := parse_readLines handlers ⟨before ++ line :: after, ending?⟩
  have hsecond := parse_readLines handlers ⟨before ++ line :: (inserted ++ after), ending?⟩
  have hbefore := parse_readLines handlers ⟨before, none⟩
  simp only [readLines_append, readLines, hline, hinserted] at hfirst hsecond
  cases hproblem : (readLines handlers before).2 with
  | some problem =>
      rw [hproblem] at hfirst hsecond
      exact .inl ⟨problem, hfirst.2, hsecond.2⟩
  | none =>
      rw [hproblem] at hfirst hsecond
      cases hafter : (readLines handlers after).2.or ending? with
      | some problem =>
          exact .inl ⟨problem, hfirst.2.trans hafter, hsecond.2.trans hafter⟩
      | none =>
          refine .inr ⟨?_, ?_, (readLines handlers after).1, ?_, ?_⟩
          · simpa [hafter] using hfirst.2
          · simpa [hafter] using hsecond.2
          · rw [hfirst.1, hbefore.1]
          · rw [hsecond.1, hbefore.1]

end parse

/-! ## Lines of bytes -/

namespace Source

variable {bytes bytes' line : List UInt8} {before after inserted : List (List UInt8)}

/-- Nothing after a line that is too long is read. -/
theorem ofBytes_of_not_fits {front : List (List UInt8)} (hsplit : split bytes = front ++ after)
    (hlong : (front.all fits) = false) :
    ofBytes bytes = ⟨(front.takeWhile fits).map lineText, some .lineTooLong⟩ := by
  have htake : (front ++ after).takeWhile fits = front.takeWhile fits := by
    rw [List.takeWhile_append, if_neg]
    intro hlength
    have hself : front.takeWhile fits = front :=
      (List.takeWhile_prefix _).eq_of_length hlength
    rw [← hself, List.all_takeWhile] at hlong
    cases hlong
  have hall : (front ++ after).all fits = false := by rw [List.all_append, hlong, Bool.false_and]
  rw [ofBytes, hsplit, htake, hall]
  rfl

/-- Lines that are not too long are read, and then what follows on them. -/
theorem ofBytes_of_fits {front : List (List UInt8)} (hsplit : split bytes = front ++ after)
    (hfits : ∀ old ∈ front, fits old = true) :
    ofBytes bytes = ⟨front.map lineText ++ (after.takeWhile fits).map lineText,
      if after.all fits then none else some .lineTooLong⟩ := by
  have hall : front.all fits = true := List.all_eq_true.mpr hfits
  rw [ofBytes, hsplit, List.takeWhile_append_of_pos hfits, List.all_append, hall, Bool.true_and,
    List.map_append]
  rfl

/-- Lines that are inserted into the bytes of a source are inserted into what is read of it, unless
a line before them is too long, and then none of them is read. -/
theorem ofBytes_insert (hsplit : split bytes = before ++ line :: after)
    (hsplit' : split bytes' = before ++ line :: (inserted ++ after))
    (hfits : ∀ new ∈ inserted, fits new = true) :
    (∃ rest ending?,
      ofBytes bytes = ⟨before.map lineText ++ lineText line :: rest, ending?⟩ ∧
        ofBytes bytes' =
          ⟨before.map lineText ++ lineText line :: (inserted.map lineText ++ rest), ending?⟩) ∨
      ofBytes bytes' = ofBytes bytes ∧ (ofBytes bytes).ending? = some .lineTooLong := by
  rw [List.append_cons] at hsplit hsplit'
  cases hread : (before ++ [line]).all fits with
  | false =>
      refine .inr ⟨?_, ?_⟩
      · rw [ofBytes_of_not_fits hsplit' hread, ofBytes_of_not_fits hsplit hread]
      · rw [ofBytes_of_not_fits hsplit hread]
  | true =>
      have hfront : ∀ old ∈ before ++ [line], fits old = true := List.all_eq_true.mp hread
      rw [← List.append_assoc] at hsplit'
      refine .inl ⟨(after.takeWhile fits).map lineText,
        if after.all fits then none else some .lineTooLong, ?_, ?_⟩
      · rw [ofBytes_of_fits hsplit hfront, List.map_append, List.append_assoc]
        rfl
      · rw [ofBytes_of_fits hsplit' (List.forall_mem_append.mpr ⟨hfront, hfits⟩)]
        simp

end Source

end Shorthand
