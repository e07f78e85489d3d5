import Shorthand.Proofs.Flow.Guard
import Shorthand.Proofs.Syntax.Separated
import Shorthand.Proofs.Syntax.Spacing

/-!
# The grammar of conditions

A condition is written without grouping: tests of two registers are joined to clauses by `&&`, and
clauses are joined by `||`.  `IsClauses` says which tokens those are, and which tests stand in them.
Exactly such tokens are accepted (`readCondition_ok_iff_isClauses`), and the condition they are read
as associates to the left, is written with the same tokens and holds if all tests of some clause do
(`condition_accepted_by_grammar`).

## Strategy

A reader of either level splits its tokens at the mark, reads the parts and joins what it read from
the left, and `joined_ok_iff` says of both what this comes to.  A test holds neither mark and a
clause no `||`, so the parts are the tests of the clause, or the clauses.

What a condition made from the left is written with, and when it holds, does not depend on how the
tests are grouped: the tokens are those of the parts with the marks between them
(`tokens_of_joined?`), and the values of the parts are combined from the left (`holds_of_clause?`,
`holds_of_clauses?`).
-/

namespace Shorthand

open Machine

/-! ## The grammar -/

/-- The tokens of a comparison of two registers. -/
inductive IsTest : List Token → Comparison → Prop where
  | registers {a mark b : Token} {cmp : Comparator} (ha : a.isRegister = true)
      (hmark : mark.isOp cmp.symbol = true) (hb : b.isRegister = true) :
      IsTest [a, mark, b] ⟨a.text, cmp, b.text⟩

/-- The tokens of tests joined by `&&`. -/
abbrev IsClause : List Token → List Comparison → Prop := Separated IsTest "&&"

/-- The tokens of clauses joined by `||`. -/
abbrev IsClauses : List Token → List (List Comparison) → Prop := Separated IsClause "||"

/-! ## Conditions by their clauses -/

namespace Comparison

/-- The condition that is only the comparison. -/
def condition (test : Comparison) : Condition := .compare test.a test.cmp test.b

/-- Whether the comparison holds when the registers have the given values. -/
def holds (read : Register → Int) (test : Comparison) : Bool :=
  test.cmp.holds (read test.a) (read test.b)

end Comparison

namespace Condition

/-- Conditions joined from the left, if there are any. -/
def joined? (join : Condition → Condition → Condition) : List Condition → Option Condition
  | [] => none
  | first :: rest => some (rest.foldl join first)

/-- The conjunction of tests, associated to the left. -/
def clause? (tests : List Comparison) : Option Condition :=
  joined? .both (tests.map Comparison.condition)

/-- The disjunction of the conjunctions of the clauses, all associated to the left. -/
def clauses? (clauses : List (List Comparison)) : Option Condition := do
  joined? .either (← clauses.mapM clause?)

variable {join : Condition → Condition → Condition} {parts : List Condition} {cond : Condition}

theorem joinLeft_ok_iff : joinLeft join parts = .ok cond ↔ joined? join parts = some cond := by
  cases parts <;> simp [joinLeft, joined?, failWith]

/-- A condition is written with the tokens of the parts that it is joined from. -/
theorem tokens_of_joined? {symbol : String}
    (hjoin : ∀ lhs rhs, (join lhs rhs).tokens = lhs.tokens ++ .mark symbol :: rhs.tokens)
    (h : joined? join parts = some cond) :
    cond.tokens = [.mark symbol].intercalate (parts.map tokens) := by
  cases parts with
  | nil => cases h
  | cons first rest =>
      obtain rfl := Option.some.inj h
      clear h
      -- the first part grows by one part after the other
      induction rest generalizing first with
      | nil => simp
      | cons next rest ih =>
          rw [List.foldl_cons, ih, List.map_cons, List.map_cons, List.map_cons, hjoin]
          cases rest <;> simp

theorem holds_of_joined?_both (h : joined? .both parts = some cond) (read : Register → Int) :
    cond.holds read = parts.all fun part => part.holds read := by
  cases parts with
  | nil => cases h
  | cons first rest =>
      obtain rfl := Option.some.inj h
      clear h
      induction rest generalizing first with
      | nil => simp
      | cons next rest ih =>
          rw [List.foldl_cons, ih, List.all_cons, List.all_cons, List.all_cons, ← Bool.and_assoc]
          rfl

theorem holds_of_joined?_either (h : joined? .either parts = some cond) (read : Register → Int) :
    cond.holds read = parts.any fun part => part.holds read := by
  cases parts with
  | nil => cases h
  | cons first rest =>
      obtain rfl := Option.some.inj h
      clear h
      induction rest generalizing first with
      | nil => simp
      | cons next rest ih =>
          rw [List.foldl_cons, ih, List.any_cons, List.any_cons, List.any_cons, ← Bool.or_assoc]
          rfl

/-- A clause is written with the tokens of its tests. -/
theorem tokens_of_clause? {tests : List Comparison} (h : clause? tests = some cond) :
    cond.tokens = [.mark "&&"].intercalate (tests.map fun test => test.condition.tokens) := by
  rw [tokens_of_joined? (fun _ _ => rfl) h, List.map_map]
  rfl

/-- A clause holds if all of its tests do. -/
theorem holds_of_clause? {tests : List Comparison} (h : clause? tests = some cond)
    (read : Register → Int) : cond.holds read = tests.all fun test => test.holds read := by
  rw [holds_of_joined?_both h, List.all_map]
  rfl

theorem mapM_clause?_iff {clauses : List (List Comparison)} :
    clauses.mapM clause? = some parts ↔
      List.Forall₂ (fun tests part => clause? tests = some part) clauses parts := by
  induction clauses generalizing parts with
  | nil => cases parts <;> simp
  | cons tests clauses ih =>
      rw [List.mapM_cons]
      cases htests : clause? tests with
      | none => cases parts <;> simp [htests]
      | some part =>
          cases hlater : clauses.mapM clause? <;> cases parts <;> simp [htests, ← ih, hlater]

theorem clauses?_eq_some_iff {clauses : List (List Comparison)} :
    clauses? clauses = some cond ↔ ∃ parts,
      List.Forall₂ (fun tests part => clause? tests = some part) clauses parts ∧
        joined? .either parts = some cond := by
  simp only [clauses?, Option.bind_eq_bind, Option.bind_eq_some_iff, mapM_clause?_iff]

/-- What is known of each clause by its tests is known of the parts. -/
theorem map_eq_of_forall₂ {β : Type} {clauses : List (List Comparison)} {f : Condition → β}
    {g : List Comparison → β} (hpart : ∀ tests part, clause? tests = some part → f part = g tests)
    (h : List.Forall₂ (fun tests part => clause? tests = some part) clauses parts) :
    parts.map f = clauses.map g := by
  induction h with
  | nil => rfl
  | cons hfirst _ ih => rw [List.map_cons, List.map_cons, hpart _ _ hfirst, ih]

/-- A condition is written with the tokens of its clauses. -/
theorem tokens_of_clauses? {clauses : List (List Comparison)} (h : clauses? clauses = some cond) :
    cond.tokens = [.mark "||"].intercalate (clauses.map fun tests =>
      [.mark "&&"].intercalate (tests.map fun test => test.condition.tokens)) := by
  obtain ⟨parts, hparts, hjoin⟩ := clauses?_eq_some_iff.mp h
  rw [tokens_of_joined? (fun _ _ => rfl) hjoin,
    map_eq_of_forall₂ (fun _ _ => tokens_of_clause?) hparts]

/-- A condition holds if all tests of some clause do. -/
theorem holds_of_clauses? {clauses : List (List Comparison)} (h : clauses? clauses = some cond)
    (read : Register → Int) :
    cond.holds read = clauses.any fun tests => tests.all fun test => test.holds read := by
  obtain ⟨parts, hparts, hjoin⟩ := clauses?_eq_some_iff.mp h
  have hvalues := map_eq_of_forall₂ (fun _ _ hpart => holds_of_clause? hpart read) hparts
  calc cond.holds read
      = parts.any fun part => part.holds read := holds_of_joined?_either hjoin read
    _ = (parts.map fun part => part.holds read).any id := by rw [List.any_map]; rfl
    _ = clauses.any fun tests => tests.all fun test => test.holds read := by
        rw [hvalues, List.any_map]; rfl

end Condition

/-! ## Reading tests, clauses and conditions -/

variable {tokens : List Token} {cond : Condition}

theorem Machine.Comparator.ofSymbol?_eq_some_iff {text : String} {cmp : Comparator} :
    Comparator.ofSymbol? text = some cmp ↔ text = cmp.symbol := by
  constructor
  · intro h
    have hsymbol := List.find?_some h
    exact (beq_iff_eq.mp hsymbol).symm
  · rintro rfl
    cases cmp <;> rfl

theorem readComparison_ok_iff :
    readComparison tokens = .ok cond ↔ ∃ test, IsTest tokens test ∧ test.condition = cond := by
  constructor
  · intro h
    unfold readComparison at h
    split at h
    · cases h
    obtain ⟨⟨name, more⟩, hfirst, h⟩ := bind_eq_ok_iff.mp h
    obtain ⟨a, rfl, ha, rfl⟩ := readRegister_ok_iff.mp hfirst
    cases more with
    | nil => cases h
    | cons mark more =>
        dsimp only at h
        split at h
        · cases h
        · rename_i cmp hcmp
          obtain ⟨text, hsecond, rfl⟩ := whole_ok_iff.mp h
          obtain ⟨b, rfl, hb, rfl⟩ := readRegister_ok_iff.mp hsecond
          obtain ⟨hkind, hsymbol⟩ := Option.ite_none_right_eq_some.mp hcmp
          refine ⟨_, .registers ha ?_ hb, rfl⟩
          simp only [Token.isOp, hkind, Bool.true_and, beq_iff_eq]
          exact Comparator.ofSymbol?_eq_some_iff.mp hsymbol
  · rintro ⟨_, ⟨ha, hmark, hb⟩, rfl⟩
    rw [Token.isOp_iff] at hmark
    simp [readComparison, readRegister, ha, hb, hmark, Comparator.ofSymbol?_eq_some_iff.mpr rfl,
      noMore, Comparison.condition, bind, Except.bind, pure, Except.pure]

/-- A test holds no mark that joins tests or clauses. -/
theorem IsTest.lacks {test : Comparison} (h : IsTest tokens test) {symbol : String}
    (hsymbol : symbol ∈ ["&&", "||"]) : ∀ tok ∈ tokens, tok.isOp symbol = false := by
  obtain @⟨a, mark, b, cmp, ha, hmark, hb⟩ := h
  have hregister : ∀ tok : Token, tok.isRegister = true → tok.isOp symbol = false := by
    intro tok htok
    simp only [Token.isRegister, Bool.and_eq_true, beq_iff_eq] at htok
    simp [Token.isOp, htok]
  have hcmp : ∀ symbol ∈ ["&&", "||"], cmp.symbol ≠ symbol := by
    cases cmp <;> decide
  have hne : cmp.symbol ≠ symbol := hcmp symbol hsymbol
  rw [Token.isOp_iff] at hmark
  intro tok htok
  simp only [List.mem_cons, List.not_mem_nil, or_false] at htok
  rcases htok with rfl | rfl | rfl
  · exact hregister _ ha
  · simp [Token.isOp, hmark, hne]
  · exact hregister _ hb

/-- Parts that stand for something else are parts that stand for that, one by one. -/
theorem separated_exists_iff {α β : Type} {Part : List Token → α → Prop} {R : α → β → Prop}
    {symbol : String} {results : List β} :
    Separated (fun part result => ∃ value, Part part value ∧ R value result) symbol tokens results ↔
      ∃ values, Separated Part symbol tokens values ∧ List.Forall₂ R values results := by
  constructor
  · intro h
    induction h with
    | last h =>
        obtain ⟨value, hpart, hresult⟩ := h
        exact ⟨[value], .last hpart, .cons hresult .nil⟩
    | cons h hmark _ ih =>
        obtain ⟨value, hpart, hresult⟩ := h
        obtain ⟨values, hparts, hresults⟩ := ih
        exact ⟨value :: values, .cons hpart hmark hparts, .cons hresult hresults⟩
  · rintro ⟨values, h, hresults⟩
    induction h generalizing results with
    | last h =>
        cases hresults with
        | cons hresult hnone =>
            cases hnone
            exact .last ⟨_, h, hresult⟩
    | cons h hmark _ ih =>
        cases hresults with
        | cons hresult hresults => exact .cons ⟨_, h, hresult⟩ hmark (ih hresults)

/-- Parts are read one by one and joined from the left. -/
theorem joined_ok_iff {Part : List Token → Condition → Prop} {symbol : String}
    {read : List Token → Except Problem Condition} {join : Condition → Condition → Condition}
    (hpart : ∀ part value, Part part value → ∀ tok ∈ part, tok.isOp symbol = false)
    (hread : ∀ part value, read part = .ok value ↔ Part part value) :
    (do joinLeft join (← (splitAtOp symbol tokens).mapM read)) = .ok cond ↔
      ∃ parts, Separated Part symbol tokens parts ∧ Condition.joined? join parts = some cond := by
  simp only [bind_eq_ok_iff, Condition.joinLeft_ok_iff,
    mapM_splitAtOp_ok_iff hpart fun part value _ => hread part value]

theorem readConjunction_ok_iff :
    readConjunction tokens = .ok cond ↔
      ∃ tests, IsClause tokens tests ∧ Condition.clause? tests = some cond := by
  have hlacks : ∀ part value, (∃ test, IsTest part test ∧ test.condition = value) →
      ∀ tok ∈ part, tok.isOp "&&" = false := by
    rintro part value ⟨test, htest, -⟩
    exact htest.lacks (by decide)
  have hmap : ∀ tests parts, List.Forall₂ (fun test part => Comparison.condition test = part)
      tests parts ↔ tests.map Comparison.condition = parts := by
    intro tests parts
    rw [← List.forall₂_map_left_iff, List.forall₂_eq_eq_eq]
  rw [readConjunction, joined_ok_iff hlacks fun _ _ => readComparison_ok_iff]
  simp only [separated_exists_iff, hmap, Condition.clause?]
  constructor
  · rintro ⟨_, ⟨tests, htests, rfl⟩, hjoin⟩
    exact ⟨tests, htests, hjoin⟩
  · rintro ⟨tests, htests, hjoin⟩
    exact ⟨_, ⟨tests, htests, rfl⟩, hjoin⟩

theorem readCondition_ok_iff_isClauses :
    readCondition tokens = .ok cond ↔
      ∃ clauses, IsClauses tokens clauses ∧ Condition.clauses? clauses = some cond := by
  have hlacks : ∀ part value,
      (∃ tests, IsClause part tests ∧ Condition.clause? tests = some value) →
        ∀ tok ∈ part, tok.isOp "||" = false := by
    rintro part value ⟨tests, htests, -⟩
    exact htests.lacks (fun _ _ htest => htest.lacks (by decide)) (by decide)
  -- no tokens at all are split into one empty part, which is refused as well
  have hread : readCondition tokens = .ok cond ↔
      (do joinLeft .either (← (splitAtOp "||" tokens).mapM readConjunction)) = .ok cond := by
    cases tokens with
    | nil => simp [readCondition, failWith, splitAtOp, readConjunction, readComparison, bind,
        Except.bind]
    | cons tok tokens => rfl
  rw [hread, joined_ok_iff hlacks fun _ _ => readConjunction_ok_iff]
  simp only [separated_exists_iff, Condition.clauses?_eq_some_iff]
  constructor
  · rintro ⟨parts, ⟨clauses, hclauses, hparts⟩, hjoin⟩
    exact ⟨clauses, hclauses, parts, hparts, hjoin⟩
  · rintro ⟨clauses, hclauses, parts, hparts, hjoin⟩
    exact ⟨parts, ⟨clauses, hclauses, hparts⟩, hjoin⟩

/-! ## What a condition says -/

/-- Parts that can all be made into something else are made into some of it. -/
theorem Separated.exists_forall₂ {α β : Type} {Part : List Token → α → Prop} {R : α → β → Prop}
    {symbol : String} {values : List α} (h : Separated Part symbol tokens values)
    (hpart : ∀ part value, Part part value → ∃ result, R value result) :
    ∃ first rest, List.Forall₂ R values (first :: rest) := by
  induction h with
  | last h =>
      obtain ⟨result, hresult⟩ := hpart _ _ h
      exact ⟨result, [], .cons hresult .nil⟩
  | cons h _ _ ih =>
      obtain ⟨result, hresult⟩ := hpart _ _ h
      obtain ⟨next, rest, hresults⟩ := ih
      exact ⟨result, next :: rest, .cons hresult hresults⟩

theorem exists_clause? {tests : List Comparison} (h : IsClause tokens tests) :
    ∃ cond, Condition.clause? tests = some cond := by
  cases h <;> exact ⟨_, rfl⟩

theorem exists_clauses? {clauses : List (List Comparison)} (h : IsClauses tokens clauses) :
    ∃ cond, Condition.clauses? clauses = some cond := by
  obtain ⟨first, rest, hparts⟩ := h.exists_forall₂ fun _ _ => exists_clause?
  exact ⟨_, Condition.clauses?_eq_some_iff.mpr ⟨_, hparts, rfl⟩⟩

/-- Parts are the texts of what they stand for, with the mark between them. -/
theorem Separated.shape_eq {α : Type} {Part : List Token → α → Prop} {symbol : String}
    {values : List α} {f : α → List Token} (h : Separated Part symbol tokens values)
    (hpart : ∀ part value, Part part value → part.map Token.shape = (f value).map Token.shape) :
    tokens.map Token.shape = ([.mark symbol].intercalate (values.map f)).map Token.shape := by
  induction h with
  | last h => simpa using hpart _ _ h
  | @cons mark tokens rest value values h hmark hrest ih =>
      obtain ⟨next, more, rfl⟩ : ∃ next more, values = next :: more := by
        cases hrest <;> exact ⟨_, _, rfl⟩
      have hshape : mark.shape = (Token.mark symbol).shape := by
        rw [Token.isOp_iff] at hmark
        simp [Token.shape, hmark]
      rw [List.map_cons, List.map_cons, List.intercalate_cons_cons, ← List.map_cons (f := f)]
      simp [hpart _ _ h, hshape, ih]

theorem IsTest.shape_eq {test : Comparison} (h : IsTest tokens test) :
    tokens.map Token.shape = test.condition.tokens.map Token.shape := by
  obtain ⟨ha, hmark, hb⟩ := h
  simp only [Token.isRegister, Token.isOp, Bool.and_eq_true, beq_iff_eq] at ha hmark hb
  simp [Token.shape, Comparison.condition, Condition.tokens, ha, hmark, hb]

/-- **Conditions are accepted exactly by their grammar.**  Tokens are read as a condition if and
only if they are clauses joined by `||`, which are tests of two registers joined by `&&`.  The
condition is the disjunction of the conjunctions of these tests, all associated to the left, it is
written with the same tokens, and whatever the registers hold, it is true if and only if all tests
of some clause are. -/
theorem condition_accepted_by_grammar (tokens : List Token) :
    ((∃ cond, readCondition tokens = .ok cond) ↔ ∃ clauses, IsClauses tokens clauses) ∧
      ∀ clauses, IsClauses tokens clauses → ∃ cond, readCondition tokens = .ok cond ∧
        Condition.clauses? clauses = some cond ∧
        cond.tokens.map Token.shape = tokens.map Token.shape ∧
        ∀ read,
          cond.holds read = clauses.any fun tests => tests.all fun test => test.holds read := by
  have hread : ∀ clauses, IsClauses tokens clauses →
      ∃ cond, readCondition tokens = .ok cond ∧ Condition.clauses? clauses = some cond := by
    intro clauses hclauses
    obtain ⟨cond, hcond⟩ := exists_clauses? hclauses
    exact ⟨cond, readCondition_ok_iff_isClauses.mpr ⟨clauses, hclauses, hcond⟩, hcond⟩
  refine ⟨⟨?_, ?_⟩, ?_⟩
  · rintro ⟨cond, hcond⟩
    obtain ⟨clauses, hclauses, -⟩ := readCondition_ok_iff_isClauses.mp hcond
    exact ⟨clauses, hclauses⟩
  · rintro ⟨clauses, hclauses⟩
    obtain ⟨cond, hcond, -⟩ := hread clauses hclauses
    exact ⟨cond, hcond⟩
  · intro clauses hclauses
    obtain ⟨cond, hcond, htree⟩ := hread clauses hclauses
    have hshape := hclauses.shape_eq fun _ _ hclause => hclause.shape_eq fun _ _ => IsTest.shape_eq
    refine ⟨cond, hcond, htree, ?_, Condition.holds_of_clauses? htree⟩
    rw [hshape, Condition.tokens_of_clauses? htree]

/-- The tokens of `r1 < r2 && r3 == r4 || r5 != r6`. -/
def mixedTokens : List Token :=
  [⟨.ident, "r1", 1⟩, ⟨.op, "<", 4⟩, ⟨.ident, "r2", 6⟩, ⟨.op, "&&", 9⟩, ⟨.ident, "r3", 12⟩,
    ⟨.op, "==", 15⟩, ⟨.ident, "r4", 18⟩, ⟨.op, "||", 21⟩, ⟨.ident, "r5", 24⟩, ⟨.op, "!=", 27⟩,
    ⟨.ident, "r6", 30⟩]

/-- The first two tests are taken together.  With an `&&` after them the tokens are no condition. -/
theorem mixedTokens_condition :
    (∃ cond, readCondition mixedTokens = .ok cond ∧
      cond = .either (.both (.compare "r1" .lt "r2") (.compare "r3" .eq "r4"))
        (.compare "r5" .ne "r6")) ∧
    ¬ ∃ clauses, IsClauses (mixedTokens ++ [⟨.op, "&&", 33⟩]) clauses := by
  constructor
  · have hfirst : IsTest [⟨.ident, "r1", 1⟩, ⟨.op, "<", 4⟩, ⟨.ident, "r2", 6⟩] ⟨"r1", .lt, "r2"⟩ :=
      .registers (by decide) (by decide) (by decide)
    have hsecond : IsTest [⟨.ident, "r3", 12⟩, ⟨.op, "==", 15⟩, ⟨.ident, "r4", 18⟩]
        ⟨"r3", .eq, "r4"⟩ := .registers (by decide) (by decide) (by decide)
    have hthird : IsTest [⟨.ident, "r5", 24⟩, ⟨.op, "!=", 27⟩, ⟨.ident, "r6", 30⟩]
        ⟨"r5", .ne, "r6"⟩ := .registers (by decide) (by decide) (by decide)
    have hand : Token.isOp ⟨.op, "&&", 9⟩ "&&" = true := by decide
    have hor : Token.isOp ⟨.op, "||", 21⟩ "||" = true := by decide
    have hclauses : IsClauses mixedTokens
        [[⟨"r1", .lt, "r2"⟩, ⟨"r3", .eq, "r4"⟩], [⟨"r5", .ne, "r6"⟩]] :=
      Separated.cons (Separated.cons hfirst hand (.last hsecond)) hor (.last (.last hthird))
    obtain ⟨cond, hread, htree, -⟩ := (condition_accepted_by_grammar mixedTokens).2 _ hclauses
    exact ⟨cond, hread, (Option.some.inj htree).symm⟩
  · rw [← (condition_accepted_by_grammar _).1]
    rintro ⟨cond, hcond⟩
    have hrefused : (readCondition (mixedTokens ++ [⟨.op, "&&", 33⟩])).isOk = false := by
      decide +kernel
    rw [hcond] at hrefused
    cases hrefused

end Shorthand
