import Shorthand.Proofs.Syntax.Grammar
import Shorthand.Proofs.Syntax.Pieces

/-!
# What is passed over

The dispatcher passes over tokens that start no statement, without a problem.  On a line this can
only be what stands at its end: the rest of it are the pieces of the statements, one after the other
(`dispatch_passes_over`).  Tokens are passed over exactly if there is no equals sign among them, and
the first of them cannot start a statement: it is neither a keyword of a statement nor a register,
no mark of an address and no comment.  What stands after the first one does not matter, so whole
statements are passed over too.

## Strategy

Only the first token by itself can start a statement that is no store (`any_starts_first`).
Longer candidates only start stores, by an equals sign, unless it stands right after a register,
which has started a statement already (`any_starts_later`).  So the tokens start no statement
exactly if they have the two properties (`startsNone_iff_isPassedOver`), and that they are
dispatched to none says the same (`dispatch_eq_nil_iff`).
-/

namespace Shorthand

variable {handlers : List Handler} {tokens before : List Token} {tok : Token}

/-! ## Tokens that start no statement -/

/-- The keywords that start a statement. -/
def statementWords : List String :=
  ["compile", "main", "func", "if", "else", "while", "end", "call", "int", "byte", "string", "var",
   "const"]

/-- Whether a statement starts with the token. -/
def Token.startsStatement (tok : Token) : Bool :=
  statementWords.any tok.isWord || tok.isRegister || tok.isAddressMark || tok.kind == .comment

/-- The tokens have no equals sign, and no statement starts with the first of them. -/
structure IsPassedOver (tokens : List Token) : Prop where
  lacksEquals : ∀ tok ∈ tokens, tok.isOp "=" = false
  lacksStart : ∀ first ∈ tokens.head?, first.startsStatement = false

theorem isRegister_of_startsStatement (h : tok.startsStatement = false) :
    tok.isRegister = false := by
  simp only [Token.startsStatement, Bool.or_eq_false_iff] at h
  exact h.1.1.2

/-- The first token starts a statement by itself, or as an equals sign without a target. -/
theorem any_starts_first (hlexeme : tok.IsLexeme) :
    Handler.all.any (Handler.starts ⟨[], tok⟩) = (tok.startsStatement || tok.isOp "=") := by
  have hmark : ∀ symbol ∈ operators, tok.is symbol = tok.isOp symbol := Token.is_eq_isOp hlexeme
  simp only [Handler.all, Handler.starts, Candidate.isWord, Candidate.single, declarationWords,
    Token.startsStatement, statementWords, Token.isWord, Token.isAddressMark, List.any_cons,
    List.any_nil, List.isEmpty_nil, List.length_nil, Nat.reduceBEq, Bool.true_and, Bool.false_and,
    Bool.or_false, Bool.not_false, Bool.and_true, hmark "=" (by decide), hmark "*" (by decide),
    hmark "&" (by decide)]
  ac_rfl

/-- With the first token no register, longer candidates start statements only as stores to a
variable, by an equals sign. -/
theorem any_starts_later (hlexeme : tok.IsLexeme) (hbefore : before.all Token.isRegister = false) :
    Handler.all.any (Handler.starts ⟨before, tok⟩) = tok.isOp "=" := by
  have hmark := Token.is_eq_isOp hlexeme "=" (by decide)
  have hnonempty : before.isEmpty = false := by
    cases before with
    | nil => cases hbefore
    | cons first more => rfl
  simp [Handler.all, Handler.starts, Candidate.isWord, Candidate.single, declarationWords, hmark,
    hbefore, hnonempty, -List.isEmpty_eq_false_iff]

theorem startsNone_cons : StartsNone handlers before (tok :: tokens) ↔
    handlers.any (Handler.starts ⟨before, tok⟩) = false ∧
      StartsNone handlers (tok :: before) tokens := by
  have hfind : handlers.find? (Handler.starts ⟨before, tok⟩) = none ↔
      handlers.any (Handler.starts ⟨before, tok⟩) = false := by
    rw [List.find?_eq_none, List.any_eq_false]
  constructor
  · rintro (_ | ⟨hnone, h⟩)
    exact ⟨hfind.mp hnone, h⟩
  · rintro ⟨hnone, h⟩
    exact .cons (hfind.mpr hnone) h

/-- After a token that is no register only an equals sign starts a statement. -/
theorem startsNone_later_iff (hlexemes : AllLexemes tokens)
    (hbefore : before.all Token.isRegister = false) :
    StartsNone Handler.all before tokens ↔ ∀ tok ∈ tokens, tok.isOp "=" = false := by
  induction tokens generalizing before with
  | nil => simp [StartsNone.nil]
  | cons tok tokens ih =>
      obtain ⟨hlexeme, hlexemes⟩ := allLexemes_cons.mp hlexemes
      have hlater : (tok :: before).all Token.isRegister = false := by
        rw [List.all_cons, hbefore, Bool.and_false]
      rw [startsNone_cons, any_starts_later hlexeme hbefore, ih hlexemes hlater,
        List.forall_mem_cons]

/-- Tokens start no statement exactly if they are of the kind that is passed over. -/
theorem startsNone_iff_isPassedOver (hlexemes : AllLexemes tokens) :
    StartsNone Handler.all [] tokens ↔ IsPassedOver tokens := by
  cases tokens with
  | nil => exact ⟨fun _ => ⟨nofun, nofun⟩, fun _ => .nil⟩
  | cons first tokens =>
      obtain ⟨hlexeme, hrest⟩ := allLexemes_cons.mp hlexemes
      have hlater : first.startsStatement = false →
          (StartsNone Handler.all [first] tokens ↔ ∀ tok ∈ tokens, tok.isOp "=" = false) := by
        intro hstart
        refine startsNone_later_iff hrest ?_
        simp [isRegister_of_startsStatement hstart]
      rw [startsNone_cons, any_starts_first hlexeme, Bool.or_eq_false_iff]
      constructor
      · rintro ⟨⟨hstart, hequals⟩, h⟩
        exact ⟨List.forall_mem_cons.mpr ⟨hequals, (hlater hstart).mp h⟩, by simpa using hstart⟩
      · rintro ⟨hequals, hstart⟩
        obtain ⟨hfirst, hequals⟩ := List.forall_mem_cons.mp hequals
        have hstart := hstart first rfl
        exact ⟨⟨hstart, hfirst⟩, (hlater hstart).mpr hequals⟩

/-! ## Lines -/

/-- Tokens are dispatched to no statement exactly if they start none. -/
theorem dispatch_eq_nil_iff :
    dispatch handlers tokens = .ok [] ↔ StartsNone handlers [] tokens := by
  constructor
  · intro h
    rcases opens_or_startsNone handlers [] tokens with
      hnone | ⟨front, tok, tail, handler, rfl, hopens⟩
    · exact hnone
    · rw [dispatch, hopens.dispatchOnto_eq] at h
      split at h
      · cases h
      · cases hlater : dispatch handlers (handler.segment tail).rest with
        | error problem =>
            rw [hlater] at h
            cases h
        | ok later =>
            rw [hlater] at h
            cases h
  · exact StartsNone.dispatchOnto_eq

/-- **Only the end of a line is passed over, and only if it starts no statement.**  If a line is
dispatched without a problem, its tokens are the pieces of its statements, each of which is
dispatched by itself as its statement, and after them what is passed over.  A line is passed over as
a whole exactly if it has no equals sign, and its first token is neither a keyword of a statement, a
register, a mark of an address nor a comment. -/
theorem dispatch_passes_over (line : String) :
    (∀ statements, dispatch Handler.all (lex line).tokens = .ok statements →
      ∃ pieces leftover, cut Handler.all (lex line).tokens = ⟨pieces, leftover⟩ ∧
        pieces.flatten ++ leftover = (lex line).tokens ∧
        List.Forall₂ (IsStatement Handler.all) pieces statements ∧ IsPassedOver leftover) ∧
      (dispatch Handler.all (lex line).tokens = .ok [] ↔ IsPassedOver (lex line).tokens) := by
  have hlexemes := allLexemes_lex line
  constructor
  · intro statements h
    refine ⟨_, _, rfl, flatten_cut _ _, forall₂_cut h, ?_⟩
    have hleftover : AllLexemes (cut Handler.all (lex line).tokens).leftover := by
      have hall := hlexemes
      rw [← flatten_cut Handler.all (lex line).tokens] at hall
      exact (allLexemes_append.mp hall).2
    exact (startsNone_iff_isPassedOver hleftover).mp (startsNone_leftover _ _)
  · rw [dispatch_eq_nil_iff, startsNone_iff_isPassedOver hlexemes]

/-- Of the line `end; x; end` only the first statement is dispatched.  The others are passed over
with the name between them, as they are without the first. -/
theorem close_passed_over :
    dispatch Handler.all (lex "end; x; end").tokens = .ok [.close] ∧
      (∃ pieces leftover, cut Handler.all (lex "end; x; end").tokens = ⟨pieces, leftover⟩ ∧
        pieces.flatten ++ leftover = (lex "end; x; end").tokens ∧
        List.Forall₂ (IsStatement Handler.all) pieces [.close] ∧ IsPassedOver leftover) ∧
      dispatch Handler.all (lex "x; end").tokens = .ok [] := by
  have hclose : dispatch Handler.all (lex "end; x; end").tokens = .ok [.close] := by decide +kernel
  have hpassed : IsPassedOver (lex "x; end").tokens := ⟨by decide +kernel, by decide +kernel⟩
  exact ⟨hclose, (dispatch_passes_over _).1 _ hclose, (dispatch_passes_over _).2.mpr hpassed⟩

end Shorthand
