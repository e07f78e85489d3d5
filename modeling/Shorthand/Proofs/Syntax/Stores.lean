import Shorthand.Proofs.Syntax.Accepted
import Shorthand.Proofs.Syntax.Pieces

/-!
# Which stores are accepted

The documented stores are those to a variable, by its name, and those to memory, where the mark of
an address stands before the register that holds the address.  A line is read as a store exactly if
it is one of these, or if it has an equals sign in the place of the mark (`isStatement_store_iff`).
So `= r1 = r2` stores to the address in `r1`, like `*r1 = r2`.

## Strategy

A statement is a store only if the handler of stores has read it (`read_family`), and what opens one
for this handler is a mark or an equals sign, with or without tokens before it.  Which of the forms
is read is decided by whether there are any: an equals sign alone is taken for a mark.  Tokens
before it have to be a single name.
-/

namespace Shorthand

open Machine

/-! ## The forms of stores -/

/-- The tokens after the equals sign of a store. -/
inductive IsStored (target : Target) : List Token → Statement → Prop where
  | source {castTokens : List Token} {cast? : Option Cast} {src : Token}
      (hcast : IsCast? castTokens cast?) (hsrc : src.isRegister = true) :
      IsStored target (castTokens ++ [src]) (.store (cast?.getD .word) src.text target)

/-- The tokens of a store to memory, after its mark. -/
inductive IsMemoryStore : List Token → Statement → Prop where
  | assigned {base equals : Token} {indexTokens source : List Token} {offset : Immediate}
      {statement : Statement} (hbase : base.isRegister = true)
      (hoffset : IsOffset indexTokens offset) (hequals : equals.isOp "=" = true)
      (h : IsStored (.memory base.text offset) source statement) :
      IsMemoryStore (base :: (indexTokens ++ equals :: source)) statement

/-- The tokens of a store. -/
inductive IsStore : List Token → Statement → Prop where
  | named {name equals : Token} {source : List Token} {statement : Statement}
      (hname : name.isName = true) (hequals : equals.isOp "=" = true)
      (h : IsStored (.variable name.text) source statement) :
      IsStore (name :: equals :: source) statement
  | memory {mark : Token} {tokens : List Token} {statement : Statement}
      (hmark : mark.isAddressMark = true) (h : IsMemoryStore tokens statement) :
      IsStore (mark :: tokens) statement

/-! ## Readers of stores -/

variable {tokens : List Token} {statement : Statement} {target : Target} {mark : Token}

theorem readStored_ok_iff (hlexemes : AllLexemes tokens) :
    readStored target tokens = .ok statement ↔ IsStored target tokens statement := by
  rw [readStored, bind_eq_ok_iff]
  constructor
  · rintro ⟨⟨cast?, rest⟩, hread, h⟩
    obtain ⟨castTokens, hcast, rfl, -⟩ := (readsOptional_cast _ _ _ hlexemes).mp hread
    obtain ⟨text, hread, rfl⟩ :=
      (whole_ok_iff (f := fun src => Statement.store (cast?.getD .word) src target)).mp h
    obtain ⟨src, rfl, hsrc, rfl⟩ := readRegister_ok_iff.mp hread
    exact .source hcast hsrc
  · rintro @⟨castTokens, cast?, src, hcast, hsrc⟩
    have hmark : src.isOp "(" = false := by
      simp only [Token.isRegister, Bool.and_eq_true, beq_iff_eq] at hsrc
      simp [Token.isOp, hsrc.1]
    refine ⟨(cast?, [src]), ?_, ?_⟩
    · exact (readsOptional_cast _ _ _ hlexemes).mpr
        ⟨castTokens, hcast, rfl, fun _ => by simpa [LacksMark] using hmark⟩
    · refine (whole_ok_iff (f := fun src => Statement.store (cast?.getD .word) src target)).mpr ?_
      exact ⟨src.text, readRegister_ok_iff.mpr ⟨src, rfl, hsrc, rfl⟩, rfl⟩

theorem readMemoryStore_ok_iff (hlexemes : AllLexemes tokens) :
    readMemoryStore mark tokens = .ok statement ↔ IsMemoryStore tokens statement := by
  rw [readMemoryStore, bind_eq_ok_iff]
  constructor
  · rintro ⟨⟨_, rest⟩, hread, h⟩
    obtain ⟨base, rfl, hbase, rfl⟩ := readRegister_ok_iff.mp hread
    obtain ⟨-, hlexemes⟩ := allLexemes_cons.mp hlexemes
    obtain ⟨⟨offset, rest⟩, hread, hassigned⟩ := bind_eq_ok_iff.mp h
    obtain ⟨indexTokens, hoffset, rfl, -⟩ := (readsOptional_index _ _ _ hlexemes).mp hread
    obtain ⟨-, hlexemes⟩ := allLexemes_append.mp hlexemes
    cases rest with
    | nil => cases hassigned
    | cons equals source =>
        obtain ⟨hlexeme, hlexemes⟩ := allLexemes_cons.mp hlexemes
        dsimp only at hassigned
        rw [Token.is_eq_isOp hlexeme _ (by decide)] at hassigned
        split at hassigned
        · rename_i hequals
          exact .assigned hbase hoffset hequals ((readStored_ok_iff hlexemes).mp hassigned)
        · cases hassigned
  · rintro @⟨base, equals, indexTokens, source, offset, _, hbase, hoffset, hequals, h⟩
    obtain ⟨-, hlexemes⟩ := allLexemes_cons.mp hlexemes
    have hindex : readIndex (indexTokens ++ equals :: source) = .ok (offset, equals :: source) := by
      refine (readsOptional_index _ _ _ hlexemes).mpr ⟨indexTokens, hoffset, rfl, ?_⟩
      rw [Token.isOp_iff] at hequals
      simp [LacksMark, Token.isOp, hequals]
    obtain ⟨-, hlexemes⟩ := allLexemes_append.mp hlexemes
    obtain ⟨hlexeme, hlexemes⟩ := allLexemes_cons.mp hlexemes
    refine ⟨(base.text, _), readRegister_ok_iff.mpr ⟨base, rfl, hbase, rfl⟩, ?_⟩
    refine bind_eq_ok_iff.mpr ⟨(offset, equals :: source), hindex, ?_⟩
    dsimp only
    rw [Token.is_eq_isOp hlexeme _ (by decide), if_pos hequals]
    exact (readStored_ok_iff hlexemes).mpr h

theorem readVariableStore_ok_iff {front : List Token} (hlexemes : AllLexemes tokens) :
    readVariableStore front tokens = .ok statement ↔ ∃ name, front = [name] ∧
      name.isName = true ∧ IsStored (.variable name.text) tokens statement := by
  unfold readVariableStore
  split
  · rename_i name
    cases hname : name.isName with
    | false => simp [failWith, hname]
    | true => simp [readStored_ok_iff hlexemes, hname]
  · rename_i hne
    constructor
    · intro h
      cases h
    · rintro ⟨name, rfl, -⟩
      exact absurd rfl (hne name)

/-! ## What opens a store -/

theorem find?_starts_mark (h : mark.isAddressMark = true ∨ mark.isOp "=" = true) :
    Handler.all.find? (Handler.starts ⟨[], mark⟩) = some .store := by
  have hmarks : ∀ text ∈ ["&", "*", "="],
      Handler.all.find? (Handler.starts ⟨[], ⟨.op, text, 0⟩⟩) = some .store := by decide +kernel
  obtain ⟨hkind, hmem⟩ : mark.kind = .op ∧ mark.text ∈ ["&", "*", "="] := by
    simpa [Token.isAddressMark, Token.isOp, ← and_or_left, or_assoc] using h
  obtain ⟨kind, text, col⟩ := mark
  obtain rfl : kind = .op := hkind
  rw [starts_col]
  exact hmarks text hmem

/-- A name and an equals sign after it open a store, since the name by itself opens nothing. -/
theorem opens_of_isName {name equals : Token} (hlexeme : name.IsLexeme) (hname : name.isName = true)
    (hequals : equals.isOp "=" = true) : Opens Handler.all [] [name] equals .store := by
  have hkind := Token.kind_of_isName hname
  have hregister := Token.isRegister_of_isName hname
  refine .later ?_ (.here ?_)
  · have hnone := find?_starts_name (isName_of_isLexeme hlexeme hname) name.col
    rwa [← hkind] at hnone
  · rw [Token.isOp_iff] at hequals
    simp [Handler.all, Handler.starts, Candidate.isWord, Candidate.single, declarationWords,
      Token.is, hequals, hregister]

/-- What opens a store ends in an equals sign, or is the mark of an address by itself. -/
theorem isOp_of_starts_store {front : List Token} (hlexeme : mark.IsLexeme)
    (h : Handler.store.starts ⟨front, mark⟩ = true) :
    mark.isOp "=" = true ∨ front = [] ∧ mark.isAddressMark = true := by
  have hmark : ∀ symbol ∈ operators, mark.is symbol = mark.isOp symbol := Token.is_eq_isOp hlexeme
  simp only [Handler.starts, Candidate.single, hmark "*" (by decide), hmark "&" (by decide),
    hmark "=" (by decide), Bool.or_eq_true, Bool.and_eq_true, List.isEmpty_iff] at h
  rcases h with ⟨hfront, haddress⟩ | ⟨hequals, -⟩
  · exact .inr ⟨hfront, by simpa [Token.isAddressMark] using haddress.symm⟩
  · exact .inl hequals

/-- A segment of a line without comments and semicolons is all of its tokens. -/
theorem segment_store_of_plain
    (hplain : ∀ tok ∈ tokens, tok.kind ≠ .comment ∧ tok.isOp ";" = false) :
    Handler.store.segment tokens = ⟨tokens, [], none⟩ := by
  have hinside : ∀ tok ∈ tokens, endsStatement [";"] tok = false := by
    intro tok htok
    obtain ⟨hkind, hend⟩ := hplain tok htok
    simpa [endsStatement, hkind, Token.isOp] using hend
  exact Segment.upTo_of_inside hinside

/-- Without tokens before the equals sign, it is taken for the mark of an address. -/
theorem read_store_ok_iff {front : List Token} (hlexemes : AllLexemes tokens) :
    Handler.store.read ⟨front.reverse, mark⟩ ⟨tokens, [], none⟩ = .ok statement ↔
      front = [] ∧ IsMemoryStore tokens statement ∨
        ∃ name, front = [name] ∧ name.isName = true ∧
          IsStored (.variable name.text) tokens statement := by
  cases front with
  | nil =>
      have hread : Handler.store.read ⟨[], mark⟩ ⟨tokens, [], none⟩ = readMemoryStore mark tokens :=
        rfl
      simp [hread, readMemoryStore_ok_iff hlexemes]
  | cons first more =>
      have hread : Handler.store.read ⟨(first :: more).reverse, mark⟩ ⟨tokens, [], none⟩ =
          readVariableStore (first :: more) tokens := by
        simp [Handler.read, Candidate.single]
      rw [hread, readVariableStore_ok_iff hlexemes]
      simp

variable {cast : Cast} {src : Register}

/-- A single store is opened by a candidate of its family, and the tokens after it have the form
that the candidate asks for. -/
theorem isStatement_store_iff_opens (hlexemes : AllLexemes tokens)
    (hplain : ∀ tok ∈ tokens, tok.kind ≠ .comment ∧ tok.isOp ";" = false) :
    IsStatement Handler.all tokens (.store cast src target) ↔ ∃ front tok tail,
      tokens = front ++ tok :: tail ∧ Opens Handler.all [] front tok .store ∧
        (front = [] ∧ IsMemoryStore tail (.store cast src target) ∨
          ∃ name, front = [name] ∧ name.isName = true ∧
            IsStored (.variable name.text) tail (.store cast src target)) := by
  have htail : ∀ {front tok tail}, tokens = front ++ tok :: tail →
      Handler.store.segment tail = ⟨tail, [], none⟩ ∧ AllLexemes tail := by
    rintro front tok tail rfl
    exact ⟨segment_store_of_plain fun other hother => hplain other (by simp [hother]),
      fun other hother => hlexemes other (by simp [hother])⟩
  rw [isStatement_iff_opens]
  constructor
  · rintro ⟨front, tok, tail, handler, heq, hopens, hread, -⟩
    obtain ⟨hsegment, hlexemes⟩ := htail heq
    obtain rfl : Handler.store = handler := (read_family _ _ handler).of_ok hread
    rw [hsegment, read_store_ok_iff hlexemes] at hread
    exact ⟨front, tok, tail, heq, hopens, hread⟩
  · rintro ⟨front, tok, tail, heq, hopens, hform⟩
    obtain ⟨hsegment, hlexemes⟩ := htail heq
    refine ⟨front, tok, tail, .store, heq, hopens, ?_, by rw [hsegment]⟩
    rw [hsegment]
    exact (read_store_ok_iff hlexemes).mpr hform

/-- **Stores are accepted by their grammar, and with an equals sign for the mark.**  Take the tokens
of a line that has neither a comment nor a semicolon.  They are read as one store, all of them,
exactly if they have one of the documented forms, or if they have the form of a store to memory with
an equals sign in the place of the mark.  The form tells which register is stored, how, and where:
to the variable of the name, or to the offset from the base, which is zero if there is none. -/
theorem isStatement_store_iff {line : String} (hlex : (lex line).tokens = tokens)
    (hplain : ∀ tok ∈ tokens, tok.kind ≠ .comment ∧ tok.isOp ";" = false) :
    IsStatement Handler.all tokens (.store cast src target) ↔
      IsStore tokens (.store cast src target) ∨
        ∃ equals rest, tokens = equals :: rest ∧ equals.isOp "=" = true ∧
          IsMemoryStore rest (.store cast src target) := by
  have hlexemes : AllLexemes tokens := hlex ▸ allLexemes_lex line
  rw [isStatement_store_iff_opens hlexemes hplain]
  clear hlex hplain
  constructor
  · rintro ⟨front, tok, tail, rfl, hopens, hform⟩
    have hopening := isOp_of_starts_store (hlexemes tok (by simp)) hopens.starts
    rcases hform with ⟨rfl, hmemory⟩ | ⟨name, rfl, hname, hstored⟩
    · rcases hopening with hequals | ⟨-, hmark⟩
      · exact .inr ⟨tok, tail, rfl, hequals, hmemory⟩
      · exact .inl (.memory hmark hmemory)
    · rcases hopening with hequals | ⟨hnil, -⟩
      · exact .inl (.named hname hequals hstored)
      · cases hnil
  · rintro (hstore | ⟨equals, rest, rfl, hequals, hmemory⟩)
    · cases hstore with
      | @named name equals source _ hname hequals hstored =>
          have hopens := opens_of_isName (hlexemes name (by simp)) hname hequals
          exact ⟨[name], equals, source, rfl, hopens, .inr ⟨name, rfl, hname, hstored⟩⟩
      | @memory mark rest _ hmark hmemory =>
          exact ⟨[], mark, rest, rfl, .here (find?_starts_mark (.inl hmark)), .inl ⟨rfl, hmemory⟩⟩
    · exact ⟨[], equals, rest, rfl, .here (find?_starts_mark (.inr hequals)), .inl ⟨rfl, hmemory⟩⟩

/-- The tokens of `= r1 = r2`. -/
def unmarkedTokens : List Token :=
  [⟨.op, "=", 1⟩, ⟨.ident, "r1", 3⟩, ⟨.op, "=", 6⟩, ⟨.ident, "r2", 8⟩]

/-- The tokens of `= r1 = r2` are read as a store to memory, though they have no form of a store. -/
theorem unmarkedTokens_isStatement :
    IsStatement Handler.all unmarkedTokens (.store .word "r2" (.memory "r1" (.number "0"))) ∧
      ∀ statement, ¬ IsStore unmarkedTokens statement := by
  constructor
  · have hlex : (lex "= r1 = r2").tokens = unmarkedTokens := by decide +kernel
    have hstored : IsStored (.memory "r1" (.number "0")) [⟨.ident, "r2", 8⟩]
        (.store .word "r2" (.memory "r1" (.number "0"))) := .source .missing (by decide)
    exact (isStatement_store_iff hlex (by decide)).mpr (.inr ⟨_, _, rfl, by decide,
      .assigned (by decide) .missing (by decide) hstored⟩)
  · intro statement hstore
    cases hstore with
    | named hname => cases hname
    | memory hmark => cases hmark

end Shorthand
