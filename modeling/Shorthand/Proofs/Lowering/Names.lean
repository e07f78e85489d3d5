import Shorthand.Expression.Execute
import Shorthand.Proofs.Lowering.Definitions
import Shorthand.Proofs.Lowering.Storage
import Shorthand.Proofs.Symbols.History
import Shorthand.Proofs.Syntax.Grammar

/-!
# Names of a listing

A name is one lexeme that is neither a register nor a keyword.  The functions, the variables and the
constants of a source have such names, because every reader of a definition asks for one.  Constants
that are given to the compiler are not read, and nothing asks for their names, so a listing can
define a register.  `isName_definedNames_iff` tells exactly when it does not.

## Strategy

What a statement defines was read from a token of its line, and the tokens of a line are lexemes
(`isName_of_mem_parse`).  A run defines just what its statements define: the heads of its bodies,
the variables in the order of their declarations, and the constants of the block of constants, which
starts with those that were given (`mem_constants_of_lower`).
-/

namespace Shorthand

open Machine Lowering

/-! ## Names that are read -/

/-- The name that the statement defines. -/
def Statement.definedName? : Statement → Option String
  | block (.function name) _ => some name
  | declare declaration => some declaration.name
  | _ => none

/-- What the statement defines has a name. -/
def Statement.DefinesName (statement : Statement) : Prop :=
  ∀ name ∈ statement.definedName?, IsName name

section readers

variable {tokens : List Token}

theorem readName_isName (hlexemes : AllLexemes tokens) :
    Ensures (readName tokens) fun reading => IsName reading.1 := by
  refine ⟨fun {reading} hread => ?_⟩
  obtain ⟨tok, rfl, hname, htext⟩ := readName_ok_iff.mp hread
  rw [← htext]
  exact isName_of_isLexeme (hlexemes tok List.mem_cons_self) hname

theorem readSize_allLexemes (hlexemes : AllLexemes tokens) :
    Ensures (readSize tokens) fun reading => AllLexemes reading.2 := by
  refine ⟨fun {reading} hread => ?_⟩
  obtain ⟨front, -, rfl⟩ := (reads_size _ _ _ hlexemes).mp hread
  exact (allLexemes_append.mp hlexemes).2

theorem readSized_isName (width : Width) (hlexemes : AllLexemes tokens) :
    Ensures (readSized width tokens) fun declaration => IsName declaration.name := by
  unfold readSized
  split
  · exact .bind_of (readSize_allLexemes hlexemes) fun _ hrest =>
      .bind_of (readName_isName hrest) fun _ hname => .bind fun _ => .ok hname
  · refine .bind_of (readName_isName hlexemes) fun reading hname => ?_
    dsimp only
    repeat' split
    · exact .bind fun _ => .ok hname
    · exact .error
    · exact .ok hname

theorem readString_isName (hlexemes : AllLexemes tokens) :
    Ensures (readString tokens) fun declaration => IsName declaration.name := by
  refine .bind_of (readName_isName hlexemes) fun reading hname => .bind fun rest => ?_
  repeat' split
  · exact .bind fun _ => .ok hname
  · exact .error
  · exact .error

theorem readBuffer_isName (hlexemes : AllLexemes tokens) :
    Ensures (readBuffer tokens) fun declaration => IsName declaration.name :=
  .bind_of (readSize_allLexemes hlexemes) fun _ hrest =>
    .bind_of (readName_isName hrest) fun _ hname => .bind fun _ => .ok hname

theorem readConst_isName (hlexemes : AllLexemes tokens) :
    Ensures (readConst tokens) fun declaration => IsName declaration.name := by
  refine .bind_of (readName_isName hlexemes) fun reading hname => .bind fun rest => ?_
  split
  · exact .error
  · exact .ok hname

theorem readDeclaration_isName (word : String) (hlexemes : AllLexemes tokens) :
    Ensures (readDeclaration word tokens) fun declaration => IsName declaration.name := by
  unfold readDeclaration
  split
  · exact readSized_isName .word hlexemes
  · exact readSized_isName .byte hlexemes
  · exact readString_isName hlexemes
  · exact readBuffer_isName hlexemes
  · exact readConst_isName hlexemes

end readers

/-- Only the handlers of functions and of declarations read definitions. -/
theorem Statement.definesName_of_family {statement : Statement}
    (hfunction : statement.family ≠ .function) (hdeclaration : statement.family ≠ .declaration) :
    statement.DefinesName := by
  intro name hdefined
  unfold definedName? at hdefined
  split at hdefined
  · exact absurd rfl hfunction
  · exact absurd rfl hdeclaration
  · cases hdefined

theorem readFunction_definesName {segment : Segment} (hlexemes : AllLexemes segment.body) :
    Ensures (readFunction segment) Statement.DefinesName := by
  unfold readFunction
  split
  · exact .error
  split
  · rename_i tok rest hbody hname
    refine .bind fun _ => .ok ?_
    rintro _ ⟨⟩
    exact isName_of_isLexeme (hlexemes tok (hbody ▸ List.mem_cons_self)) hname
  · exact .error

/-- Every reader of a definition asks for a name. -/
theorem read_definesName (c : Candidate) {segment : Segment} (handler : Handler)
    (hlexemes : AllLexemes segment.body) :
    Ensures (handler.read c segment) Statement.DefinesName := by
  cases handler with
  | function => exact readFunction_definesName hlexemes
  | declaration =>
      refine .bind_of (readDeclaration_isName c.last.text hlexemes) fun declaration hname => .ok ?_
      rintro _ ⟨⟩
      exact hname
  | _ =>
      refine (read_family c segment _).mono fun statement hfamily => ?_
      exact Statement.definesName_of_family (by simp [hfamily]) (by simp [hfamily])

/-- What a source defines has a name. -/
theorem isName_of_mem_parse {handlers : List Handler} {source : Source} {name : String}
    (hname : name ∈ ((parse handlers source).statements.map Located.statement).filterMap
      Statement.definedName?) : IsName name := by
  obtain ⟨statement, hmem, hdefined⟩ := List.mem_filterMap.mp hname
  obtain ⟨located, hlocated, rfl⟩ := List.mem_map.mp hmem
  obtain ⟨handler, c, segment, line, hbody, hread⟩ := exists_read_of_mem_parse hlocated
  have hlexemes : AllLexemes segment.body := fun tok htok => isLexeme_of_mem_lex (hbody htok)
  exact (read_definesName c handler hlexemes).of_ok hread name hdefined

/-! ## Names that are lowered -/

/-- The name of the constant that the statement defines. -/
def Statement.constantName? : Statement → Option String
  | declare (.const name _) => some name
  | _ => none

namespace Lowering

variable [Interpreter] {predefined constants : Constants} {statements : List Located}
  {listing : Listing}
  {events : List Event} {name : String}

theorem mem_names_define {statement : Statement} :
    name ∈ (statement.define constants).map Prod.fst ↔
      name ∈ constants.map Prod.fst ∨ statement.constantName? = some name := by
  unfold Statement.define Statement.constantName?
  split
  · rename_i other value
    rw [Symbols.names_put]
    split
    · rename_i hdefined
      rw [Symbols.isSome_lookup_iff] at hdefined
      refine ⟨.inl, ?_⟩
      rintro (hmem | heq)
      · exact hmem
      · cases heq
        exact hdefined
    · simp [eq_comm]
  · simp

theorem mem_names_foldl_define {statements : List Statement} :
    name ∈ (statements.foldl Statement.define constants).map Prod.fst ↔
      name ∈ constants.map Prod.fst ∨ name ∈ statements.filterMap Statement.constantName? := by
  induction statements generalizing constants with
  | nil => simp
  | cons statement rest ih =>
      rw [List.foldl_cons, ih, mem_names_define, filterMap_cons_eq, List.mem_append,
        Option.mem_toList, or_assoc]

omit [Interpreter] in
theorem mem_names_expand {statement : Statement} :
    name ∈ (statement.expand predefined).filterMap Statement.constantName? ↔
      statement.constantName? = some name ∨
        statement.head? = some .compile ∧ name ∈ predefined.map Prod.fst := by
  have hgiven : (declarations predefined).filterMap Statement.constantName? =
      predefined.map Prod.fst := by
    rw [declarations, List.filterMap_map, ← List.filterMap_eq_map]
    rfl
  unfold Statement.expand
  split
  · rename_i hcompile
    rw [filterMap_cons_eq, List.mem_append, Option.mem_toList, hgiven]
    simp [hcompile]
  · rename_i hother
    simp [hother]

/-- The constants of a listing are those that were given and those that the source defines. -/
theorem mem_constants_of_lower (hlower : lower predefined statements = .ok (listing, events)) :
    name ∈ listing.symbols.constants.map Prod.fst ↔ name ∈ predefined.map Prod.fst ∨
      name ∈ (statements.map Located.statement).filterMap Statement.constantName? := by
  obtain ⟨final, hrun, hconclude⟩ := lowers_of_lower hlower
  obtain ⟨-, hcompiled, main, -, rfl⟩ := conclude_ok_iff.mp hconclude
  -- the block of constants was opened, so the constants that were given are defined
  have hopened : .compile ∈ (statements.map Located.statement).filterMap Statement.head? :=
    ((hrun.opened .compile).mp hcompiled).resolve_left (State.not_opened_start _)
  obtain ⟨opening, hopening, hhead⟩ := List.mem_filterMap.mp hopened
  have hconstants : (listingOf final.closed main).symbols.constants = final.symbols.constants :=
    congrArg Symbols.constants final.symbols_closed
  rw [hconstants, hrun.constants, mem_names_foldl_define, List.filterMap_flatMap, List.mem_flatMap]
  simp only [mem_names_expand]
  constructor
  · rintro (hstart | ⟨statement, hmem, hown | ⟨-, hgiven⟩⟩)
    · cases hstart
    · exact .inr (List.mem_filterMap.mpr ⟨statement, hmem, hown⟩)
    · exact .inl hgiven
  · rintro (hgiven | hown)
    · exact .inr ⟨opening, hopening, .inr ⟨hhead, hgiven⟩⟩
    · obtain ⟨statement, hmem, hown⟩ := List.mem_filterMap.mp hown
      exact .inr ⟨statement, hmem, .inl hown⟩

/-- The functions of a listing are those that the source opens. -/
theorem mem_functionNames_of_lower (hlower : lower predefined statements = .ok (listing, events))
    (hname : name ∈ listing.functionNames) :
    BlockHead.function name ∈ (statements.map Located.statement).filterMap Statement.head? := by
  obtain ⟨⟨name, nodes⟩, hmem, rfl⟩ := List.mem_map.mp hname
  have hbody : (BodyKind.function name, Node.leavesOf nodes) ∈ listing.bodies :=
    List.mem_cons_of_mem _ (List.mem_map.mpr ⟨_, hmem, rfl⟩)
  exact head_mem_of_mem_bodies hlower hbody

end Lowering

/-! ## Names of a compilation -/

/-- The names that a listing defines: those of its constants, its variables and its functions. -/
def Listing.definedNames (listing : Listing) : List String :=
  listing.symbols.constants.map Prod.fst ++
    (listing.symbols.declared.map Prod.fst ++ listing.functionNames)

theorem Statement.definedName?_of_variableName? {statement : Statement} {name : String}
    (h : statement.variableName? = some name) : statement.definedName? = some name := by
  cases statement with
  | declare declaration =>
      simp only [variableName?, Option.ite_none_right_eq_some] at h
      exact h.2
  | _ => cases h

theorem Statement.definedName?_of_constantName? {statement : Statement} {name : String}
    (h : statement.constantName? = some name) : statement.definedName? = some name := by
  unfold constantName? at h
  split at h
  · exact h
  · cases h

/-- **Which names are legal.**  In a program that is compiled, the functions and the variables have
legal names, and so has every constant that was not given to the compiler.  So all names of the
listing are legal exactly if those are that were given. -/
theorem isName_definedNames_iff [Interpreter] {compiler : Compiler} {source : Source}
    {listing : Listing} (hcompile : (compiler.compile source).outcome = .ok listing) :
    (∀ name ∈ listing.symbols.declared.map Prod.fst ++ listing.functionNames, IsName name) ∧
      (∀ name ∈ listing.symbols.constants.map Prod.fst,
        IsName name ∨ name ∈ compiler.predefined.map Prod.fst) ∧
      ((∀ name ∈ listing.definedNames, IsName name) ↔
        ∀ name ∈ compiler.predefined.map Prod.fst, IsName name) := by
  obtain ⟨events, hlower⟩ := lower_of_compile hcompile
  obtain ⟨-, -, -, hvariables, -⟩ := ordered_of_lower hlower
  have hdefined : ∀ {statement : Statement} {name : String},
      statement ∈ (parse compiler.handlers source).statements.map Located.statement →
        statement.definedName? = some name → IsName name :=
    fun hmem hname => isName_of_mem_parse (List.mem_filterMap.mpr ⟨_, hmem, hname⟩)
  have hread : ∀ name ∈ listing.symbols.declared.map Prod.fst ++ listing.functionNames,
      IsName name := by
    intro name hname
    rcases List.mem_append.mp hname with hvariable | hfunction
    · rw [hvariables] at hvariable
      obtain ⟨statement, hmem, hname⟩ := List.mem_filterMap.mp hvariable
      exact hdefined hmem (Statement.definedName?_of_variableName? hname)
    · obtain ⟨statement, hmem, hhead⟩ :=
        List.mem_filterMap.mp (mem_functionNames_of_lower hlower hfunction)
      obtain ⟨head, colon⟩ | _ := statement <;> cases hhead
      exact hdefined hmem rfl
  have hconstants : ∀ name ∈ listing.symbols.constants.map Prod.fst,
      IsName name ∨ name ∈ compiler.predefined.map Prod.fst := by
    intro name hname
    rcases (mem_constants_of_lower hlower).mp hname with hgiven | hown
    · exact .inr hgiven
    · obtain ⟨statement, hmem, hname⟩ := List.mem_filterMap.mp hown
      exact .inl (hdefined hmem (Statement.definedName?_of_constantName? hname))
  refine ⟨hread, hconstants, fun hall name hgiven => ?_, fun hgiven name hname => ?_⟩
  · exact hall name (List.mem_append_left _ ((mem_constants_of_lower hlower).mpr (.inl hgiven)))
  · rcases List.mem_append.mp hname with hconstant | hother
    · exact (hconstants name hconstant).elim id (hgiven name)
    · exact hread name hother

/-- A program without definitions of its own. -/
def plainProgram : String := "compile:\nmain:\nend\n"

/-- The program with a constant that has the name of a register. -/
def registerReport : Report :=
  (Compiler.standard.predefine "r1" "5").compile (.ofText plainProgram)

/-- A constant that is given may have the name of a register, and then the listing defines the
register. -/
theorem registerReport_defines_register :
    ∃ listing, registerReport.outcome = .ok listing ∧ listing.definedNames = ["r1"] ∧
      ¬ ∀ name ∈ listing.definedNames, IsName name := by
  have hnames : (registerReport.outcome.toOption.map Listing.definedNames) = some ["r1"] := by
    decide +kernel
  cases hcompile : registerReport.outcome with
  | error rejection => simp [hcompile, Except.toOption] at hnames
  | ok listing =>
      have hdefined : listing.definedNames = ["r1"] := by
        simpa [hcompile, Except.toOption] using hnames
      have hregister : ¬ IsName "r1" := fun hname => absurd hname.2 (by decide)
      refine ⟨listing, rfl, hdefined, fun hall => hregister ?_⟩
      exact (isName_definedNames_iff hcompile).2.2.mp hall "r1" List.mem_cons_self

end Shorthand
