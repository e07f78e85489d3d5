import Shorthand.Proofs.Indexed.Operands
import Shorthand.Statement.Handler

/-!
# Reading statements by position

The bodies of the statements, each from a slice of the line that ends before its terminator.  Most
of the slices depend on counts: a body is cut where an operand, an offset or a cast ended.
-/

namespace Shorthand.Indexed

open Machine Attempt

variable {ε α : Type}

/-! ## Segments -/

/-- Goes on with the tokens from a position on, which are given too. -/
def segmentFrom (terminators : List String) (all : List Token) (position : Nat) :
    List Token → Attempt ε (List Token × Nat × Option String)
  | [] => .ok (all, all.length, none)
  | tok :: rest =>
      if tok.kind == .comment then do return (← sliceTo all position, position, none)
      else if tok.kind == .op && terminators.contains tok.text then do
        return (← sliceTo all position, position + 1, some tok.text)
      else segmentFrom terminators all (position + 1) rest

/-- The tokens of one statement, the number of tokens that belong to it, and its terminator. -/
def segment (terminators : List String) (tokens : List Token) :
    Attempt ε (List Token × Nat × Option String) :=
  segmentFrom terminators tokens 0 tokens

theorem segmentFrom_eq (terminators : List String) (before rest : List Token) :
    ∃ taken, rest = taken ++ (Segment.upTo terminators rest).rest ∧
      (segmentFrom terminators (before ++ rest) before.length rest : Attempt ε _) =
        .ok (before ++ (Segment.upTo terminators rest).body, before.length + taken.length,
          (Segment.upTo terminators rest).terminator?) := by
  induction rest generalizing before with
  | nil => exact ⟨[], rfl, by simp [segmentFrom, Segment.upTo]⟩
  | cons tok rest ih =>
      rw [segmentFrom]
      by_cases hcomment : (tok.kind == .comment) = true
      · refine ⟨[], ?_, ?_⟩ <;> simp [Segment.upTo, endsStatement, hcomment]
      by_cases hterminates : (tok.kind == .op && terminators.contains tok.text) = true
      · have hends : endsStatement terminators tok = true := by
          rw [endsStatement, hterminates, Bool.or_true]
        rw [if_neg hcomment, if_pos hterminates]
        refine ⟨[tok], ?_, ?_⟩ <;> simp [Segment.upTo, hends, hcomment]
      · have hinside : endsStatement terminators tok = false := by
          rw [endsStatement, Bool.eq_false_iff.mpr hcomment, Bool.eq_false_iff.mpr hterminates]
          rfl
        have hupTo : Segment.upTo terminators (tok :: rest) =
            ⟨tok :: (Segment.upTo terminators rest).body, (Segment.upTo terminators rest).rest,
              (Segment.upTo terminators rest).terminator?⟩ := by
          simp only [Segment.upTo, List.takeWhile_cons, List.dropWhile_cons, hinside,
            Bool.not_false, if_true]
          repeat' split
          all_goals rfl
        obtain ⟨taken, htaken, hfrom⟩ := ih (before ++ [tok])
        refine ⟨tok :: taken, ?_, ?_⟩
        · rw [hupTo, List.cons_append, ← htaken]
        · simp only [List.append_assoc, List.singleton_append, List.length_append,
            List.length_cons, List.length_nil, Nat.zero_add] at hfrom
          rw [if_neg hcomment, if_neg hterminates, hfrom, hupTo, List.length_cons]
          congr 3
          omega

theorem segment_eq (terminators : List String) (tokens : List Token) :
    ∃ taken, tokens = taken ++ (Segment.upTo terminators tokens).rest ∧
      (segment terminators tokens : Attempt ε _) =
        .ok ((Segment.upTo terminators tokens).body, taken.length,
          (Segment.upTo terminators tokens).terminator?) := by
  obtain ⟨taken, htaken, hfrom⟩ := segmentFrom_eq terminators [] tokens
  exact ⟨taken, htaken, by simpa [segment] using hfrom⟩

/-! ## Statements that start with a register -/

/-- Reads an operator and its operand after `rX = rY`, or nothing. -/
def operation (dst src : Register) (tokens : List Token) : Attempt Problem (Reading Statement) :=
  if tokens.length = 0 then return (.move dst src, tokens)
  else do
    let tok ← index tokens 0
    if tok.kind == .op then
      match Operator.ofSymbol? tok.text with
      | some op =>
          let (rhs, used) ← operand (← sliceFrom tokens 1)
          return (.operate dst src op rhs, ← sliceFrom tokens (used + 1))
      | none => safe (failWith .operatorUnknown [tok.text])
    else safe (failWith .trailing [joinTokens tokens])

theorem operation_eq (dst src : Register) (tokens : List Token) :
    operation dst src tokens = safe (readOperation dst src tokens) := by
  cases tokens with
  | nil => rfl
  | cons tok rest =>
      rw [operation, if_neg (by simp), index_zero, ok_bind, readOperation]
      by_cases hop : (tok.kind == .op) = true
      swap
      · rw [if_neg hop, if_neg hop]
      rw [if_pos hop, if_pos hop]
      cases Operator.ofSymbol? tok.text with
      | none => rfl
      | some op =>
          simp only [sliceFrom_succ, sliceFrom_zero, ok_bind, safe_bind]
          rcases operand_reads rest with
            ⟨problem, hattempt, hread⟩ | ⟨rhs, used, rest, rfl, hattempt, hread⟩
          · rw [hattempt, hread]
            rfl
          · simp [hattempt, hread]

/-- Reads what follows `&` or `*` on the right of an assignment. -/
def addressed (dst : Register) (cast? : Option Cast) (value tokens : List Token) :
    Attempt Problem (Reading Statement) :=
  if tokens.length = 0 then safe (failWith .expected ["name", joinTokens value])
  else do
    let tok ← index tokens 0
    if tok.isRegister then
      let (offset, used) ← offset (← sliceFrom tokens 1)
      return (.load dst (cast?.getD .word) tok.text offset, ← sliceFrom tokens (used + 1))
    else if cast?.isSome then safe (failWith .registerExpected [tok.print])
    else if tok.isName then return (.address dst tok.text, ← sliceFrom tokens 1)
    else safe (failWith .nameInvalid [tok.print])

theorem addressed_eq (dst : Register) (cast? : Option Cast) (value tokens : List Token) :
    addressed dst cast? value tokens = safe (readAddressed dst cast? value tokens) := by
  cases tokens with
  | nil => rfl
  | cons tok rest =>
      rw [addressed, if_neg (by simp), index_zero, ok_bind, readAddressed]
      simp only [sliceFrom_succ, sliceFrom_zero, ok_bind]
      by_cases hregister : tok.isRegister = true
      · rw [if_pos hregister, if_pos hregister, safe_bind]
        rcases offset_reads rest with
          ⟨problem, hattempt, hread⟩ | ⟨offset, used, rest, rfl, hattempt, hread⟩
        · rw [hattempt, hread]
          rfl
        · simp [hattempt, hread]
      · rw [if_neg hregister, if_neg hregister]
        repeat' split
        all_goals rfl

/-- Reads the right hand side of an assignment to a register. -/
def assigned (dst : Register) (value : List Token) : Attempt Problem (Reading Statement) :=
  if value.length = 0 then safe (failWith .expected ["value", dst ++ " ="])
  else do
    let first ← index value 0
    if first.isRegister then operation dst first.text (← sliceFrom value 1)
    else
      let (cast?, used) ← cast value
      let rest ← sliceFrom value used
      if rest.length = 0 then safe (failWith .expected ["value", joinTokens value])
      else
        let tok ← index rest 0
        if tok.is "&" || tok.is "*" then addressed dst cast? value (← sliceFrom rest 1)
        else
          match cast? with
          | some cast =>
              if tok.isName then
                return (.loadName dst tok.text (some cast), ← sliceFrom rest 1)
              else safe (failWith .nameInvalid [tok.print])
          | none =>
              let (imm, used) ← immediate rest
              let rest ← sliceFrom rest used
              match imm with
              | .name name => return (.loadName dst name none, rest)
              | _ => return (.loadImmediate dst imm, rest)

theorem assigned_eq (dst : Register) (value : List Token) :
    assigned dst value = safe (readAssigned dst value) := by
  cases value with
  | nil => rfl
  | cons first rest =>
      unfold assigned readAssigned
      rw [if_neg (by simp), index_zero, ok_bind]
      by_cases hregister : first.isRegister = true
      · simp only [hregister, if_true, sliceFrom_succ, sliceFrom_zero, ok_bind]
        exact operation_eq dst first.text rest
      simp only [if_neg hregister, safe_bind]
      generalize first :: rest = value
      rcases cast_reads value with
        ⟨problem, hattempt, hread⟩ | ⟨cast?, used, rest, rfl, hattempt, hread⟩
      · rw [hattempt, hread]
        rfl
      simp only [hattempt, hread, safe_ok, ok_bind, sliceFrom_length]
      cases rest with
      | nil => rfl
      | cons tok rest =>
          simp only [List.length_cons, Nat.succ_ne_zero, if_false, index_zero, ok_bind,
            sliceFrom_succ, sliceFrom_zero]
          by_cases haddressed : (tok.is "&" || tok.is "*") = true
          · rw [if_pos haddressed, if_pos haddressed]
            exact addressed_eq dst cast? _ rest
          rw [if_neg haddressed, if_neg haddressed]
          cases cast? with
          | some cast =>
              dsimp only
              split <;> rfl
          | none =>
              dsimp only
              rw [safe_bind]
              rcases immediate_reads (tok :: rest) with
                ⟨problem, hattempt, hread⟩ | ⟨imm, used, rest, heq, hattempt, hread⟩
              · rw [hattempt, hread]
                rfl
              · rw [hattempt, hread, heq]
                cases imm <;> simp

/-- Reads an assignment of any form to the register `dst`; `first` is its operator. -/
def update (dst : Register) (first : Token) (tokens : List Token) :
    Attempt Problem (Reading Statement) :=
  if first.is "=" then assigned dst tokens
  else if first.is "++" then return (stepStatement dst .add, tokens)
  else if first.is "--" then return (stepStatement dst .sub, tokens)
  else if isCompound first then
    match compoundOperator? first.text with
    | some op => do
        let (used, rhs) ← countOperand tokens
        -- The tokens are taken off before it is known whether there is an operand.
        let rest ← sliceFrom tokens used
        return (.operate dst dst op (← safe rhs), rest)
    | none => safe (failWith .operatorUnknown [first.text])
  else safe (failWith .operatorUnknown [first.print])

theorem update_eq (dst : Register) (first : Token) (tokens : List Token) :
    update dst first tokens = safe (readUpdate dst first tokens) := by
  unfold update readUpdate
  by_cases hassigned : first.is "=" = true
  · rw [if_pos hassigned, if_pos hassigned]
    exact assigned_eq dst tokens
  by_cases hup : first.is "++" = true
  · simp only [if_neg hassigned, if_pos hup, safe_ok, pure_eq]
  by_cases hdown : first.is "--" = true
  · simp only [if_neg hassigned, if_neg hup, if_pos hdown, safe_ok, pure_eq]
  simp only [if_neg hassigned, if_neg hup, if_neg hdown]
  by_cases hcompound : isCompound first = true
  swap
  · rw [if_neg hcompound, if_neg hcompound]
  rw [if_pos hcompound, if_pos hcompound]
  cases compoundOperator? first.text with
  | none => rfl
  | some op =>
      obtain ⟨used, rest, rhs, rfl, hattempt, hread⟩ := countOperand_counts tokens
      simp only [hattempt, hread, ok_bind, sliceFrom_length, safe_bind]
      cases rhs <;> rfl

/-- Reads what follows the register that a statement starts with. -/
def registerStatement (dst : Register) (tokens : List Token) : Attempt Problem Statement :=
  if tokens.length = 0 then safe (failWith .expected ["=", dst])
  else do
    let first ← index tokens 0
    let (statement, rest) ← update dst first (← sliceFrom tokens 1)
    safe (noMore rest)
    return statement

theorem registerStatement_eq (dst : Register) (tokens : List Token) :
    registerStatement dst tokens = safe (readRegisterStatement dst tokens) := by
  cases tokens with
  | nil => rfl
  | cons first rest =>
      rw [registerStatement, if_neg (by simp), readRegisterStatement]
      simp only [index_zero, sliceFrom_succ, sliceFrom_zero, ok_bind, update_eq, safe_bind,
        safe_pure, pure_eq]

/-! ## Stores -/

/-- Reads the source of a store, after the equals sign. -/
def stored (target : Target) (tokens : List Token) : Attempt Problem Statement := do
  let (cast?, used) ← cast tokens
  let rest ← sliceFrom tokens used
  let src ← register rest
  safe (noMore (← sliceFrom rest 1))
  return .store (cast?.getD .word) src target

theorem stored_eq (target : Target) (tokens : List Token) :
    stored target tokens = safe (readStored target tokens) := by
  unfold stored readStored
  rw [safe_bind]
  rcases cast_reads tokens with
    ⟨problem, hattempt, hread⟩ | ⟨cast?, used, rest, rfl, hattempt, hread⟩
  · rw [hattempt, hread]
    rfl
  simp only [hattempt, hread, safe_ok, ok_bind, sliceFrom_length, safe_bind]
  rcases register_reads rest with
    ⟨problem, hattempt, hread⟩ | ⟨src, tok, rest, rfl, hattempt, hread⟩
  · rw [hattempt, hread]
    rfl
  · simp only [hattempt, hread, safe_ok, ok_bind, sliceFrom_succ, sliceFrom_zero, safe_pure,
      pure_eq]

/-- Reads a store to memory, after the candidate that starts it. -/
def memoryStore (candidate tokens : List Token) : Attempt Problem Statement := do
  let base ← register tokens
  let (offset, used) ← offset (← sliceFrom tokens 1)
  let rest ← sliceFrom tokens (used + 1)
  if ← lacks rest 0 "=" then safe (failWith .expected ["=", joinTokens candidate ++ " " ++ base])
  else stored (.memory base offset) (← sliceFrom rest 1)

theorem memoryStore_eq (mark : Token) (tokens : List Token) :
    memoryStore [mark] tokens = safe (readMemoryStore mark tokens) := by
  unfold memoryStore readMemoryStore
  have hmark : joinTokens [mark] = mark.print := by simp [joinTokens]
  rw [safe_bind, hmark]
  rcases register_reads tokens with
    ⟨problem, hattempt, hread⟩ | ⟨base, tok, rest, rfl, hattempt, hread⟩
  · rw [hattempt, hread]
    rfl
  simp only [hattempt, hread, safe_ok, ok_bind, sliceFrom_succ, sliceFrom_zero, safe_bind]
  rcases offset_reads rest with
    ⟨problem, hattempt, hread⟩ | ⟨offset, used, rest, rfl, hattempt, hread⟩
  · rw [hattempt, hread]
    rfl
  simp only [hattempt, hread, safe_ok, ok_bind, sliceFrom_length]
  cases rest with
  | nil => rfl
  | cons tok rest =>
      by_cases hequals : tok.is "=" = true
      · simp only [lacks_zero, ok_bind, hequals, Bool.not_true, sliceFrom_succ, sliceFrom_zero,
          if_true]
        exact stored_eq _ rest
      · simp only [lacks_zero, ok_bind, hequals, Bool.not_false, if_true]
        rfl

/-- Reads a store to a variable, which is named before the last token of the candidate. -/
def variableStore (candidate tokens : List Token) : Attempt Problem Statement := do
  let target ← sliceTo candidate (candidate.length - 1)
  let isWrong ← orElse (target.length != 1) do return !(← index target 0).isName
  if isWrong then safe (failWith .nameInvalid [joinTokens target])
  else
    let tok ← index target 0
    stored (.variable tok.text) tokens

theorem variableStore_eq (target tokens : List Token) (last : Token) :
    variableStore (target ++ [last]) tokens = safe (readVariableStore target tokens) := by
  unfold variableStore readVariableStore
  rw [List.length_append, List.length_singleton, Nat.add_sub_cancel, sliceTo_length, ok_bind]
  match target with
  | [] => rfl
  | first :: second :: rest => simp
  | [tok] =>
      by_cases hname : tok.isName = true
      · simpa [hname] using stored_eq _ tokens
      · simp [hname]

/-! ## Declarations -/

/-- Reads one initial value, which has to take all the tokens. -/
def initial (tokens : List Token) : Attempt Problem Immediate := do
  let (value, used) ← immediate tokens
  safe (noMore (← sliceFrom tokens used))
  return value

theorem initial_eq (tokens : List Token) : initial tokens = safe (readInitial tokens) := by
  rw [initial, readInitial, safe_bind]
  rcases immediate_reads tokens with
    ⟨problem, hattempt, hread⟩ | ⟨value, used, rest, rfl, hattempt, hread⟩
  · rw [hattempt, hread]
    rfl
  · simp only [hattempt, hread, safe_ok, ok_bind, sliceFrom_length, safe_bind, safe_pure, pure_eq]

/-- Reads a size and the name that is declared with it. -/
def sizedName (tokens : List Token) : Attempt Problem (Immediate × String) := do
  let (bytes, used) ← size tokens
  let rest ← sliceFrom tokens used
  let declared ← name rest
  safe (noMore (← sliceFrom rest 1))
  return (bytes, declared)

theorem sizedName_eq (tokens : List Token) (declare : Immediate → String → Declaration) :
    (do let (bytes, declared) ← sizedName tokens; return declare bytes declared) =
      safe (do
        let (bytes, rest) ← readSize tokens
        let (declared, rest) ← readName rest
        noMore rest
        return declare bytes declared) := by
  unfold sizedName
  rw [safe_bind]
  rcases size_reads tokens with
    ⟨problem, hattempt, hread⟩ | ⟨bytes, used, rest, rfl, hattempt, hread⟩
  · rw [hattempt, hread]
    rfl
  simp only [hattempt, hread, safe_ok, ok_bind, sliceFrom_length, safe_bind]
  rcases name_reads rest with
    ⟨problem, hattempt, hread⟩ | ⟨declared, tok, rest, rfl, hattempt, hread⟩
  · rw [hattempt, hread]
    rfl
  · rw [hattempt, hread]
    simp only [safe_ok, ok_bind, sliceFrom_succ, sliceFrom_zero, safe_pure, pure_eq]
    cases noMore rest <;> rfl

/-- Reads what follows `int` or `byte`. -/
def sized (width : Width) (tokens : List Token) : Attempt Problem Declaration := do
  if ← lacks tokens 0 "[" then
    let declared ← name tokens
    let rest ← sliceFrom tokens 1
    if ← lacks rest 0 "=" then
      safe (noMore rest)
      return .scalar width declared []
    else
      let values ← splitOn "," (← sliceFrom rest 1)
      return .scalar width declared (← values.mapM initial)
  else
    let (bytes, declared) ← sizedName tokens
    return .array width declared bytes

theorem sized_eq (width : Width) (tokens : List Token) :
    sized width tokens = safe (readSized width tokens) := by
  unfold sized readSized
  have hlacks : (lacks tokens 0 "[" : Attempt Problem Bool) =
      .ok (!(tokens.head?.map (·.is "[")).getD false) := by cases tokens <;> rfl
  rw [hlacks, ok_bind]
  cases (tokens.head?.map (·.is "[")).getD false with
  | true => exact sizedName_eq tokens fun bytes declared => .array width declared bytes
  | false =>
      simp only [Bool.not_false, if_true, Bool.false_eq_true, if_false, safe_bind]
      rcases name_reads tokens with
        ⟨problem, hattempt, hread⟩ | ⟨declared, tok, rest, rfl, hattempt, hread⟩
      · rw [hattempt, hread]
        rfl
      simp only [hattempt, hread, safe_ok, ok_bind, sliceFrom_succ, sliceFrom_zero]
      cases rest with
      | nil => rfl
      | cons tok rest =>
          rw [lacks_zero, ok_bind]
          by_cases hequals : tok.is "=" = true
          · simp only [hequals, Bool.not_true, Bool.false_eq_true, if_true, if_false,
              sliceFrom_succ, sliceFrom_zero, ok_bind, splitOn_eq, safe_bind,
              safe_mapM _ fun part _ => initial_eq part, safe_pure, pure_eq]
          · simp only [hequals, Bool.not_false, if_true]
            rfl

/-- Reads what follows the name of a string or a constant: the equals sign is taken off. -/
def afterEquals (declared : String) (tokens : List Token) : Attempt Problem (List Token) := do
  if ← lacks tokens 0 "=" then safe (failWith .expected ["=", declared])
  else sliceFrom tokens 1

theorem afterEquals_eq (declared : String) (tokens : List Token) :
    afterEquals declared tokens = safe (readEquals declared tokens) := by
  cases tokens with
  | nil => rfl
  | cons tok rest =>
      rw [afterEquals, lacks_zero, ok_bind, readEquals]
      by_cases hequals : tok.is "=" = true
      · simp [hequals]
      · simp [hequals]

/-- Reads what follows `string`. -/
def string (tokens : List Token) : Attempt Problem Declaration := do
  let declared ← name tokens
  let rest ← afterEquals declared (← sliceFrom tokens 1)
  let isWrong ← orElse (rest.length == 0) do return (← index rest 0).kind != .string
  if isWrong then safe (failWith .expected ["\"", joinTokens rest])
  else
    let tok ← index rest 0
    safe (noMore (← sliceFrom rest 1))
    return .string declared tok.text

theorem string_eq (tokens : List Token) : string tokens = safe (readString tokens) := by
  unfold string readString
  rw [safe_bind]
  rcases name_reads tokens with
    ⟨problem, hattempt, hread⟩ | ⟨declared, tok, rest, rfl, hattempt, hread⟩
  · rw [hattempt, hread]
    rfl
  simp only [hattempt, hread, safe_ok, ok_bind, sliceFrom_succ, sliceFrom_zero, afterEquals_eq,
    safe_bind]
  congr 1
  funext rest
  cases rest with
  | nil => rfl
  | cons tok rest =>
      have hwrong : (orElse ((tok :: rest).length == 0) do
          return (← index (tok :: rest) 0).kind != .string : Attempt Problem Bool) =
          .ok (!tok.kind == .string) := rfl
      rw [hwrong, ok_bind]
      dsimp only
      cases tok.kind == .string with
      | true =>
          simp only [Bool.not_true, Bool.false_eq_true, if_true, if_false, index_zero,
            sliceFrom_succ, sliceFrom_zero, ok_bind, safe_bind, safe_pure, pure_eq]
      | false => rfl

/-- Reads what follows `var`. -/
def buffer (tokens : List Token) : Attempt Problem Declaration := do
  let (bytes, declared) ← sizedName tokens
  return .buffer declared bytes

theorem buffer_eq (tokens : List Token) : buffer tokens = safe (readBuffer tokens) :=
  sizedName_eq tokens fun bytes declared => .buffer declared bytes

/-- Reads what follows `const`. -/
def const (tokens : List Token) : Attempt Problem Declaration := do
  let declared ← name tokens
  let rest ← afterEquals declared (← sliceFrom tokens 1)
  if rest.length = 0 then safe (failWith .expected ["value", declared ++ " ="])
  else return .const declared (String.join (rest.map Token.print))

theorem const_eq (tokens : List Token) : const tokens = safe (readConst tokens) := by
  unfold const readConst
  rw [safe_bind]
  rcases name_reads tokens with
    ⟨problem, hattempt, hread⟩ | ⟨declared, tok, rest, rfl, hattempt, hread⟩
  · rw [hattempt, hread]
    rfl
  simp only [hattempt, hread, safe_ok, ok_bind, sliceFrom_succ, sliceFrom_zero, afterEquals_eq,
    safe_bind]
  congr 1
  funext rest
  cases rest <;> rfl

/-- Reads what follows the keyword of a declaration. -/
def declaration (word : String) (tokens : List Token) : Attempt Problem Declaration :=
  match word with
  | "int" => sized .word tokens
  | "byte" => sized .byte tokens
  | "string" => string tokens
  | "var" => buffer tokens
  | _ => const tokens

theorem declaration_eq (word : String) (tokens : List Token) :
    declaration word tokens = safe (readDeclaration word tokens) := by
  fun_cases declaration word tokens with
  | case1 => exact sized_eq .word tokens
  | case2 => exact sized_eq .byte tokens
  | case3 => exact string_eq tokens
  | case4 => exact buffer_eq tokens
  | case5 word hint hbyte hstring hvar =>
      rw [readDeclaration.eq_5 word tokens hint hbyte hstring hvar]
      exact const_eq tokens

/-! ## Blocks, loops and calls -/

/-- Reads a statement of which nothing is left. -/
def bare (statement : Statement) (tokens : List Token) : Attempt Problem Statement := do
  safe (noMore tokens)
  return statement

theorem bare_eq (statement : Statement) (tokens : List Token) :
    bare statement tokens = safe (do noMore tokens; return statement) := by
  rw [bare, safe_bind]
  rfl

/-- Reads a name with nothing after it; `word` is the keyword before it. -/
def named (word : String) (statement : String → Statement) (tokens : List Token) :
    Attempt Problem Statement :=
  if tokens.length = 0 then safe (failWith .expected ["name", word])
  else do
    let tok ← index tokens 0
    if tok.isName then bare (statement tok.text) (← sliceFrom tokens 1)
    else safe (failWith .nameInvalid [tok.print])

theorem named_eq {word : String} {statement : String → Statement}
    {read : List Token → Except Problem Statement}
    (hnil : read [] = failWith .expected ["name", word])
    (hcons : ∀ tok rest, read (tok :: rest) =
      if tok.isName then do noMore rest; return statement tok.text
      else failWith .nameInvalid [tok.print])
    (tokens : List Token) : named word statement tokens = safe (read tokens) := by
  cases tokens with
  | nil =>
      rw [hnil]
      rfl
  | cons tok rest =>
      rw [named, if_neg (by simp), index_zero, ok_bind, hcons, sliceFrom_succ, sliceFrom_zero,
        ok_bind, bare_eq]
      by_cases hname : tok.isName = true
      · rw [if_pos hname, if_pos hname]
      · rw [if_neg hname, if_neg hname]

/-- Reads a loop's head. -/
def loop (tokens : List Token) : Attempt Problem Statement := do
  let isEndless ← andAlso (0 < tokens.length) do
    let tok ← index tokens 0
    return tok.kind == .ident && tok.text == "true"
  if isEndless then bare (.loop none) (← sliceFrom tokens 1)
  else return .loop (some (← condition tokens))

theorem loop_eq (tokens : List Token) : loop tokens = safe (readLoop tokens) := by
  have hconditional : (do return .loop (some (← condition tokens)) : Attempt Problem Statement) =
      safe (do return .loop (some (← readCondition tokens))) := by
    rw [condition_eq, safe_bind]
    rfl
  unfold loop readLoop
  rw [hconditional]
  cases tokens with
  | nil => rfl
  | cons tok rest =>
      have hendless : (andAlso (0 < (tok :: rest).length) do
          let tok ← index (tok :: rest) 0
          return tok.kind == .ident && tok.text == "true" : Attempt Problem Bool) =
          .ok (tok.kind == .ident && tok.text == "true") := by
        rw [decide_eq_true (by simp), andAlso_true]
        rfl
      rw [hendless, ok_bind, sliceFrom_succ, sliceFrom_zero, ok_bind, bare_eq]
      dsimp only
      cases tok.kind == .ident && tok.text == "true" <;> rfl

end Shorthand.Indexed
