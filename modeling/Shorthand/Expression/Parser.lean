import Shorthand.Expression.Tree

/-!
# From tokens to syntax trees

A parser of the usual kind, one function for each phrase of the grammar.  Every function takes
the tokens that are left and returns its tree with the tokens after it, or nothing if there is
no such phrase.

The binary operators have ten levels; all associate to the left but the comparisons, which do
not associate at all.  The functions call each other on ever fewer tokens or at ever tighter
levels, which the fuel bounds.
-/

namespace Shorthand.Expression.Parser

/-- The tree of a phrase with the tokens after it. -/
abbrev Phrase (α : Type) := α × List Tok

/-! ## Operators -/

/-- The level of `or`, the loosest one. -/
def orLevel : Nat := 0

/-- The level of `and`. -/
def andLevel : Nat := 1

/-- The level of `not`. -/
def notLevel : Nat := 2

/-- The level of the comparisons. -/
def comparisonLevel : Nat := 3

/-- The level tighter than all binary operators. -/
def tightest : Nat := 10

/-- The level of an operator between two values. -/
def level : BinaryOp → Nat
  | .eq | .ne | .lt | .gt | .le | .ge | .isIn | .notIn => comparisonLevel
  | .bitOr => 4
  | .bitXor => 5
  | .bitAnd => 6
  | .shiftLeft | .shiftRight => 7
  | .add | .sub => 8
  | .mul | .div | .floorDiv | .mod => 9

/-- What joins two operands. -/
inductive Joint where
  | both
  | either
  | op (op : BinaryOp)

/-- The level of what joins two operands. -/
def Joint.level : Joint → Nat
  | both => andLevel
  | either => orLevel
  | op sign => Parser.level sign

/-- The tree of two operands. -/
def Joint.tree : Joint → Expr String → Expr String → Expr String
  | both, lhs, rhs => .both lhs rhs
  | either, lhs, rhs => .either lhs rhs
  | op sign, lhs, rhs => .binary sign lhs rhs

/-- The joint at the front of the tokens.  A `not` after an operand has to belong to `not in`. -/
inductive Joined where
  | none
  | wrong
  | joint (joint : Joint) (rest : List Tok)

/-- Looks for a joint. -/
def joined : List Tok → Joined
  | .keyword .not :: .keyword .in :: rest => .joint (.op .notIn) rest
  | .keyword .not :: _ => .wrong
  | .keyword .in :: rest => .joint (.op .isIn) rest
  | .keyword .and :: rest => .joint .both rest
  | .keyword .or :: rest => .joint .either rest
  | .mark (.op op) :: rest => .joint (.op op) rest
  | .mark .star :: rest => .joint (.op .mul) rest
  | _ => .none

/-! ## Targets and statements without phrases of their own -/

/-- What can be assigned to, as the target of an assignment.  The fuel bounds the nesting. -/
def target? : Nat → Expr String → Option (Target String)
  | 0, _ => none
  | _ + 1, .name name => some (.name name)
  | _ + 1, .index x i => some (.index x i)
  | _ + 1, .attribute x name => some (.attribute x name)
  | fuel + 1, .tuple items => (items.mapM (target? fuel)).map .many
  | fuel + 1, .list items => (items.mapM (target? fuel)).map .many
  | _ + 1, _ => none

/-- Whether a list of expressions cannot go on at the token. -/
def endsList : List Tok → Bool
  | .ending :: _ | .newline :: _ | .mark .assign :: _ | .mark .rightBrace :: _
  | .mark .rightBracket :: _ | .mark .rightParen :: _ | .mark .semicolon :: _ => true
  | _ => false

/-- Passes over a mark that has to stand here. -/
def expect (mark : Mark) : List Tok → Option (List Tok)
  | .mark m :: rest => if m == mark then some rest else none
  | _ => none

/-- Passes over a keyword that has to stand here. -/
def expectWord (word : Keyword) : List Tok → Option (List Tok)
  | .keyword w :: rest => if w == word then some rest else none
  | _ => none

/-! ## Expressions -/

mutual

/-- A single expression. -/
def test : Nat → List Tok → Option (Phrase (Expr String))
  | 0, _ => none
  | fuel + 1, .keyword .lambda :: toks => lambda fuel true toks
  | fuel + 1, toks => do
      let (yes, toks) ← operand fuel orLevel toks
      match toks with
      | .keyword .if :: toks => do
          let (cond, toks) ← operand fuel orLevel toks
          let toks ← expectWord .else toks
          let (no, toks) ← test fuel toks
          return (.choice cond yes no, toks)
      | _ => return (yes, toks)

/-- A single expression that takes no `if` after it. -/
def testOnly : Nat → List Tok → Option (Phrase (Expr String))
  | 0, _ => none
  | fuel + 1, .keyword .lambda :: toks => lambda fuel false toks
  | fuel + 1, toks => operand fuel orLevel toks

/-- A function without a name, after its keyword. -/
def lambda : Nat → Bool → List Tok → Option (Phrase (Expr String))
  | 0, _, _ => none
  | fuel + 1, withChoice, toks => do
      let (ps, toks) ← params fuel [] toks
      let toks ← expect .colon toks
      let (body, toks) ← if withChoice then test fuel toks else testOnly fuel toks
      return (.lambda (.mk "lambda" 0 0 ps [.give (some body)]), toks)

/-- An operand that is joined at the given level or tighter. -/
def operand : Nat → Nat → List Tok → Option (Phrase (Expr String))
  | 0, _, _ => none
  | fuel + 1, lvl, toks =>
      if lvl ≥ tightest then suffixed fuel toks
      else
        match toks with
        | .keyword .not :: rest =>
            if lvl == notLevel then do
              let (x, toks) ← operand fuel lvl rest
              return (.unary .not x, toks)
            else do
              let (x, toks) ← operand fuel (lvl + 1) toks
              joints fuel lvl true x toks
        | _ => do
            let (x, toks) ← operand fuel (lvl + 1) toks
            joints fuel lvl true x toks

/-- Further operands joined to `lhs` at the given level or tighter.  Only the first joint may be
a comparison. -/
def joints : Nat → Nat → Bool → Expr String → List Tok → Option (Phrase (Expr String))
  | 0, _, _, _, _ => none
  | fuel + 1, lvl, first, lhs, toks =>
      match joined toks with
      | .none => some (lhs, toks)
      | .wrong => none
      | .joint joint rest =>
          if joint.level < lvl then some (lhs, toks)
          else if !first && joint.level == comparisonLevel then none
          else do
            let (rhs, toks) ← operand fuel (joint.level + 1) rest
            joints fuel lvl false (joint.tree lhs rhs) toks

/-- A primary expression with everything that is attached to it. -/
def suffixed : Nat → List Tok → Option (Phrase (Expr String))
  | 0, _ => none
  | fuel + 1, toks => do
      let (x, toks) ← primary fuel toks
      suffixes fuel x toks

/-- What is attached to an expression: attributes, indices, slices and calls. -/
def suffixes : Nat → Expr String → List Tok → Option (Phrase (Expr String))
  | 0, _, _ => none
  | fuel + 1, x, toks =>
      match toks with
      | .mark .dot :: .name name :: toks => suffixes fuel (.attribute x name) toks
      | .mark .dot :: _ => none
      | .mark .leftBracket :: toks => do
          let (x, toks) ← subscript fuel x toks
          suffixes fuel x toks
      | .mark .leftParen :: toks => do
          let (args, toks) ← arguments fuel [] toks
          suffixes fuel (.call x args) toks
      | _ => some (x, toks)

/-- An index or a slice, after its bracket. -/
def subscript : Nat → Expr String → List Tok → Option (Phrase (Expr String))
  | 0, _, _ => none
  | fuel + 1, x, .mark .colon :: toks => sliceTail fuel x none (.mark .colon :: toks)
  | fuel + 1, x, toks => do
      let (i, toks) ← exprs fuel false toks
      match toks with
      | .mark .rightBracket :: toks => return (.index x i, toks)
      | _ => sliceTail fuel x (some i) toks

/-- The rest of a slice, from its first colon on. -/
def sliceTail : Nat → Expr String → Option (Expr String) → List Tok → Option (Phrase (Expr String))
  | 0, _, _, _ => none
  | fuel + 1, x, low, toks => do
      let (high, toks) ←
        match toks with
        | .mark .colon :: .mark .colon :: toks => some (none, .mark .colon :: toks)
        | .mark .colon :: .mark .rightBracket :: toks => some (none, .mark .rightBracket :: toks)
        | .mark .colon :: toks => (test fuel toks).map fun (e, toks) => (some e, toks)
        | _ => some (none, toks)
      let (step, toks) ←
        match toks with
        | .mark .colon :: .mark .rightBracket :: toks => some (none, .mark .rightBracket :: toks)
        | .mark .colon :: toks => (test fuel toks).map fun (e, toks) => (some e, toks)
        | _ => some (none, toks)
      let toks ← expect .rightBracket toks
      return (.slice x low high step, toks)

/-- The arguments of a call up to its closing parenthesis; `done` are those before, the last one
first. -/
def arguments : Nat → List (Argument String) → List Tok → Option (Phrase (List (Argument String)))
  | 0, _, _ => none
  | _ + 1, done, .mark .rightParen :: toks => some (done.reverse, toks)
  | fuel + 1, done, toks => do
      let toks ← if done.isEmpty then some toks else expect .comma toks
      match toks with
      | .mark .rightParen :: toks => return (done.reverse, toks)
      | .mark .star :: toks => do
          let (x, toks) ← test fuel toks
          arguments fuel (.unpack x :: done) toks
      | .mark .doubleStar :: toks => do
          let (x, toks) ← test fuel toks
          arguments fuel (.unpackNamed x :: done) toks
      | .name name :: .mark .assign :: toks => do
          let (x, toks) ← test fuel toks
          arguments fuel (.named name x :: done) toks
      | toks => do
          let (x, toks) ← test fuel toks
          arguments fuel (.positional x :: done) toks

/-- The parameters of a function; `done` are those before, the last one first. -/
def params : Nat → List (Param String) → List Tok → Option (Phrase (List (Param String)))
  | 0, _, _ => none
  | _ + 1, done, .mark .rightParen :: toks => some (done.reverse, .mark .rightParen :: toks)
  | _ + 1, done, .mark .colon :: toks => some (done.reverse, .mark .colon :: toks)
  | fuel + 1, done, toks => do
      let toks ← if done.isEmpty then some toks else expect .comma toks
      match toks with
      | .mark .rightParen :: _ => return (done.reverse, toks)
      | .mark .star :: .name name :: toks => params fuel (.rest name :: done) toks
      | .mark .star :: toks => params fuel (.separator :: done) toks
      | .mark .doubleStar :: .name name :: toks => params fuel (.restNamed name :: done) toks
      | .name name :: .mark .assign :: toks => do
          let (value, toks) ← test fuel toks
          params fuel (.optional name name value :: done) toks
      | .name name :: toks => params fuel (.required name name :: done) toks
      | _ => none

/-- A primary expression: a name, a literal, something in brackets, or a sign with what it
stands before. -/
def primary : Nat → List Tok → Option (Phrase (Expr String))
  | 0, _ => none
  | fuel + 1, toks =>
      match toks with
      | .name name :: toks => some (.name name, toks)
      | .int value :: toks => some (.int value, toks)
      | .float value :: toks => some (.float value, toks)
      | .string bytes :: toks => some (.string bytes, toks)
      | .bytes bytes :: toks => some (.bytes bytes, toks)
      | .mark .leftParen :: .mark .rightParen :: toks => some (.tuple [], toks)
      | .mark .leftParen :: toks => do
          let (x, toks) ← exprs fuel true toks
          let toks ← expect .rightParen toks
          return (x, toks)
      | .mark .leftBracket :: .mark .rightBracket :: toks => some (.list [], toks)
      | .mark .leftBracket :: toks => do
          let (x, toks) ← test fuel toks
          match toks with
          | .keyword .for :: _ => do
              let (cs, toks) ← clauses fuel .rightBracket [] toks
              return (.listOf x cs, toks)
          | _ => do
              let (items, toks) ← moreExprs fuel true [x] toks
              let toks ← expect .rightBracket toks
              return (.list items, toks)
      | .mark .leftBrace :: .mark .rightBrace :: toks => some (.dict [], toks)
      | .mark .leftBrace :: toks => do
          let ((key, value), toks) ← entry fuel toks
          match toks with
          | .keyword .for :: _ => do
              let (cs, toks) ← clauses fuel .rightBrace [] toks
              return (.dictOf key value cs, toks)
          | _ => do
              let (entries, toks) ← moreEntries fuel [(key, value)] toks
              let toks ← expect .rightBrace toks
              return (.dict entries, toks)
      | .mark (.op .sub) :: toks => do
          let (x, toks) ← suffixed fuel toks
          return (.unary .minus x, toks)
      | .mark (.op .add) :: toks => do
          let (x, toks) ← suffixed fuel toks
          return (.unary .plus x, toks)
      | .mark .tilde :: toks => do
          let (x, toks) ← suffixed fuel toks
          return (.unary .invert x, toks)
      | _ => none

/-- A key and its value. -/
def entry : Nat → List Tok → Option (Phrase (Expr String × Expr String))
  | 0, _ => none
  | fuel + 1, toks => do
      let (key, toks) ← test fuel toks
      let toks ← expect .colon toks
      let (value, toks) ← test fuel toks
      return ((key, value), toks)

/-- Further entries of a dictionary; `done` are those before, the last one first. -/
def moreEntries : Nat → List (Expr String × Expr String) → List Tok →
    Option (Phrase (List (Expr String × Expr String)))
  | 0, _, _ => none
  | _ + 1, done, .mark .comma :: .mark .rightBrace :: toks =>
      some (done.reverse, .mark .rightBrace :: toks)
  | fuel + 1, done, .mark .comma :: toks => do
      let (e, toks) ← entry fuel toks
      moreEntries fuel (e :: done) toks
  | _ + 1, done, toks => some (done.reverse, toks)

/-- The clauses of a comprehension up to its closing bracket; `done` are those before, the last
one first. -/
def clauses : Nat → Mark → List (Clause String) → List Tok → Option (Phrase (List (Clause String)))
  | 0, _, _, _ => none
  | fuel + 1, closing, done, toks =>
      match toks with
      | .keyword .for :: toks => do
          let (target, toks) ← loopTarget fuel toks
          let toks ← expectWord .in toks
          let (source, toks) ← operand fuel orLevel toks
          clauses fuel closing (.each target source :: done) toks
      | .keyword .if :: toks => do
          let (cond, toks) ← testOnly fuel toks
          clauses fuel closing (.only cond :: done) toks
      | toks => do
          let toks ← expect closing toks
          return (done.reverse, toks)

/-- What a loop assigns to. -/
def loopTarget : Nat → List Tok → Option (Phrase (Target String))
  | 0, _ => none
  | fuel + 1, toks => do
      let (x, toks) ← suffixed fuel toks
      match toks with
      | .mark .comma :: _ => do
          let (items, toks) ← moreTargets fuel [x] toks
          let target ← target? fuel (.tuple items)
          return (target, toks)
      | _ => do
          let target ← target? fuel x
          return (target, toks)

/-- Further variables of a loop; `done` are those before, the last one first. -/
def moreTargets : Nat → List (Expr String) → List Tok → Option (Phrase (List (Expr String)))
  | 0, _, _ => none
  | fuel + 1, done, .mark .comma :: toks =>
      if endsList toks then some (done.reverse, toks)
      else do
        let (x, toks) ← suffixed fuel toks
        moreTargets fuel (x :: done) toks
  | _ + 1, done, toks => some (done.reverse, toks)

/-- One expression, or several with commas between them, which are a tuple.  A comma at the end
needs parentheses around it. -/
def exprs : Nat → Bool → List Tok → Option (Phrase (Expr String))
  | 0, _, _ => none
  | fuel + 1, inParens, toks => do
      let (x, toks) ← test fuel toks
      match toks with
      | .mark .comma :: _ => do
          let (items, toks) ← moreExprs fuel inParens [x] toks
          return (.tuple items, toks)
      | _ => return (x, toks)

/-- Further expressions after commas; `done` are those before, the last one first. -/
def moreExprs : Nat → Bool → List (Expr String) → List Tok → Option (Phrase (List (Expr String)))
  | 0, _, _, _ => none
  | fuel + 1, inParens, done, .mark .comma :: toks =>
      if endsList toks then
        if inParens then some (done.reverse, toks) else none
      else do
        let (x, toks) ← test fuel toks
        moreExprs fuel inParens (x :: done) toks
  | _ + 1, _, done, toks => some (done.reverse, toks)

end

/-! ## Statements -/

/-- A statement that fits on a line. -/
def smallStatement (fuel : Nat) (toks : List Tok) : Option (Phrase (Stmt String)) :=
  match toks with
  | .keyword .return :: toks =>
      match toks with
      | .ending :: _ | .newline :: _ | .mark .semicolon :: _ => some (.give none, toks)
      | _ => (exprs fuel false toks).map fun (x, toks) => (.give (some x), toks)
  | .keyword .break :: toks => some (.leave, toks)
  | .keyword .continue :: toks => some (.next, toks)
  | .keyword .pass :: toks => some (.pass, toks)
  | _ => do
      let (x, toks) ← exprs fuel false toks
      match toks with
      | .mark .assign :: toks => do
          let target ← target? fuel x
          let (value, toks) ← exprs fuel false toks
          return (.assign target value, toks)
      | .mark (.augment op) :: toks => do
          let target ← target? fuel x
          if target matches .many _ then none
          let (value, toks) ← exprs fuel false toks
          return (.augment op target value, toks)
      | _ => return (.expr x, toks)

/-- Statements on one line, with semicolons between them, and the end of the line. -/
def lineStatements : Nat → List (Stmt String) → List Tok → Option (Phrase (List (Stmt String)))
  | 0, _, _ => none
  | fuel + 1, done, toks => do
      let (stmt, toks) ← smallStatement fuel toks
      match toks with
      | .mark .semicolon :: .newline :: toks => return ((stmt :: done).reverse, toks)
      | .mark .semicolon :: .ending :: toks => return ((stmt :: done).reverse, .ending :: toks)
      | .mark .semicolon :: toks => lineStatements fuel (stmt :: done) toks
      | .newline :: toks => return ((stmt :: done).reverse, toks)
      | .ending :: toks => return ((stmt :: done).reverse, .ending :: toks)
      | _ => none

mutual

/-- A statement, or the statements of a line. -/
def statement : Nat → List Tok → Option (Phrase (List (Stmt String)))
  | 0, _ => none
  | fuel + 1, .keyword .define :: .name name :: .mark .leftParen :: toks => do
      let (ps, toks) ← params fuel [] toks
      let toks ← expect .rightParen toks
      let toks ← expect .colon toks
      let (body, toks) ← suite fuel toks
      return ([.define name (.mk name 0 0 ps body)], toks)
  | _ + 1, .keyword .define :: _ => none
  | fuel + 1, .keyword .if :: toks => do
      let (s, toks) ← conditional fuel toks
      return ([s], toks)
  | fuel + 1, .keyword .for :: toks => do
      let (target, toks) ← loopTarget fuel toks
      let toks ← expectWord .in toks
      let (source, toks) ← exprs fuel false toks
      let toks ← expect .colon toks
      let (body, toks) ← suite fuel toks
      return ([.each target source body], toks)
  | fuel + 1, toks => lineStatements fuel [] toks

/-- A conditional statement, after its keyword. -/
def conditional : Nat → List Tok → Option (Phrase (Stmt String))
  | 0, _ => none
  | fuel + 1, toks => do
      let (cond, toks) ← test fuel toks
      let toks ← expect .colon toks
      let (yes, toks) ← suite fuel toks
      match toks with
      | .keyword .elif :: toks => do
          let (no, toks) ← conditional fuel toks
          return (.when cond yes [no], toks)
      | .keyword .else :: toks => do
          let toks ← expect .colon toks
          let (no, toks) ← suite fuel toks
          return (.when cond yes no, toks)
      | _ => return (.when cond yes [], toks)

/-- The statements that belong to a head: the rest of its line, or indented lines. -/
def suite : Nat → List Tok → Option (Phrase (List (Stmt String)))
  | 0, _ => none
  | fuel + 1, .newline :: .indent :: toks => indented fuel [] toks
  | _ + 1, .newline :: _ => none
  | fuel + 1, toks => lineStatements fuel [] toks

/-- Statements up to the end of their indentation; `done` are those before, the last one
first. -/
def indented : Nat → List (Stmt String) → List Tok → Option (Phrase (List (Stmt String)))
  | 0, _, _ => none
  | _ + 1, done, .outdent :: toks => some (done.reverse, toks)
  | _ + 1, _, .ending :: _ => none
  | fuel + 1, done, toks => do
      let (stmts, toks) ← statement fuel toks
      indented fuel (stmts.reverse ++ done) toks

end

/-- The statements of a whole text; `done` are those before, the last one first. -/
def program (depth : Nat) : Nat → List (Stmt String) → List Tok → Option (List (Stmt String))
  | 0, _, _ => none
  | _ + 1, done, .ending :: _ => some done.reverse
  | fuel + 1, done, .newline :: toks => program depth fuel done toks
  | fuel + 1, done, toks => do
      let (stmts, toks) ← statement depth toks
      program depth fuel (stmts.reverse ++ done) toks

/-- More than the functions above call each other on a list of tokens. -/
def enough (toks : List Tok) : Nat := 32 * toks.length + 32

/-- The statements of a whole text. -/
def parse? (toks : List Tok) : Option (List (Stmt String)) :=
  program (enough toks) (toks.length + 1) [] toks

end Shorthand.Expression.Parser
