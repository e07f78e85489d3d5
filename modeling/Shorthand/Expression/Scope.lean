import Shorthand.Expression.Tree

/-!
# What names stand for

A name stands for a place of the function or comprehension that binds it, the innermost one
first; otherwise for a global of the text, for a constant given from outside, or for something
built in, in this order.  A name that is bound anywhere in a function or in the text stands for
that binding everywhere in it, also before it has a value.

Resolving also refuses what the language does not allow wherever it stands: a name that stands
for nothing, a global that is bound twice, a loop or a conditional statement outside a function,
and arguments or parameters in the wrong order.
-/

namespace Shorthand.Expression

/-- The built in functions. -/
inductive Builtin where
  | abs
  | all
  | any
  | bool
  | bytes
  | chr
  | dict
  | dir
  | enumerate
  | fail
  | float
  | getattr
  | hasattr
  | hash
  | int
  | len
  | list
  | max
  | min
  | ord
  | print
  | range
  | repr
  | reversed
  | sorted
  | str
  | tuple
  | type
  | zip
deriving DecidableEq, Inhabited

namespace Builtin

/-- The name of the function. -/
def name : Builtin → String
  | abs => "abs"
  | all => "all"
  | any => "any"
  | bool => "bool"
  | bytes => "bytes"
  | chr => "chr"
  | dict => "dict"
  | dir => "dir"
  | enumerate => "enumerate"
  | fail => "fail"
  | float => "float"
  | getattr => "getattr"
  | hasattr => "hasattr"
  | hash => "hash"
  | int => "int"
  | len => "len"
  | list => "list"
  | max => "max"
  | min => "min"
  | ord => "ord"
  | print => "print"
  | range => "range"
  | repr => "repr"
  | reversed => "reversed"
  | sorted => "sorted"
  | str => "str"
  | tuple => "tuple"
  | type => "type"
  | zip => "zip"

/-- All built in functions. -/
def every : List Builtin :=
  [abs, all, any, bool, bytes, chr, dict, dir, enumerate, fail, float, getattr, hasattr, hash,
   int, len, list, max, min, ord, print, range, repr, reversed, sorted, str, tuple, type, zip]

/-- The function with a name. -/
def ofName? (text : String) : Option Builtin := every.find? fun b => b.name == text

end Builtin

/-- What a name stands for. -/
inductive Ref where
  /-- A place of a running function: how many functions further out, and which of its places. -/
  | place (depth index : Nat)
  | global (name : String)
  /-- A constant given from outside. -/
  | constant (value : Int)
  | nothing
  | truth (value : Bool)
  | builtin (function : Builtin)
deriving DecidableEq

namespace Scope

/-- The names of a function, or of a comprehension inside one, with their places. -/
structure Block where
  isFunction : Bool
  names : List (String × Nat)

/-- What is known where a name is used. -/
structure Surroundings where
  /-- The globals of the text. -/
  globals : List String
  /-- The integers given from outside. -/
  known? : String → Option Int
  /-- The functions and comprehensions around, the innermost first. -/
  blocks : List Block
  inFunction : Bool
  inLoop : Bool

/-- The place of a name in the blocks; `depth` functions have been left already. -/
def findPlace? (name : String) (depth : Nat) : List Block → Option Ref
  | [] => none
  | block :: outer =>
      match block.names.lookup name with
      | some index => some (.place depth index)
      | none => findPlace? name (if block.isFunction then depth + 1 else depth) outer

/-- What a built in name stands for. -/
def builtin? : String → Option Ref
  | "None" => some .nothing
  | "True" => some (.truth true)
  | "False" => some (.truth false)
  | name => (Builtin.ofName? name).map .builtin

/-- What a name stands for. -/
def Surroundings.find? (s : Surroundings) (name : String) : Option Ref :=
  match findPlace? name 0 s.blocks with
  | some ref => some ref
  | none =>
      if s.globals.contains name then some (.global name)
      else
        match s.known? name with
        | some value => some (.constant value)
        | none => builtin? name

/-! ## Names that are bound -/

mutual

/-- The names that an assignment binds. -/
def boundBy : Target String → List String
  | .name name => [name]
  | .many items => boundByAll items
  | .index _ _ | .attribute _ _ => []

/-- The names that assignments bind. -/
def boundByAll : List (Target String) → List String
  | [] => []
  | item :: items => boundBy item ++ boundByAll items

end

mutual

/-- The names that a statement binds, inner functions and comprehensions apart. -/
def boundIn : Stmt String → List String
  | .assign target _ | .augment _ target _ => boundBy target
  | .when _ yes no => boundInAll yes ++ boundInAll no
  | .each target _ body => boundBy target ++ boundInAll body
  | .define name _ => [name]
  | .expr _ | .give _ | .leave | .next | .pass => []

/-- The names that statements bind. -/
def boundInAll : List (Stmt String) → List String
  | [] => []
  | stmt :: stmts => boundIn stmt ++ boundInAll stmts

end

/-- The name of a parameter. -/
def paramName? : Param String → Option String
  | .required _ name | .optional _ name _ | .rest name | .restNamed name => some name
  | .separator => none

/-- The names that the clauses of a comprehension bind. -/
def boundByClauses (clauses : List (Clause String)) : List String :=
  clauses.flatMap fun
    | .each target _ => boundBy target
    | .only _ => []

/-- Whether a name occurs twice. -/
def repeats : List String → Bool
  | [] => false
  | name :: names => names.contains name || repeats names

/-! ## Orders of parameters and arguments -/

/-- What has been seen of a list of parameters. -/
structure ParamsSeen where
  optional : Bool := false
  /-- A mark or a parameter with a star: the later ones are given by name. -/
  star : Bool := false
  /-- Only the mark, and no parameter after it yet. -/
  bare : Bool := false
  restNamed : Bool := false

/-- The state after one more parameter, if it may stand there. -/
def ParamsSeen.step? (seen : ParamsSeen) : Param String → Option ParamsSeen
  | .required _ _ =>
      if seen.restNamed || (seen.optional && !seen.star) then none
      else some { seen with bare := false }
  | .optional _ _ _ =>
      if seen.restNamed then none else some { seen with optional := true, bare := false }
  | .separator =>
      if seen.restNamed || seen.star then none else some { seen with star := true, bare := true }
  | .rest _ => if seen.restNamed || seen.star then none else some { seen with star := true }
  | .restNamed _ => if seen.restNamed then none else some { seen with restNamed := true }

/-- Whether parameters are in an order that is allowed, and none is given twice. -/
def paramsAllowed (params : List (Param String)) : Bool :=
  match params.foldlM ParamsSeen.step? {} with
  | some seen => !seen.bare && !repeats (params.filterMap paramName?)
  | none => false

/-- What has been seen of a list of arguments. -/
structure ArgsSeen where
  positional : Nat := 0
  names : List String := []
  unpack : Bool := false
  unpackNamed : Bool := false

/-- The state after one more argument, if it may stand there. -/
def ArgsSeen.step? (seen : ArgsSeen) : Argument String → Option ArgsSeen
  | .positional _ =>
      if seen.unpack || seen.unpackNamed || !seen.names.isEmpty then none
      else some { seen with positional := seen.positional + 1 }
  | .named name _ =>
      if seen.unpack || seen.unpackNamed || seen.names.contains name then none
      else some { seen with names := name :: seen.names }
  | .unpack _ =>
      if seen.unpack || seen.unpackNamed then none else some { seen with unpack := true }
  | .unpackNamed _ => if seen.unpackNamed then none else some { seen with unpackNamed := true }

/-- The most positional arguments, and the most named ones, of a call. -/
def mostArguments : Nat := 255

/-- Whether arguments are in an order that is allowed. -/
def argsAllowed (args : List (Argument String)) : Bool :=
  match args.foldlM ArgsSeen.step? {} with
  | some seen => seen.positional ≤ mostArguments && seen.names.length ≤ mostArguments
  | none => false

/-! ## Resolving -/

/-- The numbers that are handed out. -/
structure Counters where
  /-- The next place of the function that is resolved. -/
  place : Nat
  /-- The next identity of a function. -/
  identity : Nat

/-- A resolution that may be refused. -/
abbrev Resolve := StateT Counters Option

/-- Refuses unless the condition holds. -/
def require (condition : Bool) : Resolve Unit := if condition then pure () else failure

/-- Hands out a place to every name, one for all its bindings. -/
def givePlaces (names : List String) : Resolve (List (String × Nat)) :=
  names.eraseDups.mapM fun name =>
    modifyGet fun c => ((name, c.place), { c with place := c.place + 1 })

/-- What a name stands for. -/
def find (s : Surroundings) (name : String) : Resolve Ref :=
  match s.find? name with
  | some ref => pure ref
  | none => failure

mutual

/-- Resolves an expression. -/
def expr : Nat → Surroundings → Expr String → Resolve (Expr Ref)
  | 0, _, _ => failure
  | fuel + 1, s, e =>
      match e with
      | .name name => return .name (← find s name)
      | .int value => return .int value
      | .float value => return .float value
      | .string bytes => return .string bytes
      | .bytes bytes => return .bytes bytes
      | .tuple items => return .tuple (← items.mapM (expr fuel s))
      | .list items => return .list (← items.mapM (expr fuel s))
      | .dict entries =>
          return .dict (← entries.mapM fun (k, v) => return (← expr fuel s k, ← expr fuel s v))
      | .choice test yes no =>
          return .choice (← expr fuel s test) (← expr fuel s yes) (← expr fuel s no)
      | .both lhs rhs => return .both (← expr fuel s lhs) (← expr fuel s rhs)
      | .either lhs rhs => return .either (← expr fuel s lhs) (← expr fuel s rhs)
      | .unary op x => return .unary op (← expr fuel s x)
      | .binary op lhs rhs => return .binary op (← expr fuel s lhs) (← expr fuel s rhs)
      | .attribute x name => return .attribute (← expr fuel s x) name
      | .index x i => return .index (← expr fuel s x) (← expr fuel s i)
      | .slice x low high step =>
          return .slice (← expr fuel s x) (← low.mapM (expr fuel s)) (← high.mapM (expr fuel s))
            (← step.mapM (expr fuel s))
      | .call f args => do
          require (argsAllowed args)
          return .call (← expr fuel s f) (← args.mapM (argument fuel s))
      | .lambda f => return .lambda (← function fuel s f)
      | .listOf item cs => do
          let (cs, s) ← clauses fuel s cs
          return .listOf (← expr fuel s item) cs
      | .dictOf key value cs => do
          let (cs, s) ← clauses fuel s cs
          return .dictOf (← expr fuel s key) (← expr fuel s value) cs

/-- Resolves an argument. -/
def argument : Nat → Surroundings → Argument String → Resolve (Argument Ref)
  | 0, _, _ => failure
  | fuel + 1, s, .positional value => return .positional (← expr fuel s value)
  | fuel + 1, s, .named name value => return .named name (← expr fuel s value)
  | fuel + 1, s, .unpack value => return .unpack (← expr fuel s value)
  | fuel + 1, s, .unpackNamed value => return .unpackNamed (← expr fuel s value)

/-- Resolves the target of an assignment. -/
def target : Nat → Surroundings → Target String → Resolve (Target Ref)
  | 0, _, _ => failure
  | _ + 1, s, .name name => return .name (← find s name)
  | fuel + 1, s, .index x i => return .index (← expr fuel s x) (← expr fuel s i)
  | fuel + 1, s, .attribute x name => return .attribute (← expr fuel s x) name
  | fuel + 1, s, .many items => return .many (← items.mapM (target fuel s))

/-- Resolves the clauses of a comprehension, with what is known after them.  Only what the first
clause runs over is outside the comprehension. -/
def clauses : Nat → Surroundings → List (Clause String) →
    Resolve (List (Clause Ref) × Surroundings)
  | fuel + 1, s, .each first source :: rest => do
      let source ← expr fuel s source
      let names ← givePlaces (boundByClauses (.each first (.int 0) :: rest))
      let s := { s with blocks := ⟨false, names⟩ :: s.blocks }
      let first ← target fuel s first
      let rest ← rest.mapM (clause fuel s)
      return (.each first source :: rest, s)
  | _, _, _ => failure

/-- Resolves a clause after the first one. -/
def clause : Nat → Surroundings → Clause String → Resolve (Clause Ref)
  | 0, _, _ => failure
  | fuel + 1, s, .each t source => return .each (← target fuel s t) (← expr fuel s source)
  | fuel + 1, s, .only test => return .only (← expr fuel s test)

/-- Resolves a function.  Default values belong to what is around it. -/
def function : Nat → Surroundings → Function String → Resolve (Function Ref)
  | 0, _, _ => failure
  | fuel + 1, s, .mk name _ _ params body => do
      require (paramsAllowed params)
      let defaults ← params.mapM fun
        | .optional _ _ value => return some (← expr fuel s value)
        | _ => return none
      let outer ← get
      set { outer with place := 0, identity := outer.identity + 1 }
      let names ← givePlaces (params.filterMap paramName? ++ boundInAll body)
      let s := { s with blocks := ⟨true, names⟩ :: s.blocks, inFunction := true, inLoop := false }
      let params ← (params.zip defaults).mapM fun
        | (.required text name, _) => return .required text (← find s name)
        | (.optional text name _, some value) => return .optional text (← find s name) value
        | (.optional _ _ _, none) => failure
        | (.separator, _) => return .separator
        | (.rest name, _) => return .rest (← find s name)
        | (.restNamed name, _) => return .restNamed (← find s name)
      let body ← body.mapM (stmt fuel s)
      let inner ← get
      set { inner with place := outer.place }
      return .mk name outer.identity inner.place params body

/-- Resolves a statement. -/
def stmt : Nat → Surroundings → Stmt String → Resolve (Stmt Ref)
  | 0, _, _ => failure
  | fuel + 1, s, st =>
      match st with
      | .expr value => return .expr (← expr fuel s value)
      | .assign t value => return .assign (← target fuel s t) (← expr fuel s value)
      | .augment op t value => return .augment op (← target fuel s t) (← expr fuel s value)
      | .when test yes no => do
          require s.inFunction
          return .when (← expr fuel s test) (← yes.mapM (stmt fuel s)) (← no.mapM (stmt fuel s))
      | .each t source body => do
          require s.inFunction
          let source ← expr fuel s source
          return .each (← target fuel s t) source
            (← body.mapM (stmt fuel { s with inLoop := true }))
      | .define name f => return .define (← find s name) (← function fuel s f)
      | .give value? => do
          require s.inFunction
          return .give (← value?.mapM (expr fuel s))
      | .leave => do
          require s.inLoop
          return .leave
      | .next => do
          require s.inLoop
          return .next
      | .pass => return .pass

end

end Scope

/-- A text whose names are resolved. -/
structure Program where
  statements : List (Stmt Ref)
  /-- The number of places of its comprehensions. -/
  places : Nat

/-- Resolves the statements of a text; the fuel is more than their nesting. -/
def resolve? (fuel : Nat) (known? : String → Option Int) (stmts : List (Stmt String)) :
    Option Program := do
  let globals := Scope.boundInAll stmts
  if Scope.repeats globals then none
  let (statements, counters) ←
    (stmts.mapM (Scope.stmt fuel ⟨globals, known?, [], false, false⟩)).run ⟨0, 0⟩
  return ⟨statements, counters.place⟩

end Shorthand.Expression
