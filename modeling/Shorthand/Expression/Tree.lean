import Shorthand.Expression.Token

/-!
# Syntax trees of expressions

The trees are the same before and after names are resolved; only what stands for a name
differs.  So they are given over a type `ν` of names: the text as written at first, and the
place where its value is found afterwards.

A function carries two numbers that are settled when names are resolved: an identity, by which
a call knows whether the function is already running, and the number of places that its own
names need.
-/

namespace Shorthand.Expression

mutual

/-- An expression. -/
inductive Expr (ν : Type) where
  | name (name : ν)
  | int (value : Int)
  | float (value : Float)
  | string (bytes : List UInt8)
  | bytes (bytes : List UInt8)
  | tuple (items : List (Expr ν))
  | list (items : List (Expr ν))
  /-- A dictionary, by its keys and values in turn. -/
  | dict (entries : List (Expr ν × Expr ν))
  /-- `yes if test else no`. -/
  | choice (test yes no : Expr ν)
  | both (lhs rhs : Expr ν)
  | either (lhs rhs : Expr ν)
  | unary (op : UnaryOp) (x : Expr ν)
  | binary (op : BinaryOp) (lhs rhs : Expr ν)
  | attribute (x : Expr ν) (name : String)
  | index (x i : Expr ν)
  | slice (x : Expr ν) (low high step : Option (Expr ν))
  | call (function : Expr ν) (args : List (Argument ν))
  | lambda (function : Function ν)
  /-- A list made from the items that clauses give. -/
  | listOf (item : Expr ν) (clauses : List (Clause ν))
  /-- A dictionary made from the entries that clauses give. -/
  | dictOf (key value : Expr ν) (clauses : List (Clause ν))

/-- An argument of a call. -/
inductive Argument (ν : Type) where
  | positional (value : Expr ν)
  | named (name : String) (value : Expr ν)
  /-- All items of a value, as positional arguments. -/
  | unpack (value : Expr ν)
  /-- All entries of a dictionary, as named arguments. -/
  | unpackNamed (value : Expr ν)

/-- What an assignment assigns to. -/
inductive Target (ν : Type) where
  | name (name : ν)
  | index (x i : Expr ν)
  | attribute (x : Expr ν) (name : String)
  | many (items : List (Target ν))

/-- A clause of a comprehension. -/
inductive Clause (ν : Type) where
  | each (target : Target ν) (source : Expr ν)
  | only (test : Expr ν)

/-- A parameter of a function.  The text is the name by which a caller may give it. -/
inductive Param (ν : Type) where
  | required (text : String) (name : ν)
  | optional (text : String) (name : ν) (value : Expr ν)
  /-- The mark after which parameters can only be given by name. -/
  | separator
  /-- All further positional arguments. -/
  | rest (name : ν)
  /-- All further named arguments. -/
  | restNamed (name : ν)

/-- A function. -/
inductive Function (ν : Type) where
  | mk (name : String) (identity : Nat) (places : Nat) (params : List (Param ν))
      (body : List (Stmt ν))

/-- A statement. -/
inductive Stmt (ν : Type) where
  | expr (value : Expr ν)
  | assign (target : Target ν) (value : Expr ν)
  | augment (op : BinaryOp) (target : Target ν) (value : Expr ν)
  | when (test : Expr ν) (yes no : List (Stmt ν))
  | each (target : Target ν) (source : Expr ν) (body : List (Stmt ν))
  | define (name : ν) (function : Function ν)
  | give (value? : Option (Expr ν))
  | leave
  | next
  | pass

end

namespace Function

variable {ν : Type}

/-- The name of the function, for messages. -/
def name : Function ν → String
  | mk name .. => name

/-- The identity of the function. -/
def identity : Function ν → Nat
  | mk _ identity .. => identity

/-- The number of places that the function's names need. -/
def places : Function ν → Nat
  | mk _ _ places .. => places

/-- The parameters. -/
def params : Function ν → List (Param ν)
  | mk _ _ _ params _ => params

/-- The body. -/
def body : Function ν → List (Stmt ν)
  | mk _ _ _ _ body => body

end Function

end Shorthand.Expression
