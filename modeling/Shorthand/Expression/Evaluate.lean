import Shorthand.Expression.Method

/-!
# Evaluation

The trees run on the machine.  Every function here takes fuel, which bounds how deep the
evaluation goes into trees and calls; loops take none, because they run over the items of a
value that is there already.  A function that is running cannot be called again, so the depth is
bounded by the size of the text.

The places that a tree can see are given by the first place of every function around it, the
innermost first.
-/

namespace Shorthand.Expression

/-! ## Names -/

/-- The number of the place that a name stands for. -/
def placeNumber? (bases : List Nat) (depth index : Nat) : Option Nat :=
  (bases[depth]?).map fun base => base + index

/-- The value of a name. -/
def readName (bases : List Nat) : Ref → Run Value
  | .place depth index => do Run.placeAt (← Run.ofOption (placeNumber? bases depth index))
  | .global name => Run.globalAt name
  | .constant value => pure (.int value)
  | .nothing => pure .none
  | .truth value => pure (.bool value)
  | .builtin function => pure (.builtin function)

/-- Gives a name a value. -/
def writeName (bases : List Nat) (name : Ref) (value : Value) : Run Unit :=
  match name with
  | .place depth index => do
      Run.setPlace (← Run.ofOption (placeNumber? bases depth index)) value
  | .global name => Run.setGlobal name value
  | _ => failure

/-! ## Calls -/

/-- The parameters of a function that can be given by position. -/
def positionalParams : List (Param Ref) → List (Param Ref)
  | .required text name :: rest => .required text name :: positionalParams rest
  | .optional text name value :: rest => .optional text name value :: positionalParams rest
  | _ => []

/-- The name by which a parameter can be given, and where its value goes. -/
def namedParam? : Param Ref → Option (String × Ref)
  | .required text name | .optional text name _ => some (text, name)
  | _ => none

/-- Where further positional arguments go. -/
def restParam? (params : List (Param Ref)) : Option Ref :=
  params.findSome? fun
    | .rest name => some name
    | _ => none

/-- Where further named arguments go. -/
def restNamedParam? (params : List (Param Ref)) : Option Ref :=
  params.findSome? fun
    | .restNamed name => some name
    | _ => none

/-- The optional parameters with their values if nothing is given. -/
def defaultsOf (params : List (Param Ref)) (values : List Value) : List (String × Value) :=
  (params.filterMap fun
    | .optional text _ _ => some text
    | _ => none).zip values

/-- Puts the arguments of a call into the places of its parameters. -/
def bindArgs (bases : List Nat) (params : List (Param Ref)) (defaults : List Value)
    (args : Args) : Run Unit := do
  let byPosition := (positionalParams params).filterMap namedParam?
  let surplus := args.positional.drop byPosition.length
  let given := (byPosition.map Prod.fst).zip args.positional
  -- Named arguments go to parameters that have no value yet.
  let names := (params.filterMap namedParam?).map Prod.fst
  let (regular, further) := args.named.partition fun (name, _) => names.contains name
  let values := given ++ regular
  Run.require (!Scope.repeats (values.map Prod.fst))
  Run.require (!Scope.repeats (further.map Prod.fst))
  -- Every parameter needs a value.
  let filled := values ++ defaultsOf params defaults
  for (text, name) in params.filterMap namedParam? do
    writeName bases name (← Run.ofOption (filled.lookup text))
  match restParam? params with
  | some name => writeName bases name (.tuple surplus)
  | none => Run.require surplus.isEmpty
  match restNamedParam? params with
  | some name =>
      let dict ← Run.newDict (further.map fun (text, value) => (Value.text text, value))
      writeName bases name dict
  | none => Run.require further.isEmpty

/-- Runs the body of a function, which cannot be running already. -/
def entering {α : Type} (identity : Nat) (body : Run α) : Run α := do
  let running := (← get).running
  Run.require (!running.contains identity)
  modify fun m => { m with running := identity :: running }
  let result ← body
  modify fun m => { m with running := running }
  return result

/-- The names that arguments give by a dictionary. -/
def namesOf (x : Value) : Run (List (String × Value)) := do
  match x with
  | .dict address =>
      (← Run.dictAt address).mapM fun
        | (.string bytes, value) => pure (String.ofList (characters bytes), value)
        | _ => failure
  | _ => failure

/-! ## Sorting -/

/-- Puts an item into a sorted list, after those that are not behind it. -/
def insertSorted (before : Value → Value → Run Bool) (item : Value × Value) :
    List (Value × Value) → Run (List (Value × Value))
  | [] => pure [item]
  | other :: rest => do
      if ← before item.1 other.1 then return item :: other :: rest
      else return other :: (← insertSorted before item rest)

/-- Sorts items by their keys; items with equal keys keep their order. -/
def sortByKey (before : Value → Value → Run Bool) (items : List (Value × Value)) :
    Run (List Value) := do
  let sorted ← items.foldlM (fun done item => insertSorted before item done) []
  return sorted.map Prod.snd

/-- An optional truth value, which is false if it is not given. -/
def flagOf : Option Value → Run Bool
  | none => pure false
  | some (.bool value) => pure value
  | some _ => failure

/-- Whether a value comes before another one. -/
def comesBefore (reverse : Bool) (x y : Value) : Run Bool := do
  return (← Run.order x y) == (if reverse then .gt else .lt)

/-! ## Trees -/

/-- How statements end. -/
inductive Flow where
  /-- The next statement follows. -/
  | onward
  /-- The loop ends. -/
  | leave
  /-- The loop goes on with its next item. -/
  | next
  /-- The function ends with a value. -/
  | give (value : Value)

/-- Runs a loop over items. -/
def loop (body : Value → Run Flow) : List Value → Run Flow
  | [] => pure .onward
  | item :: items => do
      match ← body item with
      | .onward | .next => loop body items
      | .leave => return .onward
      | .give value => return .give value

/-- Runs statements one after the other. -/
def sequence {α : Type} (run : α → Run Flow) : List α → Run Flow
  | [] => pure .onward
  | stmt :: stmts => do
      match ← run stmt with
      | .onward => sequence run stmts
      | flow => return flow

/-- The entries of a dictionary that is written out after a further one, whose key does not occur
before. -/
def newEntry (done : List (Value × Value)) (key value : Value) : Run (List (Value × Value)) := do
  match ← Run.findEntry done key with
  | some _ => failure
  | none => return done ++ [(key, value)]

mutual

/-- The value of an expression. -/
def eval : Nat → List Nat → Expr Ref → Run Value
  | 0, _, _ => failure
  | fuel + 1, bases, e =>
      match e with
      | .name name => readName bases name
      | .int value => pure (.int value)
      | .float value => pure (.float value)
      | .string bytes => pure (.string bytes)
      | .bytes bytes => pure (.bytes bytes)
      | .tuple items => return .tuple (← items.mapM (eval fuel bases))
      | .list items => do Run.newList (← items.mapM (eval fuel bases))
      | .dict entries => do
          let entries ← entries.foldlM (fun done (k, v) => do
            let key ← eval fuel bases k
            let value ← eval fuel bases v
            newEntry done key value) []
          Run.newDict entries
      | .choice test yes no => do
          if ← Run.holds (← eval fuel bases test) then eval fuel bases yes else eval fuel bases no
      | .both lhs rhs => do
          let x ← eval fuel bases lhs
          if ← Run.holds x then eval fuel bases rhs else return x
      | .either lhs rhs => do
          let x ← eval fuel bases lhs
          if ← Run.holds x then return x else eval fuel bases rhs
      | .unary op x => do unary op (← eval fuel bases x)
      | .binary op lhs rhs => do
          let x ← eval fuel bases lhs
          let y ← eval fuel bases rhs
          binary op x y
      | .attribute x name => do
          let x ← eval fuel bases x
          Run.newMethod x (← Run.ofOption (methodOf? x name))
      | .index x i => do
          let x ← eval fuel bases x
          let i ← eval fuel bases i
          index x i
      | .slice x low high step => do
          let x ← eval fuel bases x
          let low ← low.mapM (eval fuel bases)
          let high ← high.mapM (eval fuel bases)
          let step ← step.mapM (eval fuel bases)
          slice x low high step
      | .call f args => do
          let f ← eval fuel bases f
          let parts ← args.mapM (argument fuel bases)
          call fuel f ⟨parts.flatMap Args.positional, parts.flatMap Args.named⟩
      | .lambda f => makeFunction fuel bases f
      | .listOf item clauses => do
          let pairs ← comprehend fuel bases item item false clauses
          Run.newList (pairs.map Prod.fst)
      | .dictOf key value clauses => do
          let pairs ← comprehend fuel bases key value true clauses
          Run.newDict (← putAll [] pairs)

/-- The value of an argument, as arguments. -/
def argument : Nat → List Nat → Argument Ref → Run Args
  | 0, _, _ => failure
  | fuel + 1, bases, .positional value => return ⟨[← eval fuel bases value], []⟩
  | fuel + 1, bases, .named name value => return ⟨[], [(name, ← eval fuel bases value)]⟩
  | fuel + 1, bases, .unpack value => do
      return ⟨← Run.items (← eval fuel bases value), []⟩
  | fuel + 1, bases, .unpackNamed value => do
      return ⟨[], ← namesOf (← eval fuel bases value)⟩

/-- A function, with the values that its optional parameters have from now on. -/
def makeFunction : Nat → List Nat → Function Ref → Run Value
  | 0, _, _ => failure
  | fuel + 1, bases, f => do
      let defaults ← (f.params.filterMap fun
        | .optional _ _ value => some value
        | _ => none).mapM (eval fuel bases)
      return .closure (← Run.newIdentity) f defaults bases

/-- Calls a value. -/
def call : Nat → Value → Args → Run Value
  | 0, _, _ => failure
  | fuel + 1, f, args =>
      match f with
      | .closure _ f defaults bases =>
          entering f.identity do
            let base ← Run.newPlaces f.places
            bindArgs (base :: bases) f.params defaults args
            match ← sequence (exec fuel (base :: bases)) f.body with
            | .give value => return value
            | _ => return .none
      | .builtin function => callBuiltin fuel function args
      | .method _ receiver method => callMethod receiver method args
      | _ => failure

/-- Calls a built in function. -/
def callBuiltin : Nat → Builtin → Args → Run Value
  | 0, _, _ => failure
  | fuel + 1, function, args =>
      match function with
      | .max => extremeBy fuel true args
      | .min => extremeBy fuel false args
      | .sorted => do
          match ← args.fill ["iterable", "key", "reverse"] 1 with
          | some x :: options => do
              let reverse ← flagOf (options[1]?).join
              let key ← keyOf (options[0]?).join
              let items ← Run.items x
              -- a key function must not change what is sorted
              Run.reading x do
                let keyed ← items.mapM (withKey fuel key)
                Run.newList (← sortByKey (comesBefore reverse) keyed)
          | _ => failure
      | .dir => do
          Run.newList ((methodsOf (← args.one)).map fun method => .text method.name)
      | .hasattr => do
          match ← args.between 2 2 with
          | [x, .string name] =>
              return .bool (methodOf? x (String.ofList (characters name))).isSome
          | _ => failure
      | .getattr => do
          match ← args.between 2 3 with
          | x :: .string name :: other =>
              match methodOf? x (String.ofList (characters name)), other with
              | some method, _ => Run.newMethod x method
              | none, [value] => return value
              | none, _ => failure
          | _ => failure
      | function => callSimple function args

/-- The largest or the smallest of the arguments, or of the items of the only one. -/
def extremeBy : Nat → Bool → Args → Run Value
  | 0, _, _ => failure
  | fuel + 1, reverse, args => do
      let options ← (Args.mk [] args.named).fill ["key"] 0
      let key ← keyOf (options[0]?).join
      let source :=
        match args.positional with
        | [x] => x
        | items => .tuple items
      let items ← Run.items source
      Run.reading source do
        match items with
        | [] => failure
        | first :: rest =>
            let best ← rest.foldlM (fun best item => do
              let keyed ← withKey fuel key item
              return if ← comesBefore reverse keyed.1 best.1 then keyed else best)
              (← withKey fuel key first)
            return best.2

/-- An item with its key, which a function gives, or which it is itself. -/
def withKey : Nat → Option Value → Value → Run (Value × Value)
  | 0, _, _ => failure
  | _ + 1, none, item => return (item, item)
  | fuel + 1, some f, item => return (← call fuel f ⟨[item], []⟩, item)

/-- The pairs that a comprehension makes; a list needs only their first parts. -/
def comprehend : Nat → List Nat → Expr Ref → Expr Ref → Bool → List (Clause Ref) →
    Run (List (Value × Value))
  | 0, _, _, _, _, _ => failure
  | fuel + 1, bases, key, value, paired, [] => do
      let k ← eval fuel bases key
      let v ← if paired then eval fuel bases value else pure .none
      Run.require (!paired || hashable k)
      return [(k, v)]
  | fuel + 1, bases, key, value, paired, .only test :: clauses => do
      if ← Run.holds (← eval fuel bases test) then comprehend fuel bases key value paired clauses
      else return []
  | fuel + 1, bases, key, value, paired, .each target source :: clauses => do
      let source ← eval fuel bases source
      let items ← Run.items source
      Run.reading source do
        let parts ← items.mapM fun item => do
          assign fuel bases target item
          comprehend fuel bases key value paired clauses
        return parts.flatten

/-- Assigns a value. -/
def assign : Nat → List Nat → Target Ref → Value → Run Unit
  | 0, _, _, _ => failure
  | fuel + 1, bases, target, value =>
      match target with
      | .name name => writeName bases name value
      | .index x i => do
          let x ← eval fuel bases x
          let i ← eval fuel bases i
          setIndex x i value
      | .attribute _ _ => failure
      | .many targets => do
          let items ← Run.items value
          Run.require (items.length == targets.length)
          for (target, item) in targets.zip items do
            assign fuel bases target item

/-- The value that an operator makes in place: a list or a dictionary grows itself. -/
def augmented : Nat → BinaryOp → Value → Value → Run Value
  | 0, _, _, _ => failure
  | _ + 1, op, x, y => do
      match op, x, y with
      | .add, .list address, y =>
          match itemsOf? (← Run.objects) y with
          | some more =>
              Run.setList address ((← Run.listAt address) ++ more)
              return x
          | none => failure
      | .bitOr, .dict address, .dict other =>
          Run.setDict address (← putAll (← Run.dictAt address) (← Run.dictAt other))
          return x
      | op, x, y => binary op x y

/-- Runs a statement. -/
def exec : Nat → List Nat → Stmt Ref → Run Flow
  | 0, _, _ => failure
  | fuel + 1, bases, stmt =>
      match stmt with
      | .expr value => do
          let _ ← eval fuel bases value
          return .onward
      | .assign target value => do
          assign fuel bases target (← eval fuel bases value)
          return .onward
      | .augment op target value => do
          match target with
          | .name name => do
              let x ← readName bases name
              let y ← eval fuel bases value
              writeName bases name (← augmented fuel op x y)
              return .onward
          | .index x i => do
              let x ← eval fuel bases x
              let i ← eval fuel bases i
              let old ← index x i
              let y ← eval fuel bases value
              setIndex x i (← augmented fuel op old y)
              return .onward
          | _ => failure
      | .when test yes no => do
          if ← Run.holds (← eval fuel bases test) then sequence (exec fuel bases) yes
          else sequence (exec fuel bases) no
      | .each target source body => do
          let source ← eval fuel bases source
          let items ← Run.items source
          Run.reading source do
            loop (fun item => do
              assign fuel bases target item
              sequence (exec fuel bases) body) items
      | .define name f => do
          writeName bases name (← makeFunction fuel bases f)
          return .onward
      | .give none => return .give .none
      | .give (some value) => return .give (← eval fuel bases value)
      | .leave => return .leave
      | .next => return .next
      | .pass => return .onward

end

/-- Runs the statements of a whole text. -/
def runProgram (fuel : Nat) (program : Program) : Run Unit := do
  let base ← Run.newPlaces program.places
  let _ ← sequence (exec fuel [base]) program.statements

end Shorthand.Expression
