import Shorthand.Expression.Builtin
import Shorthand.Expression.TextMethod

/-!
# The functions that belong to values

Which functions belong to which values, and those of lists and dictionaries, which can be asked
and changed.
-/

namespace Shorthand.Expression

/-- The functions that belong to a value. -/
def methodsOf : Value → List Method
  | .string _ =>
      [.capitalize, .codepointOrds, .codepoints, .count, .elemOrds, .elems, .endswith, .find,
       .format, .index, .isalnum, .isalpha, .isdigit, .islower, .isspace, .istitle, .isupper,
       .join, .lower, .lstrip, .partition, .dropStart, .dropEnd, .replace, .rfind,
       .rindex, .rpartition, .rsplit, .rstrip, .split, .splitlines, .startswith, .strip, .title,
       .upper]
  | .bytes _ => [.elems]
  | .list _ => [.append, .clear, .extend, .index, .insert, .pop, .remove]
  | .dict _ => [.clear, .get, .items, .keys, .pop, .popitem, .setdefault, .update, .values]
  | _ => []

/-- The function with a name that belongs to a value. -/
def methodOf? (value : Value) (name : String) : Option Method :=
  (methodsOf value).find? fun method => method.name == name

/-! ## Lists and dictionaries -/

/-- Calls a function that belongs to a list. -/
def callList (address : Nat) (method : Method) (args : Args) : Run Value := do
  let items ← Run.listAt address
  match method with
  | .append => Run.setList address (items ++ [← args.one]); return .none
  | .clear => args.nothing; Run.setList address []; return .none
  | .extend =>
      let more ← Run.items (← args.one)
      Run.setList address (items ++ more)
      return .none
  | .index =>
      match ← args.between 1 3 with
      | value :: limits =>
          let (start, stop) ← bounds items.length limits[0]? limits[1]?
          let within := (items.take stop.toNat).drop start.toNat
          return .int (← Run.ofOption (← Run.indexOf value start.toNat within))
      | _ => failure
  | .insert =>
      match ← args.between 2 2 with
      | [place, value] =>
          let i ← Run.word place
          let i := (if i < 0 then i + items.length else i).toNat
          Run.setList address (items.take i ++ value :: items.drop i)
          return .none
      | _ => failure
  | .pop =>
      let place ← (do
        match ← args.between 0 1 with
        | [place] => Run.word place
        | _ => pure (-1))
      let i := if place < 0 then place + items.length else place
      if i < 0 then failure
      else
        let value ← Run.ofOption items[i.toNat]?
        Run.setList address (items.eraseIdx i.toNat)
        return value
  | .remove =>
      let k ← Run.ofOption (← Run.indexOf (← args.one) 0 items)
      Run.setList address (items.eraseIdx k)
      return .none
  | _ => failure

/-- The entries without the one of a key. -/
def withoutKey (entries : List (Value × Value)) (key : Value) : Run (List (Value × Value)) := do
  let objects ← Run.objects
  return entries.filter fun (k, _) => equalTo? objects compareDepth k key != some true

/-- A key with an optional other value, and the value of the key. -/
def keyWithDefault (entries : List (Value × Value)) (args : Args) :
    Run (Value × Option Value × Option Value) := do
  match ← args.between 1 2 with
  | key :: other => return (key, other[0]?, ← Run.findEntry entries key)
  | _ => failure

/-- Calls a function that belongs to a dictionary. -/
def callDict (address : Nat) (method : Method) (args : Args) : Run Value := do
  let entries ← Run.dictAt address
  match method with
  | .clear => args.nothing; Run.setDict address []; return .none
  | .get =>
      let (_, other, found) ← keyWithDefault entries args
      return found.getD (other.getD .none)
  | .items => args.nothing; Run.newList (entries.map fun (k, v) => .tuple [k, v])
  | .keys => args.nothing; Run.newList (entries.map Prod.fst)
  | .values => args.nothing; Run.newList (entries.map Prod.snd)
  | .pop =>
      let (key, other, found) ← keyWithDefault entries args
      match found with
      | some value =>
          Run.setDict address (← withoutKey entries key)
          return value
      | none => Run.ofOption other
  | .popitem =>
      args.nothing
      match entries with
      | (key, value) :: rest =>
          Run.setDict address rest
          return .tuple [key, value]
      | [] => failure
  | .setdefault =>
      let (key, other, found) ← keyWithDefault entries args
      match found with
      | some value => return value
      | none =>
          let value := other.getD .none
          Run.setDict address (← Run.putEntry entries key value)
          return value
  | .update =>
      Run.setDict address (← putAll entries (← givenEntries args))
      return .none
  | _ => failure

/-- Calls a function that belongs to a value. -/
def callMethod (receiver : Value) (method : Method) (args : Args) : Run Value := do
  match receiver with
  | .string text => callText text method args
  | .bytes bytes =>
      args.nothing
      return .view .byteOrds bytes
  | .list address => callList address method args
  | .dict address => callDict address method args
  | _ => failure

end Shorthand.Expression
