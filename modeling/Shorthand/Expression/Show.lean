import Shorthand.Expression.Value
import Shorthand.Text.Escaped

/-!
# The text of values

Texts inside other values are shown between quotes, with what cannot be printed escaped.  A
list or a dictionary that holds itself is shown by dots.
-/

namespace Shorthand.Expression

/-- The name of a method. -/
def Method.name : Method → String
  | .append => "append"
  | .capitalize => "capitalize"
  | .clear => "clear"
  | .codepointOrds => "codepoint_ords"
  | .codepoints => "codepoints"
  | .count => "count"
  | .elemOrds => "elem_ords"
  | .elems => "elems"
  | .endswith => "endswith"
  | .extend => "extend"
  | .find => "find"
  | .format => "format"
  | .get => "get"
  | .index => "index"
  | .insert => "insert"
  | .isalnum => "isalnum"
  | .isalpha => "isalpha"
  | .isdigit => "isdigit"
  | .islower => "islower"
  | .isspace => "isspace"
  | .istitle => "istitle"
  | .isupper => "isupper"
  | .items => "items"
  | .join => "join"
  | .keys => "keys"
  | .lower => "lower"
  | .lstrip => "lstrip"
  | .partition => "partition"
  | .pop => "pop"
  | .popitem => "popitem"
  | .remove => "remove"
  | .dropStart => "removeprefix"
  | .dropEnd => "removesuffix"
  | .replace => "replace"
  | .rfind => "rfind"
  | .rindex => "rindex"
  | .rpartition => "rpartition"
  | .rsplit => "rsplit"
  | .rstrip => "rstrip"
  | .setdefault => "setdefault"
  | .split => "split"
  | .splitlines => "splitlines"
  | .startswith => "startswith"
  | .strip => "strip"
  | .title => "title"
  | .update => "update"
  | .upper => "upper"
  | .values => "values"

/-- The text of a range. -/
def showRange (start stop step : Int) : String :=
  if step != 1 then s!"range({start}, {stop}, {step})"
  else if start != 0 then s!"range({start}, {stop})"
  else s!"range({stop})"

/-- The call that makes a view. -/
def View.call : View → String
  | .elems => "elems"
  | .elemOrds => "elem_ords"
  | .codepoints => "codepoints"
  | .codepointOrds => "codepoint_ords"
  | .byteOrds => "elems"

/-- The text of a value.  `path` are the lists and dictionaries around it, and the fuel is more than
the nesting. -/
def showValue (objects : Array Object) : Nat → List Nat → Value → String
  | 0, _, _ => ""
  | fuel + 1, path, value =>
      let all (items : List Value) (path : List Nat) : String :=
        ", ".intercalate (items.map (showValue objects fuel path))
      match value with
      | .none => "None"
      | .bool value => if value then "True" else "False"
      | .int value => toString value
      | .float value => Number.text value
      | .string bytes => Text.Escaped.bytes bytes
      | .bytes bytes => "b" ++ Text.Escaped.bytes bytes
      | .tuple [item] => "(" ++ showValue objects fuel path item ++ ",)"
      | .tuple items => "(" ++ all items path ++ ")"
      | .range start stop step => showRange start stop step
      | .list address =>
          if path.contains address then "[...]"
          else
            match objects[address]? with
            | some (.list items _) => "[" ++ all items (address :: path) ++ "]"
            | _ => ""
      | .dict address =>
          if path.contains address then "\x7b...\x7d"
          else
            match objects[address]? with
            | some (.dict entries _) =>
                "\x7b" ++ ", ".intercalate (entries.map fun (k, v) =>
                  showValue objects fuel (address :: path) k ++ ": " ++
                    showValue objects fuel (address :: path) v) ++ "\x7d"
            | _ => ""
      | .closure _ function _ _ => "<function " ++ function.name ++ ">"
      | .builtin function => "<built-in function " ++ function.name ++ ">"
      | .method _ receiver method =>
          "<built-in method " ++ method.name ++ " of " ++ receiver.typeName ++ " value>"
      | .view .byteOrds bytes => "b" ++ Text.Escaped.bytes bytes ++ ".elems()"
      | .view view bytes => Text.Escaped.bytes bytes ++ "." ++ view.call ++ "()"

/-- More than the nesting of a value: on the way down every object occurs at most once. -/
def showDepth (objects : Array Object) (value : Value) : Nat :=
  objects.foldl (fun depth object => depth + object.depth) (value.depth + 1)

/-- The text of a value, as it is shown inside other values. -/
def shownText (objects : Array Object) (value : Value) : String :=
  showValue objects (showDepth objects value) [] value

/-- A value as text: a text is shown as it is. -/
def plainText (objects : Array Object) : Value → List UInt8
  | .string bytes => bytes
  | value => utf8 (shownText objects value)

end Shorthand.Expression
