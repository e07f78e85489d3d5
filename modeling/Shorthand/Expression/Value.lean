import Shorthand.Expression.Number
import Shorthand.Expression.Scope
import Shorthand.Text.Utf8

/-!
# Values and the machine that holds them

Most values are what they are.  Lists and dictionaries can change, and every name that stands
for one sees the change; so such a value is only the address of an object, and the objects are
kept by the machine.  The machine also holds the places of functions, because a function that is
made inside another one goes on using the places of the outer one.

A computation on the machine may fail.  What it has printed before stays printed.
-/

namespace Shorthand.Expression

/-! ## Values -/

/-- The ways to see a text as a sequence. -/
inductive View where
  /-- Its bytes, each as a text. -/
  | elems
  /-- Its bytes as numbers. -/
  | elemOrds
  /-- Its characters, each as a text. -/
  | codepoints
  /-- Its characters as numbers. -/
  | codepointOrds
  /-- The bytes of a value of bytes, as numbers. -/
  | byteOrds
deriving DecidableEq, Inhabited

/-- The functions that belong to a value. -/
inductive Method where
  | append
  | capitalize
  | clear
  | codepointOrds
  | codepoints
  | count
  | elemOrds
  | elems
  | endswith
  | extend
  | find
  | format
  | get
  | index
  | insert
  | isalnum
  | isalpha
  | isdigit
  | islower
  | isspace
  | istitle
  | isupper
  | items
  | join
  | keys
  | lower
  | lstrip
  | partition
  | pop
  | popitem
  | remove
  | dropStart
  | dropEnd
  | replace
  | rfind
  | rindex
  | rpartition
  | rsplit
  | rstrip
  | setdefault
  | split
  | splitlines
  | startswith
  | strip
  | title
  | update
  | upper
  | values
deriving DecidableEq, Inhabited

/-- A value. -/
inductive Value where
  | none
  | bool (value : Bool)
  | int (value : Int)
  | float (value : Float)
  /-- A text, as its UTF-8 bytes. -/
  | string (bytes : List UInt8)
  | bytes (bytes : List UInt8)
  | tuple (items : List Value)
  | range (start stop step : Int)
  | list (address : Nat)
  | dict (address : Nat)
  /-- A function with the values of its optional parameters and the places it can see, by the
  number of the first place of each function around it, the innermost first. -/
  | closure (identity : Nat) (function : Function Ref) (defaults : List Value)
      (bases : List Nat)
  | builtin (function : Builtin)
  /-- A function that belongs to a value; every time it is asked for, another one is made. -/
  | method (identity : Nat) (receiver : Value) (method : Method)
  | view (view : View) (bytes : List UInt8)

/-- The bytes of a text. -/
def utf8 (text : String) : List UInt8 := text.toUTF8.toList

namespace Value

/-- A text as a value. -/
def text (text : String) : Value := .string (utf8 text)

/-- The name of the value's type. -/
def typeName : Value → String
  | none => "NoneType"
  | bool _ => "bool"
  | int _ => "int"
  | float _ => "float"
  | string _ => "string"
  | bytes _ => "bytes"
  | tuple _ => "tuple"
  | range _ _ _ => "range"
  | list _ => "list"
  | dict _ => "dict"
  | closure _ _ _ _ => "function"
  | builtin _ => "builtin_function_or_method"
  | method _ _ _ => "builtin_function_or_method"
  | view .elems _ => "string.elems"
  | view .elemOrds _ => "string.elems"
  | view .codepoints _ => "string.codepoints"
  | view .codepointOrds _ => "string.codepoints"
  | view .byteOrds _ => "bytes.elems"

mutual

/-- How deep tuples are nested in a value. -/
def depth : Value → Nat
  | tuple items => depthOfAll items + 1
  | _ => 1

/-- How deep tuples are nested in values. -/
def depthOfAll : List Value → Nat
  | [] => 0
  | value :: values => max (depth value) (depthOfAll values)

end

end Value

/-- The number of items of a range. -/
def rangeCount (start stop step : Int) : Nat :=
  if 0 < step then (if start < stop then ((stop - 1 - start) / step + 1).toNat else 0)
  else if step < 0 then (if stop < start then ((start - 1 - stop) / (-step) + 1).toNat else 0)
  else 0

/-! ## The machine -/

/-- What lists and dictionaries hold.  While `readers` loops run over it, it cannot change. -/
inductive Object where
  | list (items : List Value) (readers : Nat)
  /-- The entries in the order in which their keys came. -/
  | dict (entries : List (Value × Value)) (readers : Nat)

/-- How deep tuples are nested in what an object holds. -/
def Object.depth : Object → Nat
  | list items _ => Value.depthOfAll items
  | dict entries _ =>
      max (Value.depthOfAll (entries.map Prod.fst)) (Value.depthOfAll (entries.map Prod.snd))

/-- The state of a computation. -/
structure Machine where
  /-- The places of all functions that have run; an empty one has no value yet. -/
  places : Array (Option Value)
  objects : Array Object
  globals : List (String × Value)
  /-- The lines that were printed, the last one first. -/
  printed : List (List UInt8)
  /-- The identities of the functions that are running. -/
  running : List Nat
  /-- The number of functions that were made, those that belong to a value included. -/
  made : Nat

/-- The machine before anything has run. -/
def Machine.start : Machine := ⟨#[], #[], [], [], [], 0⟩

/-- A computation that may fail. -/
abbrev Run := OptionT (StateM Machine)

namespace Run

/-- A computation that fails where there is no result. -/
def ofOption {α : Type} : Option α → Run α
  | some a => pure a
  | none => failure

/-- Fails unless the condition holds. -/
def require (condition : Bool) : Run Unit := if condition then pure () else failure

/-- The objects of the machine. -/
def objects : Run (Array Object) := return (← get).objects

/-- Makes a list. -/
def newList (items : List Value) : Run Value := do
  let m ← get
  set { m with objects := m.objects.push (.list items 0) }
  return .list m.objects.size

/-- Makes a dictionary. -/
def newDict (entries : List (Value × Value)) : Run Value := do
  let m ← get
  set { m with objects := m.objects.push (.dict entries 0) }
  return .dict m.objects.size

/-- A number by which a function that is made is known. -/
def newIdentity : Run Nat := do
  let m ← get
  set { m with made := m.made + 1 }
  return m.made

/-- Makes a function that belongs to a value. -/
def newMethod (receiver : Value) (method : Method) : Run Value := do
  return .method (← newIdentity) receiver method

/-- The items of a list. -/
def listAt (address : Nat) : Run (List Value) := do
  match (← get).objects[address]? with
  | some (.list items _) => return items
  | _ => failure

/-- The entries of a dictionary. -/
def dictAt (address : Nat) : Run (List (Value × Value)) := do
  match (← get).objects[address]? with
  | some (.dict entries _) => return entries
  | _ => failure

/-- Changes a list, unless a loop runs over it. -/
def setList (address : Nat) (items : List Value) : Run Unit := do
  match (← get).objects[address]? with
  | some (.list _ 0) =>
      modify fun m => { m with objects := m.objects.setIfInBounds address (.list items 0) }
  | _ => failure

/-- Changes a dictionary, unless a loop runs over it. -/
def setDict (address : Nat) (entries : List (Value × Value)) : Run Unit := do
  match (← get).objects[address]? with
  | some (.dict _ 0) =>
      modify fun m => { m with objects := m.objects.setIfInBounds address (.dict entries 0) }
  | _ => failure

/-- Counts the loops that run over a value: `change` gives the new number. -/
def countReaders (change : Nat → Nat) (value : Value) : Run Unit :=
  match value with
  | .list address | .dict address =>
      modify fun m =>
        match m.objects[address]? with
        | some (.list items readers) =>
            { m with objects := m.objects.setIfInBounds address (.list items (change readers)) }
        | some (.dict entries readers) =>
            { m with objects := m.objects.setIfInBounds address (.dict entries (change readers)) }
        | none => m
  | _ => pure ()

/-- Runs a loop over a value, which cannot change meanwhile. -/
def reading {α : Type} (value : Value) (loop : Run α) : Run α := do
  countReaders (· + 1) value
  let result ← loop
  countReaders (· - 1) value
  return result

/-- Prints a line. -/
def print (line : List UInt8) : Run Unit :=
  modify fun m => { m with printed := line :: m.printed }

/-- The value of a place. -/
def placeAt (number : Nat) : Run Value := do
  match (← get).places[number]? with
  | some (some value) => return value
  | _ => failure

/-- Gives a place a value. -/
def setPlace (number : Nat) (value : Value) : Run Unit :=
  modify fun m => { m with places := m.places.setIfInBounds number (some value) }

/-- Makes places without values, and returns the number of the first. -/
def newPlaces (count : Nat) : Run Nat := do
  let m ← get
  set { m with places := m.places ++ Array.replicate count none }
  return m.places.size

/-- The value of a global. -/
def globalAt (name : String) : Run Value := do
  ofOption ((← get).globals.lookup name)

/-- Gives a global a value. -/
def setGlobal (name : String) (value : Value) : Run Unit :=
  modify fun m => { m with globals := (name, value) :: m.globals }

end Run

/-! ## Sequences -/

/-- Bytes as text, with every byte that is out of place replaced. -/
def characters (bytes : List UInt8) : List Char := Text.Utf8.decodeOnto [] bytes

/-- The items of a view. -/
def viewItems (bytes : List UInt8) : View → List Value
  | .elems => bytes.map fun b => .string [b]
  | .elemOrds | .byteOrds => bytes.map fun b => .int b.toNat
  | .codepoints => (characters bytes).map fun c => .string (String.utf8EncodeChar c)
  | .codepointOrds => (characters bytes).map fun c => .int c.toNat

/-- The items of a range. -/
def rangeItems (start stop step : Int) : List Value :=
  (List.range (rangeCount start stop step)).map fun (k : Nat) =>
    Value.int (start + (k : Int) * step)

/-- The items that a loop over the value sees; texts cannot be looped over. -/
def itemsOf? (objects : Array Object) : Value → Option (List Value)
  | .tuple items => some items
  | .range start stop step => some (rangeItems start stop step)
  | .view view bytes => some (viewItems bytes view)
  | .list address | .dict address =>
      match objects[address]? with
      | some (.list items _) => some items
      | some (.dict entries _) => some (entries.map Prod.fst)
      | none => none
  | _ => none

/-- The length of a value that has one. -/
def lengthOf? (objects : Array Object) : Value → Option Nat
  | .string bytes | .bytes bytes => some bytes.length
  | .view .elems bytes | .view .elemOrds bytes => some bytes.length
  | .view _ _ => none
  | .range start stop step => some (rangeCount start stop step)
  | value => (itemsOf? objects value).map List.length

/-- Whether a condition on the value holds: it is not zero, and not empty. -/
def truth (objects : Array Object) : Value → Bool
  | .none => false
  | .bool value => value
  | .int value => value != 0
  | .float value => value != 0
  | .string bytes | .bytes bytes => !bytes.isEmpty
  | .tuple items => !items.isEmpty
  | .range start stop step => rangeCount start stop step != 0
  | .list address | .dict address =>
      match objects[address]? with
      | some (.list items _) => !items.isEmpty
      | some (.dict entries _) => !entries.isEmpty
      | none => false
  | .closure _ _ _ _ | .builtin _ | .method _ _ _ | .view _ _ => true

/-- The items that a loop over the value sees. -/
def Run.items (value : Value) : Run (List Value) := do
  ofOption (itemsOf? (← objects) value)

/-- Whether a condition on the value holds. -/
def Run.holds (value : Value) : Run Bool := return truth (← objects) value

end Shorthand.Expression
