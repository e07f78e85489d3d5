import Shorthand.Expression.Value

/-!
# Equality and order of values

Values of different types are never equal, integers and fractions apart.  Only some types are
ordered.  Sequences compare item by item, and only to a limited depth: beyond it a comparison
fails.
-/

namespace Shorthand.Expression

/-- How deep a comparison goes into sequences. -/
def compareDepth : Nat := 10

/-- The order of two numbers, of which the one that is no number is the largest. -/
def compareFloats (x y : Float) : Ordering :=
  if x > y then .gt
  else if x < y then .lt
  else if x == y then .eq
  else if !x.isNaN then .lt
  else if !y.isNaN then .gt
  else .eq

/-- The order of an integer and a number. -/
def compareMixed (n : Int) (x : Float) : Ordering :=
  if x.isNaN then .lt
  else if x.isInf then (if x > 0 then .lt else .gt)
  else Number.compareInt n x

/-- The order of two sequences of bytes. -/
def compareBytes : List UInt8 → List UInt8 → Ordering
  | [], [] => .eq
  | [], _ :: _ => .lt
  | _ :: _, [] => .gt
  | a :: as, b :: bs => if a < b then .lt else if b < a then .gt else compareBytes as bs

/-- Whether all pairs are equal by a test that may fail; the first pair that is not decides. -/
def allEqual? (equal? : Value → Value → Option Bool) : List Value → List Value → Option Bool
  | [], [] => some true
  | a :: as, b :: bs =>
      match equal? a b with
      | some true => allEqual? equal? as bs
      | other => other
  | _, _ => some false

/-- The entry of a key. -/
def valueFor? (equal? : Value → Value → Option Bool) (key : Value) :
    List (Value × Value) → Option (Option Value)
  | [] => some none
  | (k, v) :: rest =>
      match equal? k key with
      | some true => some (some v)
      | some false => valueFor? equal? key rest
      | none => none

/-- Whether every entry has an equal one among the others. -/
def entriesEqual? (equal? : Value → Value → Option Bool) (others : List (Value × Value)) :
    List (Value × Value) → Option Bool
  | [] => some true
  | (k, v) :: rest =>
      match valueFor? equal? k others with
      | some (some w) =>
          match equal? v w with
          | some true => entriesEqual? equal? others rest
          | other => other
      | some none => some false
      | none => none

/-- Whether two values are equal, to the depth given. -/
def equalTo? (objects : Array Object) : Nat → Value → Value → Option Bool
  | 0, _, _ => none
  | _ + 1, .none, .none => some true
  | _ + 1, .bool a, .bool b => some (a == b)
  | _ + 1, .int a, .int b => some (a == b)
  | _ + 1, .float a, .float b => some (compareFloats a b == .eq)
  | _ + 1, .int a, .float b => some (compareMixed a b == .eq)
  | _ + 1, .float a, .int b => some (compareMixed b a == .eq)
  | _ + 1, .string a, .string b => some (a == b)
  | _ + 1, .bytes a, .bytes b => some (a == b)
  | _ + 1, .range a b c, .range d e f =>
      let count := rangeCount a b c
      some (count == rangeCount d e f && (count == 0 || (a == d && (count == 1 || c == f))))
  | _ + 1, .closure a _ _ _, .closure b _ _ _ => some (a == b)
  | _ + 1, .builtin a, .builtin b => some (a == b)
  | _ + 1, .method a _ _, .method b _ _ => some (a == b)
  | _ + 1, .view a as, .view b bs => some (a == b && as == bs)
  | depth + 1, .tuple a, .tuple b =>
      if a.length == b.length then allEqual? (equalTo? objects depth) a b else some false
  | depth + 1, .list a, .list b =>
      match objects[a]?, objects[b]? with
      | some (.list as _), some (.list bs _) =>
          if as.length == bs.length then allEqual? (equalTo? objects depth) as bs else some false
      | _, _ => none
  | depth + 1, .dict a, .dict b =>
      match objects[a]?, objects[b]? with
      | some (.dict as _), some (.dict bs _) =>
          if as.length == bs.length then entriesEqual? (equalTo? objects depth) bs as
          else some false
      | _, _ => none
  | _ + 1, _, _ => some false

/-- The order of sequences: of the first items that are not equal, or else of the lengths. -/
def orderItems? (equal? : Value → Value → Option Bool) (order? : Value → Value → Option Ordering) :
    List Value → List Value → Option Ordering
  | [], [] => some .eq
  | [], _ :: _ => some .lt
  | _ :: _, [] => some .gt
  | a :: as, b :: bs =>
      match equal? a b with
      | some true => orderItems? equal? order? as bs
      | some false => order? a b
      | none => none

/-- The order of two values, to the depth given; nothing if they are not ordered. -/
def orderTo? (objects : Array Object) : Nat → Value → Value → Option Ordering
  | 0, _, _ => none
  | _ + 1, .bool a, .bool b => some (compare a.toNat b.toNat)
  | _ + 1, .int a, .int b => some (compare a b)
  | _ + 1, .float a, .float b => some (compareFloats a b)
  | _ + 1, .int a, .float b => some (compareMixed a b)
  | _ + 1, .float a, .int b => some (compareMixed b a).swap
  | _ + 1, .string a, .string b => some (compareBytes a b)
  | _ + 1, .bytes a, .bytes b => some (compareBytes a b)
  | depth + 1, .tuple a, .tuple b =>
      orderItems? (equalTo? objects depth) (orderTo? objects depth) a b
  | depth + 1, .list a, .list b =>
      match objects[a]?, objects[b]? with
      | some (.list as _), some (.list bs _) =>
          orderItems? (equalTo? objects depth) (orderTo? objects depth) as bs
      | _, _ => none
  | _ + 1, _, _ => none

mutual

/-- Whether a value can be a key. -/
def hashable : Value → Bool
  | .tuple items => allHashable items
  | .list _ | .dict _ | .range _ _ _ | .view _ _ => false
  | _ => true

/-- Whether a tuple of values can be a key. -/
def allHashable : List Value → Bool
  | [] => true
  | value :: values => hashable value && allHashable values

end

namespace Run

/-- Whether two values are equal. -/
def equal (x y : Value) : Run Bool := do
  ofOption (equalTo? (← objects) compareDepth x y)

/-- The order of two values. -/
def order (x y : Value) : Run Ordering := do
  ofOption (orderTo? (← objects) compareDepth x y)

/-- The value of a key, if there is one. -/
def findEntry (entries : List (Value × Value)) (key : Value) : Run (Option Value) := do
  require (hashable key)
  ofOption (valueFor? (equalTo? (← objects) compareDepth) key entries)

/-- The entries with one set: in place if the key is there, otherwise at the end. -/
def putEntry (entries : List (Value × Value)) (key value : Value) :
    Run (List (Value × Value)) := do
  match ← findEntry entries key with
  | none => return entries ++ [(key, value)]
  | some _ =>
      let objects ← objects
      return entries.map fun (k, v) =>
        if equalTo? objects compareDepth k key == some true then (k, value) else (k, v)

/-- Whether the value is among the items. -/
def among (value : Value) : List Value → Run Bool
  | [] => pure false
  | item :: items => do if ← equal item value then pure true else among value items

/-- The number of items before the first that equals the value, from the number `from_` on. -/
def indexOf (value : Value) (from_ : Nat) : List Value → Run (Option Nat)
  | [] => pure none
  | item :: items => do
      if ← equal item value then pure (some from_) else indexOf value (from_ + 1) items

end Run

end Shorthand.Expression
