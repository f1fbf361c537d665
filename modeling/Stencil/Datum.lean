/-
This file holds the data of a host program and how they become the values of a template.

Data are nested lists and mappings over plain data, formattable values, and values that
have been built already. A mapping has keys of many kinds, of which those that are equal
are one; a number equals a number of the same worth whatever their formats, and a truth
value counts as zero or one. In a value keys are texts, so two keys may come together
there, and the later one wins. Data of other types are refused, and so are integers with
more digits than are written.
-/

import Stencil.Color
import Stencil.Value

namespace Stencil

/-! ### Refusals -/

/-- Why data have no value. -/
inductive Datum.Refusal where
  /-- They are of a type that has no values. -/
  | foreign (typeName : String)
  /-- An integer has more decimal digits than are written. -/
  | integerTooLong
  deriving DecidableEq, Repr

/-- The wording of a refusal. -/
def Datum.Refusal.message : Datum.Refusal → String
  | foreign typeName => "cannot convert " ++ typeName ++ " to a template value"
  | integerTooLong => Number.maxDigitsMessage ""

/-! ### Keys -/

/-- A key of a mapping. -/
inductive Key where
  | none
  | bool (value : Bool)
  | integer (value : Int)
  | real (value : Number.Binary64)
  | text (value : String)
  | tuple (items : List Key)
  | bytes (value : List UInt8)
  | color (value : Color)
  /-- A value of a template: nil, a boolean, a string, a list of such values, or a color. -/
  | nilValue
  | boolValue (value : Bool)
  | stringValue (value : String)
  | listValue (items : List Key)
  | colorValue (value : Color)
  deriving Inhabited

namespace Key

/-- Bytes in quotes, each as the character of its number. -/
def quotedBytes (value : List UInt8) : String :=
  let text := value.map fun byte => Char.ofNat byte.toNat
  let mark := Text.quoteFor text
  "b" ++ String.ofList (mark :: (text.flatMap (Text.quoteChar mark true) ++ [mark]))

/-- A truth value as it is written in a key. -/
def boolWord (value : Bool) : String := if value then "True" else "False"

/-- The channels of a color, each with its letter. -/
def describedColor (color : Color) : String :=
  "Color(" ++ ", ".intercalate (Channel.all.map fun channel =>
    String.singleton channel.letter ++ "=" ++ toString (color.channel channel).toNat) ++ ")"

mutual

/-- A key as it is written inside another one. -/
def quoted : Key → String
  | none => "None"
  | bool value => boolWord value
  | integer value => toString value
  | real value => value.text
  | text value => Text.quoted value
  | tuple items => "(" ++ quotedItems items ++ ")"
  | bytes value => quotedBytes value
  | color value => describedColor value
  | nilValue => "NilValue()"
  | boolValue value => "BoolValue(value=" ++ boolWord value ++ ")"
  | stringValue value => "StringValue(value=" ++ Text.quoted value ++ ")"
  | listValue items => "ListValue(items=(" ++ quotedItems items ++ "))"
  | colorValue value => "FormattableValue(obj=" ++ describedColor value ++ ")"

/-- The items of a tuple; a single one is followed by a comma. -/
def quotedItems : List Key → String
  | [] => ""
  | [item] => quoted item ++ ","
  | first :: second :: rest => quoted first ++ ", " ++ quotedFurther (second :: rest)

/-- The items of a tuple behind its first one. -/
def quotedFurther : List Key → String
  | [] => ""
  | [item] => quoted item
  | first :: second :: rest => quoted first ++ ", " ++ quotedFurther (second :: rest)

end

/-- The text of a key, however long its integers are. -/
def display : Key → String
  | text value => value
  | color value => value.toString
  | nilValue => "nil"
  | boolValue value => Value.boolText value
  | stringValue value => value
  | key => key.quoted

mutual

/-- An integer in a key has more digits than are written. -/
def isTooLong : Key → Bool
  | integer value => Number.isTooLong value
  | tuple items | listValue items => anyTooLong items
  | _ => false

/-- An integer in one of a list of keys has more digits than are written. -/
def anyTooLong : List Key → Bool
  | [] => false
  | first :: rest => isTooLong first || anyTooLong rest

end

/-- The text of a key, which is its key in a value, if its integers are written. -/
def written (key : Key) : Except Datum.Refusal String :=
  if key.isTooLong then .error .integerTooLong else .ok key.display

/-- The whole number that a key is worth, if it is one of the kinds that have one. -/
def wholeNumber? : Key → Option Int
  | bool value => some (if value then 1 else 0)
  | integer value => some value
  | _ => .none

mutual

/-- Two keys are equal. -/
def same : (first second : Key) → Bool
  | none, none => true
  | real value, real value' => value.same value'
  | real value, other => other.wholeNumber?.any value.equalsInt
  | text value, text value' => value == value'
  | tuple items, tuple items' => sameItems items items'
  | bytes value, bytes value' => value == value'
  | color value, color value' => value == value'
  | nilValue, nilValue => true
  | boolValue value, boolValue value' => value == value'
  | stringValue value, stringValue value' => value == value'
  | listValue items, listValue items' => sameItems items items'
  | colorValue value, colorValue value' => value == value'
  | bool value, real value' => value'.equalsInt (if value then 1 else 0)
  | integer value, real value' => value'.equalsInt value
  | bool value, other => other.wholeNumber? == some (if value then 1 else 0)
  | integer value, other => other.wholeNumber? == some value
  | _, _ => false

/-- Two lists of keys are equal item by item. -/
def sameItems : (first second : List Key) → Bool
  | [], [] => true
  | first :: rest, first' :: rest' => same first first' && sameItems rest rest'
  | [], _ :: _ | _ :: _, [] => false

end

end Key

/-! ### Data -/

/-- Data of a host program. -/
inductive Datum where
  | none
  | bool (value : Bool)
  | text (value : String)
  | integer (value : Int)
  | real (value : Number.Binary64)
  | sequence (items : List Datum)
  | mapping (entries : List (Key × Datum))
  | formattable (object : Formattable)
  /-- A value that has been built already. -/
  | built (value : Value)
  /-- Data of a type that has no values. -/
  | foreign (typeName : String)

namespace Datum

instance : Inhabited Datum := ⟨.none⟩

/-- The entries with one more. Of equal keys the first one and the last value are kept. -/
def putEntry (entries : List (Key × Datum)) (key : Key) (datum : Datum) : List (Key × Datum) :=
  match entries with
  | [] => [(key, datum)]
  | (first, old) :: rest =>
    if first.same key then (first, datum) :: rest else (first, old) :: putEntry rest key datum

/-- The mapping that a list of pairs makes. -/
def ofPairs (pairs : List (Key × Datum)) : Datum :=
  .mapping (pairs.foldl (fun entries pair => putEntry entries pair.1 pair.2) [])

/-! ### From data to values -/

mutual

/-- The value that data make. The first data in reading order that have no value are
refused, also where a later entry of a mapping would have replaced them. In an entry the
key comes before what stands under it. -/
def toValue : Datum → Except Refusal Value
  | none => .ok .nil
  | bool value => .ok (.bool value)
  | text value => .ok (.string value)
  | integer value =>
    if Number.isTooLong value then .error .integerTooLong else .ok (.string (toString value))
  | real value => .ok (.string value.text)
  | sequence items => (toValues items).map .list
  | mapping entries => (toPairs entries).map fun pairs => .map (Entries.ofPairs pairs)
  | formattable object => .ok (.formattable object)
  | built value => .ok value
  | foreign typeName => .error (.foreign typeName)

/-- The values that the items of a list make. -/
def toValues : List Datum → Except Refusal (List Value)
  | [] => .ok []
  | first :: rest =>
    match toValue first with
    | .error refusal => .error refusal
    | .ok value => (toValues rest).map (value :: ·)

/-- The values that the entries of a mapping make, each with the text of its key. -/
def toPairs : List (Key × Datum) → Except Refusal (List (String × Value))
  | [] => .ok []
  | (key, first) :: rest =>
    match key.written with
    | .error refusal => .error refusal
    | .ok name =>
      match toValue first with
      | .error refusal => .error refusal
      | .ok value => (toPairs rest).map ((name, value) :: ·)

end

end Datum

end Stencil
