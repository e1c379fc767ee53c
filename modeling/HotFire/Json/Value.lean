/-! JSON trees. A number is kept as it is written, since what it is worth depends on
who reads it. -/

namespace HotFire

/-- The number `digits` after an `e`, below zero where `negative` holds. -/
structure JsonExponent where
  negative : Bool
  digits : List Char
  deriving DecidableEq, Repr

/-- The digits of a number; without digits in `fraction` it has no point. -/
structure JsonNumber where
  negative : Bool
  whole : List Char
  fraction : List Char
  exponent : Option JsonExponent
  deriving DecidableEq, Repr

/-- A string has no text where its escapes name half of a surrogate pair. -/
inductive JsonValue where
  | null
  | bool (b : Bool)
  | number (n : JsonNumber)
  | string (s : Option String)
  | array (values : List JsonValue)
  | object (members : List (Option String × JsonValue))

end HotFire
