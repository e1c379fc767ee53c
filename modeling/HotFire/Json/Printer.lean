import HotFire.Json.Value

/-! JSON text without blanks. -/

namespace HotFire

namespace JsonNumber

def chars (n : JsonNumber) : List Char :=
  (if n.negative then ['-'] else []) ++ n.whole ++
    (if n.fraction.isEmpty then [] else '.' :: n.fraction) ++
    match n.exponent with
    | none => []
    | some e => 'e' :: (if e.negative then '-' else '+') :: e.digits

end JsonNumber

namespace JsonText

def hexDigit (n : Nat) : Char := Nat.digitChar n

/-- One character of a string. -/
def escape (c : Char) : List Char :=
  if c == '"' || c == '\\' then ['\\', c]
  else if c == '\x08' then ['\\', 'b']
  else if c == '\x0c' then ['\\', 'f']
  else if c == '\n' then ['\\', 'n']
  else if c == '\r' then ['\\', 'r']
  else if c == '\t' then ['\\', 't']
  else if c.toNat < 0x20 then
    ['\\', 'u', '0', '0', hexDigit (c.toNat / 16), hexDigit (c.toNat % 16)]
  else [c]

def quote (s : String) : List Char := '"' :: s.toList.flatMap escape ++ ['"']

end JsonText

namespace JsonValue

mutual

/-- The text of a tree. A string without text is left empty. -/
def chars : JsonValue → List Char
  | null => "null".toList
  | bool true => "true".toList
  | bool false => "false".toList
  | number n => n.chars
  | string s => JsonText.quote (s.getD "")
  | array [] => ['[', ']']
  | array (v :: vs) => '[' :: v.chars ++ moreValues vs
  | object [] => ['\x7b', '\x7d']
  | object ((k, v) :: ms) =>
    '\x7b' :: JsonText.quote (k.getD "") ++ ':' :: v.chars ++ moreMembers ms

/-- The values after the first, and the end of the array. -/
def moreValues : List JsonValue → List Char
  | [] => [']']
  | v :: vs => ',' :: v.chars ++ moreValues vs

/-- The members after the first, and the end of the object. -/
def moreMembers : List (Option String × JsonValue) → List Char
  | [] => ['\x7d']
  | (k, v) :: ms => ',' :: JsonText.quote (k.getD "") ++ ':' :: v.chars ++ moreMembers ms

end

def text (v : JsonValue) : String := String.ofList v.chars

end JsonValue

end HotFire
