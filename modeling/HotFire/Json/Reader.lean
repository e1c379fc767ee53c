import HotFire.Json.Value
import HotFire.Text.Hex

/-! JSON trees from text. -/

namespace HotFire

namespace JsonText

def isSpace (c : Char) : Bool := c == ' ' || c == '\t' || c == '\n' || c == '\r'

def skip (cs : List Char) : List Char := cs.dropWhile isSpace

/-! Strings. -/

def escaped? : Char → Option Char
  | '"' => some '"'
  | '\\' => some '\\'
  | '/' => some '/'
  | 'b' => some '\x08'
  | 'f' => some '\x0c'
  | 'n' => some '\n'
  | 'r' => some '\r'
  | 't' => some '\t'
  | _ => none

/-- The code units of a string up to its closing quote, and what follows that. A
character stands for itself; an escape by number may be half of a surrogate pair. -/
def units? : List Char → Option (List Nat × List Char)
  | [] => none
  | '"' :: cs => some ([], cs)
  | '\\' :: 'u' :: a :: b :: c :: d :: cs =>
    match hexNumber? [a, b, c, d], units? cs with
    | some n, some (us, rest) => some (n :: us, rest)
    | _, _ => none
  | '\\' :: e :: cs =>
    match escaped? e, units? cs with
    | some c, some (us, rest) => some (c.toNat :: us, rest)
    | _, _ => none
  | c :: cs =>
    if c.toNat < 0x20 || c == '\\' then none
    else (units? cs).map (fun (us, rest) => (c.toNat :: us, rest))

def isHighHalf (n : Nat) : Bool := 0xD800 ≤ n && n ≤ 0xDBFF
def isLowHalf (n : Nat) : Bool := 0xDC00 ≤ n && n ≤ 0xDFFF

/-- The characters of code units, if each half of a pair has its other half. -/
def joinUnits? : List Nat → Option (List Char)
  | [] => some []
  | [n] => if isHighHalf n || isLowHalf n then none else some [Char.ofNat n]
  | h :: l :: us =>
    if isHighHalf h then
      if isLowHalf l then
        (joinUnits? us).map (Char.ofNat (0x10000 + (h - 0xD800) * 0x400 + (l - 0xDC00)) :: ·)
      else none
    else if isLowHalf h then none
    else (joinUnits? (l :: us)).map (Char.ofNat h :: ·)

/-- A string whose opening quote is behind. -/
def string? (cs : List Char) : Option (Option String × List Char) :=
  (units? cs).map (fun (us, rest) => ((joinUnits? us).map String.ofList, rest))

/-! Numbers. -/

/-- The digits in front, at least one, and what follows. -/
def digits? (cs : List Char) : Option (List Char × List Char) :=
  let ds := cs.takeWhile Char.isDigit
  if ds.isEmpty then none else some (ds, cs.dropWhile Char.isDigit)

def fraction? : List Char → Option (List Char × List Char)
  | '.' :: cs => digits? cs
  | cs => some ([], cs)

def exponent? : List Char → Option (Option JsonExponent × List Char)
  | [] => some (none, [])
  | c :: cs =>
    if c == 'e' || c == 'E' then
      let (negative, cs) := match cs with
        | '-' :: cs => (true, cs)
        | '+' :: cs => (false, cs)
        | cs => (false, cs)
      (digits? cs).map (fun (ds, rest) => (some ⟨negative, ds⟩, rest))
    else some (none, c :: cs)

/-- A number has no zeros in front but a lone one. -/
def number? (cs : List Char) : Option (JsonNumber × List Char) := do
  let (negative, cs) := match cs with
    | '-' :: cs => (true, cs)
    | cs => (false, cs)
  let (whole, cs) ← digits? cs
  if whole.head? == some '0' && whole != ['0'] then none
  let (fraction, cs) ← fraction? cs
  let (exponent, cs) ← exponent? cs
  return (⟨negative, whole, fraction, exponent⟩, cs)

/-! Trees. -/

/-- What is left of `cs` after `word`. -/
def after? (word cs : List Char) : Option (List Char) :=
  if word.isPrefixOf cs then some (cs.drop word.length) else none

mutual

/-- A value and what follows it. Each nested reading has one step less. -/
def value? : (steps : Nat) → List Char → Option (JsonValue × List Char)
  | 0, _ => none
  | steps + 1, cs =>
    match skip cs with
    | [] => none
    | '"' :: rest => (string? rest).map (fun (s, rest) => (.string s, rest))
    | '[' :: rest =>
      match skip rest with
      | ']' :: rest => some (.array [], rest)
      | rest => (values? steps rest).map (fun (vs, rest) => (.array vs, rest))
    | '\x7b' :: rest =>
      match skip rest with
      | '\x7d' :: rest => some (.object [], rest)
      | rest => (members? steps rest).map (fun (ms, rest) => (.object ms, rest))
    | 't' :: rest => (after? "rue".toList rest).map (fun rest => (.bool true, rest))
    | 'f' :: rest => (after? "alse".toList rest).map (fun rest => (.bool false, rest))
    | 'n' :: rest => (after? "ull".toList rest).map (fun rest => (.null, rest))
    | rest => (number? rest).map (fun (n, rest) => (.number n, rest))

/-- The values up to the end of an array, at least one. -/
def values? : (steps : Nat) → List Char → Option (List JsonValue × List Char)
  | 0, _ => none
  | steps + 1, cs => do
    let (v, rest) ← value? steps cs
    match skip rest with
    | ']' :: rest => some ([v], rest)
    | ',' :: rest => (values? steps rest).map (fun (vs, rest) => (v :: vs, rest))
    | _ => none

/-- The members up to the end of an object, at least one. -/
def members? : (steps : Nat) → List Char → Option (List (Option String × JsonValue) × List Char)
  | 0, _ => none
  | steps + 1, cs =>
    match skip cs with
    | '"' :: rest => do
      let (k, rest) ← string? rest
      match skip rest with
      | ':' :: rest => do
        let (v, rest) ← value? steps rest
        match skip rest with
        | '\x7d' :: rest => some ([(k, v)], rest)
        | ',' :: rest => (members? steps rest).map (fun (ms, rest) => ((k, v) :: ms, rest))
        | _ => none
      | _ => none
    | _ => none

end

end JsonText

/-- The tree that a text is, blanks around it apart. Each step of the reading but one in
two takes a character, so the length of the text bounds their number. -/
def JsonValue.ofText? (text : String) : Option JsonValue :=
  let cs := text.toList
  match JsonText.value? (2 * cs.length + 1) cs with
  | some (v, rest) => if (JsonText.skip rest).isEmpty then some v else none
  | none => none

end HotFire
