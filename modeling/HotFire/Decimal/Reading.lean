/-! Numbers in decimal text. -/

namespace HotFire

/-- The number that digits alone write, at least one of them. -/
def natural? (cs : List Char) : Option Nat :=
  if !cs.isEmpty && cs.all Char.isDigit then some (Nat.ofDigitChars 10 cs 0) else none

/-- Whether a sign in front says less than zero, and what follows the sign. -/
def splitSign : List Char → Bool × List Char
  | '-' :: cs => (true, cs)
  | '+' :: cs => (false, cs)
  | cs => (false, cs)

/-- Digits after at most one sign. -/
def integer? (cs : List Char) : Option Int :=
  let (negative, digits) := splitSign cs
  (natural? digits).map (fun n => if negative then -(n : Int) else n)

/-- An integer that fits 64 bits. -/
def word? (cs : List Char) : Option Int :=
  (integer? cs).filter (fun n => -Int.pow 2 63 ≤ n && n < Int.pow 2 63)

/-- The nearest double to `digits * 10 ^ exponent`, the even one of two. -/
def scaled (digits : Nat) (exponent : Int) : Float :=
  Float.ofScientific digits (exponent < 0) exponent.natAbs

namespace Double

/-- Digits with at most one point among or around them, then perhaps `e` and an
integer. -/
def magnitude? (cs : List Char) : Option Float :=
  let whole := cs.takeWhile Char.isDigit
  let rest := cs.dropWhile Char.isDigit
  let (fraction, rest) := match rest with
    | '.' :: rest => (rest.takeWhile Char.isDigit, rest.dropWhile Char.isDigit)
    | _ => ([], rest)
  let exponent? := match rest with
    | [] => some 0
    | e :: rest => if e == 'e' || e == 'E' then integer? rest else none
  match natural? (whole ++ fraction), exponent? with
  | some digits, some exponent => some (scaled digits (exponent - fraction.length))
  | _, _ => none

/-- A decimal number, or the name of a value that is none, in any case of letters. -/
def ofDecimal? (cs : List Char) : Option Float :=
  let (negative, rest) := splitSign cs
  let value := match String.ofList (rest.map Char.toLower) with
    | "inf" | "infinity" => some (1 / 0)
    | "nan" => some (0 / 0)
    | _ => magnitude? rest
  value.map (fun x => if negative then -x else x)

end Double

end HotFire
