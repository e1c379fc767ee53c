import HotFire.Decimal.Reading
import HotFire.Decimal.Shortest
import HotFire.Json.Value

/-! What a JSON number is worth, as a natural number and as a double, and the number
written for either. -/

namespace HotFire

namespace JsonNumber

/-- Whether the number has neither point nor exponent. -/
def isWhole (n : JsonNumber) : Bool := n.fraction.isEmpty && n.exponent.isNone

/-- A number without sign, point and exponent. -/
def natural? (n : JsonNumber) : Option Nat :=
  if n.isWhole && !n.negative then some (Nat.ofDigitChars 10 n.whole 0) else none

def ofNat (n : Nat) : JsonNumber := ⟨false, Nat.toDigits 10 n, [], none⟩

/-- Adds digits to a significand while it fits 64 bits, and gives those left over. -/
def gather (significand : Nat) : List Char → Nat × List Char
  | [] => (significand, [])
  | d :: ds =>
    let next := significand * 10 + (d.toNat - '0'.toNat)
    if next < UInt64.size then gather next ds else (significand, d :: ds)

/-- The greatest power of ten that is a double. -/
def maxPower : Nat := 308

/-- `x * 10 ^ e` by one rounded multiplication or division, after divisions by the
greatest power of ten where `e` is below its reach. None beyond the doubles. -/
def scale? (x : Float) (e : Int) : Option Float :=
  if 0 ≤ e then
    if e ≤ maxPower then
      let y := x * scaled 1 e
      if y.isInf then none else some y
    else if x == 0 then some x else none
  else if -e ≤ maxPower then some (x / scaled 1 (-e))
  else if x == 0 then some x
  else scale? (x / scaled 1 maxPower) (e + maxPower)
termination_by e.natAbs
decreasing_by simp only [maxPower] at *; omega

/-- The largest exponent that is looked at; a larger one leaves nothing of the number, or no
double for it. -/
def maxExponent : Nat := 2147483647

/-- A significand of at most 64 bits, to which the leading digits go, is scaled by the
power of ten that the exponent and the other digits leave. -/
def double? (n : JsonNumber) : Option Float :=
  let (significand, overWhole) := gather 0 n.whole
  let (significand, overFraction) := gather significand n.fraction
  let shift : Int := overWhole.length - (n.fraction.length - overFraction.length : Nat)
  let x := (UInt64.ofNat significand).toFloat
  let magnitude? : Option Float := match n.exponent with
    | none => scale? x shift
    | some e =>
      let power := Nat.ofDigitChars 10 e.digits 0
      if power ≤ maxExponent then scale? x (if e.negative then shift - power else shift + power)
      else if significand == 0 || e.negative then some 0
      else none
  magnitude?.map (fun x => if n.negative then -x else x)

/-- Digits with the point after the first `point` of them: positional from `0.00001` to
below `10 ^ 16`, else with one digit before the point and an exponent. -/
def layout (negative : Bool) (digits : List Char) (point : Int) : JsonNumber :=
  let zeros (n : Int) : List Char := List.replicate n.toNat '0'
  if 16 < point || point ≤ -5 then
    let power := point - 1
    ⟨negative, digits.take 1, digits.drop 1,
      some ⟨power < 0, Nat.toDigits 10 power.natAbs⟩⟩
  else if point ≤ 0 then ⟨negative, ['0'], zeros (-point) ++ digits, none⟩
  else if digits.length ≤ point.toNat then
    ⟨negative, digits ++ zeros (point - digits.length), ['0'], none⟩
  else ⟨negative, digits.take point.toNat, digits.drop point.toNat, none⟩

/-- The shortest number that reads back to a double; none for what is no number. -/
def ofFloat? (x : Float) : Option JsonNumber :=
  match Binary.ofFloat x with
  | .finite d =>
    let s := d.shortest
    let all := Nat.toDigits 10 s.digits
    if s.digits == 0 then some (layout d.negative ['0'] 1)
    else
      let digits := (all.reverse.dropWhile (· == '0')).reverse
      some (layout d.negative digits (all.length + s.exponent))
  | _ => none

end JsonNumber

end HotFire
