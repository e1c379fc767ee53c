import HotFire.Decimal.Binary

/-! The fewest decimal digits that read back to a double, and of those with so few
digits the nearest to it, an even last digit deciding between two. -/

namespace HotFire

/-- The number `digits * 10 ^ exponent`. -/
structure Decimal where
  digits : Nat
  exponent : Int
  deriving DecidableEq, Repr

namespace Decimal

/-- Whether `d` is below `n * 2 ^ e`, or at it where `closed` holds. -/
def below (closed : Bool) (d : Decimal) (n : Nat) (e : Int) : Bool :=
  let left := d.digits * Nat.pow 10 d.exponent.toNat * Nat.pow 2 (-e).toNat
  let right := n * Nat.pow 2 e.toNat * Nat.pow 10 (-d.exponent).toNat
  left < right || closed && left == right

end Decimal

namespace Dyadic

/-- Whether the next double towards zero is half as far away as the one beyond. -/
def narrowBelow (d : Dyadic) : Bool := d.mantissa == Nat.pow 2 52 && -1074 < d.exponent

/-- Whether a double nearest to `c` is the magnitude of `d`: at a half way point
that is the one with an even mantissa. -/
def readsBack (d : Dyadic) (c : Decimal) : Bool :=
  let even := d.mantissa % 2 == 0
  let low := 4 * d.mantissa - (if d.narrowBelow then 1 else 2)
  c.below even (4 * d.mantissa + 2) (d.exponent - 2) &&
    !c.below (!even) low (d.exponent - 2)

/-- The multiple of `10 ^ place` at or below the magnitude of `d`. -/
def floorAt (d : Dyadic) (place : Int) : Decimal :=
  ⟨d.mantissa * Nat.pow 2 d.exponent.toNat * Nat.pow 10 (-place).toNat /
    (Nat.pow 2 (-d.exponent).toNat * Nat.pow 10 place.toNat), place⟩

/-- The neighbour of `d` among the multiples of `10 ^ place` that reads back to it. -/
def neighbour? (d : Dyadic) (place : Int) : Option Decimal :=
  let low := d.floorAt place
  let high : Decimal := ⟨low.digits + 1, place⟩
  -- half way between the two, in tenths of a unit of the last place
  let middle : Decimal := ⟨10 * low.digits + 5, place - 1⟩
  match d.readsBack low, d.readsBack high with
  | true, true =>
    if !middle.below true d.mantissa d.exponent then some low
    else if middle.below false d.mantissa d.exponent then some high
    else if low.digits % 2 == 0 then some low else some high
  | true, false => some low
  | false, true => some high
  | false, false => none

/-- The least power of ten above the magnitude of `d`; no double but zero is so small
that 400 places after the point show nothing of it. -/
def scale (d : Dyadic) : Int := (Nat.toDigits 10 (d.floorAt (-400)).digits).length - 400

/-- Seventeen digits always suffice; `0` has the one digit. -/
def shortest (d : Dyadic) : Decimal :=
  if d.mantissa == 0 then ⟨0, 0⟩
  else
    let scale := d.scale
    match (List.range 17).findSome? (fun n : Nat => d.neighbour? (scale - 1 - n)) with
    | some c => c
    | none => d.floorAt (scale - 17)

end Dyadic

end HotFire
