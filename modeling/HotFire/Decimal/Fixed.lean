import HotFire.Decimal.Binary

/-! Decimal text of a double with one place: the exact value, rounded to the
nearest tenth, a half going to the even neighbour. -/

namespace HotFire

/-- The whole number nearest to `num / den`, the even one of two. -/
def roundDiv (num den : Nat) : Nat :=
  let q := num / den
  let twice := 2 * (num % den)
  if twice < den then q
  else if den < twice then q + 1
  else q + q % 2

/-- The nearest number of tenths to the magnitude of `d`. -/
def Dyadic.tenths (d : Dyadic) : Nat :=
  if 0 ≤ d.exponent then d.mantissa * Nat.pow 2 d.exponent.toNat * 10
  else roundDiv (d.mantissa * 10) (Nat.pow 2 (-d.exponent).toNat)

/-- The text of `x` with one place after the point. -/
def oneDecimal (x : Float) : String :=
  match Binary.ofFloat x with
  | .nan => "NaN"
  | .infinite negative => if negative then "-inf" else "inf"
  | .finite d =>
    let t := d.tenths
    let whole := t / 10
    let tenth := t % 10
    let sign := if d.negative then "-" else ""
    s!"{sign}{whole}.{tenth}"

end HotFire
