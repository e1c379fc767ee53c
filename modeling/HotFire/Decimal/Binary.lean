/-! A double taken apart: sign, whole mantissa and power of two. -/

namespace HotFire

/-- The value `mantissa * 2 ^ exponent`, less than zero or a negative zero where
`negative` holds. -/
structure Dyadic where
  negative : Bool
  mantissa : Nat
  exponent : Int
  deriving DecidableEq, Repr

inductive Binary where
  | nan
  | infinite (negative : Bool)
  | finite (value : Dyadic)
  deriving DecidableEq, Repr

namespace Binary

/-- Reads the three fields of a double's 64 bits. -/
def ofBits (bits : UInt64) : Binary :=
  let n := bits.toNat
  let negative := n / Nat.pow 2 63 == 1
  let biased : Nat := n / Nat.pow 2 52 % Nat.pow 2 11
  let stored : Nat := n % Nat.pow 2 52
  if biased == 2047 then
    if stored == 0 then .infinite negative else .nan
  else if biased == 0 then .finite ⟨negative, stored, -1074⟩
  else .finite ⟨negative, stored + Nat.pow 2 52, (biased : Int) - 1075⟩

def ofFloat (x : Float) : Binary := ofBits x.toBits

end Binary

end HotFire
