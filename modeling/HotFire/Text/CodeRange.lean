/-! Sets of characters, given as ascending ranges of their code points. -/

namespace HotFire

abbrev CodeRanges := List (Nat × Nat)

/-- Both ends of a range belong to it. -/
def CodeRanges.has (ranges : CodeRanges) (c : Char) : Bool :=
  ranges.any (fun (first, last) => first ≤ c.toNat && c.toNat ≤ last)

end HotFire
