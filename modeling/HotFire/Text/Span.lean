/-! Text of a time span: the largest unit of s, ms, µs and ns that leaves a whole
part, with the exact fraction and no zeros at its end. -/

namespace HotFire

namespace Span

/-- The digits of `n`, padded with zeros on the left to `width` places. -/
def padded (width n : Nat) : String :=
  let digits := toString n
  "".pushn '0' (width - digits.length) ++ digits

/-- The digits after the point of `rest / 10 ^ places`, without zeros at the end. -/
def fraction (places rest : Nat) : String :=
  String.ofList ((padded places rest).toList.reverse.dropWhile (· == '0')).reverse

/-- `n / 10 ^ places` in the given unit. -/
def inUnit (places n : Nat) (unit : String) : String :=
  let whole := n / Nat.pow 10 places
  let rest := n % Nat.pow 10 places
  if rest == 0 then s!"{whole}{unit}" else s!"{whole}.{fraction places rest}{unit}"

def text (n : Nat) : String :=
  if n ≥ Nat.pow 10 9 then inUnit 9 n "s"
  else if n ≥ Nat.pow 10 6 then inUnit 6 n "ms"
  else if n ≥ Nat.pow 10 3 then inUnit 3 n "µs"
  else inUnit 0 n "ns"

end Span

end HotFire
