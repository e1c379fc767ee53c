/-! Little-endian numbers and byte buffers. -/

namespace HotFire

/-- The lowest `width` bytes of `n`, least significant first. -/
def leBytes : Nat → Nat → List UInt8
  | 0, _ => []
  | width + 1, n => UInt8.ofNat n :: leBytes width (n / 256)

/-- The number whose bytes these are, least significant first. -/
def leValue : List UInt8 → Nat
  | [] => 0
  | b :: bs => b.toNat + 256 * leValue bs

/-- The buffer with its first bytes replaced. -/
def overwrite (bytes buffer : List UInt8) : List UInt8 :=
  bytes ++ buffer.drop bytes.length

end HotFire
