/-!
# Hexadecimal text

Diagnostics print numbers in upper-case hexadecimal: a byte as `0x86`, a sixteen-bit word as
`0x0086`, and the bytes of a payload as pairs of digits with a space between them.
-/

namespace ZWave.Hex

/-- The digit of `n`, which is below sixteen. -/
def digit (n : Nat) : Char :=
  if n < 10 then Char.ofNat ('0'.toNat + n) else Char.ofNat ('A'.toNat + (n - 10))

/-- The two digits of a byte, the high one first. -/
def pair (b : UInt8) : List Char :=
  [digit (b.toNat / 16), digit (b.toNat % 16)]

/-- A byte as ids are printed: `0x86`. -/
def byte (b : UInt8) : String :=
  String.ofList ('0' :: 'x' :: pair b)

/-- A word of sixteen bits: `0x0086`. -/
def word (w : UInt16) : String :=
  let high := UInt8.ofNat (w.toNat / 256)
  let low := UInt8.ofNat (w.toNat % 256)
  String.ofList ('0' :: 'x' :: pair high ++ pair low)

/-- Bytes as pairs of digits, a space between two of them. -/
def bytes (bs : List UInt8) : String :=
  " ".intercalate (bs.map fun b => String.ofList (pair b))

end ZWave.Hex
