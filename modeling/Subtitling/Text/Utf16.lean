import Subtitling.Text.Utf8

/-!
UTF-16 in either byte order. Reading never fails: half of a surrogate pair without the other half,
and a byte left over at the end, are each replaced by U+FFFD, and a half left open together with a
left-over byte by a single one.
-/

namespace Subtitling.Text.Utf16

inductive ByteOrder
  | littleEndian
  | bigEndian
deriving DecidableEq

def ByteOrder.unit (o : ByteOrder) (a b : UInt8) : Nat :=
  match o with
  | .littleEndian => a.toNat + 256 * b.toNat
  | .bigEndian => 256 * a.toNat + b.toNat

def ByteOrder.bytes (o : ByteOrder) (unit : Nat) : List UInt8 :=
  let low := UInt8.ofNat (unit % 256)
  let high := UInt8.ofNat (unit / 256)
  match o with
  | .littleEndian => [low, high]
  | .bigEndian => [high, low]

/-- The units of the bytes, and whether a byte is left over. -/
def units (o : ByteOrder) : List UInt8 → List Nat × Bool
  | [] => ([], false)
  | [_] => ([], true)
  | a :: b :: rest =>
    let (us, odd) := units o rest
    (o.unit a b :: us, odd)

def isHighHalf (u : Nat) : Bool := 0xd800 ≤ u && u < 0xdc00

def isLowHalf (u : Nat) : Bool := 0xdc00 ≤ u && u < 0xe000

def joinHalves (high low : Nat) : Char :=
  Char.ofNat (0x10000 + (high - 0xd800) * 0x400 + (low - 0xdc00))

/-- The characters of the units; `odd` tells whether a byte is left over behind them. -/
def decodeUnits (odd : Bool) : List Nat → List Char
  | [] => if odd then [Utf8.replacement] else []
  | [u] =>
    if isHighHalf u then [Utf8.replacement]
    else (if isLowHalf u then Utf8.replacement else Char.ofNat u) :: decodeUnits odd []
  | u :: v :: rest =>
    if isHighHalf u then
      if isLowHalf v then joinHalves u v :: decodeUnits odd rest
      else Utf8.replacement :: decodeUnits odd (v :: rest)
    else (if isLowHalf u then Utf8.replacement else Char.ofNat u) :: decodeUnits odd (v :: rest)

def decode (o : ByteOrder) (bytes : List UInt8) : List Char :=
  let (us, odd) := units o bytes
  decodeUnits odd us

def charUnits (c : Char) : List Nat :=
  let n := c.toNat
  if n < 0x10000 then [n] else [0xd800 + (n - 0x10000) / 0x400, 0xdc00 + (n - 0x10000) % 0x400]

def encode (o : ByteOrder) (cs : List Char) : List UInt8 :=
  (cs.flatMap charUnits).flatMap o.bytes

end Subtitling.Text.Utf16
