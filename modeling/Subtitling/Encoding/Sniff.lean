import Subtitling.Text.Utf16

/-!
The encoding of a subtitle file, guessed from its bytes. A byte-order mark decides; without one,
NUL bytes in every other place point to UTF-16, bytes that are UTF-8 up to a cut-off end are
taken as such, and what remains is one of two code pages, by whether its upper letters outnumber
the ASCII ones. Each code page extends ASCII by 128 characters, so every byte has a character and
reading never fails.
-/

namespace Subtitling.Encoding

/-- The upper half of windows-1251, for Cyrillic. -/
def cyrillicPage : List Nat :=
  [0x402, 0x403, 0x201a, 0x453, 0x201e, 0x2026, 0x2020, 0x2021, 0x20ac, 0x2030, 0x409, 0x2039,
   0x40a, 0x40c, 0x40b, 0x40f, 0x452, 0x2018, 0x2019, 0x201c, 0x201d, 0x2022, 0x2013, 0x2014,
   0x98, 0x2122, 0x459, 0x203a, 0x45a, 0x45c, 0x45b, 0x45f, 0xa0, 0x40e, 0x45e, 0x408, 0xa4,
   0x490, 0xa6, 0xa7, 0x401, 0xa9, 0x404, 0xab, 0xac, 0xad, 0xae, 0x407, 0xb0, 0xb1, 0x406, 0x456,
   0x491, 0xb5, 0xb6, 0xb7, 0x451, 0x2116, 0x454, 0xbb, 0x458, 0x405, 0x455, 0x457, 0x410, 0x411,
   0x412, 0x413, 0x414, 0x415, 0x416, 0x417, 0x418, 0x419, 0x41a, 0x41b, 0x41c, 0x41d, 0x41e,
   0x41f, 0x420, 0x421, 0x422, 0x423, 0x424, 0x425, 0x426, 0x427, 0x428, 0x429, 0x42a, 0x42b,
   0x42c, 0x42d, 0x42e, 0x42f, 0x430, 0x431, 0x432, 0x433, 0x434, 0x435, 0x436, 0x437, 0x438,
   0x439, 0x43a, 0x43b, 0x43c, 0x43d, 0x43e, 0x43f, 0x440, 0x441, 0x442, 0x443, 0x444, 0x445,
   0x446, 0x447, 0x448, 0x449, 0x44a, 0x44b, 0x44c, 0x44d, 0x44e, 0x44f]

/-- The bytes from 0x80 to 0x9f of windows-1252; from there on it agrees with Unicode. -/
def westernPage : List Nat :=
  [0x20ac, 0x81, 0x201a, 0x192, 0x201e, 0x2026, 0x2020, 0x2021, 0x2c6, 0x2030, 0x160, 0x2039,
   0x152, 0x8d, 0x17d, 0x8f, 0x90, 0x2018, 0x2019, 0x201c, 0x201d, 0x2022, 0x2013, 0x2014, 0x2dc,
   0x2122, 0x161, 0x203a, 0x153, 0x9d, 0x17e, 0x178]

def cyrillicChar (b : UInt8) : Char :=
  if b < 0x80 then Char.ofNat b.toNat else Char.ofNat (cyrillicPage.getD (b.toNat - 0x80) 0)

def westernChar (b : UInt8) : Char :=
  if b < 0x80 then Char.ofNat b.toNat else Char.ofNat (westernPage.getD (b.toNat - 0x80) b.toNat)

end Subtitling.Encoding

namespace Subtitling

inductive Encoding
  | utf8
  | utf16 (order : Text.Utf16.ByteOrder)
  | windows1251
  | windows1252
deriving DecidableEq

namespace Encoding

def label : Encoding → String
  | .utf8 => "UTF-8"
  | .utf16 .littleEndian => "UTF-16LE"
  | .utf16 .bigEndian => "UTF-16BE"
  | .windows1251 => "windows-1251"
  | .windows1252 => "windows-1252"

/-- The encoding that a byte-order mark at the front names, and the bytes behind the mark. -/
def splitMark : List UInt8 → Option (Encoding × List UInt8)
  | 0xef :: 0xbb :: 0xbf :: rest => some (.utf8, rest)
  | 0xff :: 0xfe :: rest => some (.utf16 .littleEndian, rest)
  | 0xfe :: 0xff :: rest => some (.utf16 .bigEndian, rest)
  | _ => none

/-- How many bytes are NUL at even and at odd places. -/
def countNuls : List UInt8 → Nat × Nat
  | [] => (0, 0)
  | b :: rest =>
    let (even, odd) := countNuls rest
    (odd + (if b = 0 then 1 else 0), even)

/-- UTF-16 without a mark: NULs in four tenths of the high bytes, in less than a tenth of the
low. -/
def sniffUtf16 (bytes : List UInt8) : Option Encoding :=
  if bytes.length < 4 then none
  else
    let pairs := bytes.length / 2
    let (even, odd) := countNuls bytes
    if pairs * 4 ≤ odd * 10 && even * 10 < pairs then some (.utf16 .littleEndian)
    else if pairs * 4 ≤ even * 10 && odd * 10 < pairs then some (.utf16 .bigEndian)
    else none

def isAsciiLetter (b : UInt8) : Bool := (65 ≤ b && b ≤ 90) || (97 ≤ b && b ≤ 122)

/-- Cyrillic text in windows-1251 is made almost entirely of the upper 64 bytes. -/
def sniffCodePage (bytes : List UInt8) : Encoding :=
  if bytes.countP isAsciiLetter < bytes.countP (fun b => 0xc0 ≤ b) then .windows1251
  else .windows1252

def sniff (bytes : List UInt8) : Encoding :=
  match splitMark bytes with
  | some (encoding, _) => encoding
  | none =>
    match sniffUtf16 bytes with
    | some encoding => encoding
    | none => if Text.Utf8.isSound bytes then .utf8 else sniffCodePage bytes

/-- Reads bytes without regard to a mark. -/
def read (encoding : Encoding) (bytes : List UInt8) : List Char :=
  match encoding with
  | .utf8 => Text.Utf8.decode bytes
  | .utf16 order => Text.Utf16.decode order bytes
  | .windows1251 => bytes.map cyrillicChar
  | .windows1252 => bytes.map westernChar

/-- Reads bytes in the encoding they are most likely in; a mark is no part of the text. -/
def decode (bytes : List UInt8) : List Char × Encoding :=
  match splitMark bytes with
  | some (encoding, rest) => (encoding.read rest, encoding)
  | none => let encoding := sniff bytes; (encoding.read bytes, encoding)

end Encoding

end Subtitling
