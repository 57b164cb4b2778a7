import Subtitling.Number.Binary

/-!
Reading numbers from plain text. Digits are ASCII, a sign may stand in front, and nothing else may:
blanks and separators are the caller's business.
-/

namespace Subtitling.Number

def digitsValue (digits : List Char) : Nat :=
  digits.foldl (fun n c => n * 10 + (c.toNat - '0'.toNat)) 0

/-- Whether a text is made of ASCII digits, of which there is at least one. -/
def areDigits (cs : List Char) : Bool := !cs.isEmpty && cs.all Char.isDigit

/-- The value of a list of ASCII digits, of which there is at least one. -/
def natural? (cs : List Char) : Option Nat := if areDigits cs then some (digitsValue cs) else none

/-- The value of a list of digits if it is below `bound`. No more than `bound` is ever counted, so a
long number costs no more than a short one. -/
def naturalBelow? (bound : Nat) (cs : List Char) : Option Nat :=
  if areDigits cs then
    let n := cs.foldl (fun n c => min (n * 10 + (c.toNat - '0'.toNat)) bound) 0
    if n < bound then some n else none
  else none

/-- A number that fits unsigned 64 bits; a plus may stand in front. -/
def unsigned? : List Char → Option Nat
  | '+' :: rest => naturalBelow? (Nat.pow 2 64) rest
  | cs => naturalBelow? (Nat.pow 2 64) cs

/-- A number that fits signed 64 bits; a sign may stand in front. -/
def signed? : List Char → Option Int
  | '-' :: rest => (naturalBelow? (Nat.pow 2 63 + 1) rest).map fun n => -(n : Int)
  | '+' :: rest => (naturalBelow? (Nat.pow 2 63) rest).map Int.ofNat
  | cs => (naturalBelow? (Nat.pow 2 63) cs).map Int.ofNat

/-- Splits off a sign; the flag tells whether it was a minus. -/
def splitSign : List Char → Bool × List Char
  | '-' :: rest => (true, rest)
  | '+' :: rest => (false, rest)
  | cs => (false, cs)

/-- The value of an exponent. Digits behind one past 16 bits are not looked at: no number that
can be told from zero and from infinity has such an exponent. -/
def exponentValue (digits : List Char) : Nat :=
  digits.foldl (fun n c => if n < Nat.pow 2 16 then n * 10 + (c.toNat - '0'.toNat) else n) 0

/-- The exponent behind a mantissa: nothing, or an `e` and a whole number. -/
def exponent? : List Char → Option Int
  | [] => some 0
  | c :: rest =>
    if c = 'e' || c = 'E' then
      let (negative, digits) := splitSign rest
      if areDigits digits then
        some (if negative then -(exponentValue digits : Int) else exponentValue digits)
      else none
    else none

/-- How many digits of a number are looked at. What lies half-way between two binary numbers has
fewer than these. -/
def digitLimit : Nat := 800

/-- A row of digits as a number and a power of ten. Digits past the limit are summed up by a single
one unless all are zeros, which leaves the number on its side of every half-way point. -/
def significand (digits : List Char) : Nat × Int :=
  let digits := digits.dropWhile (· = '0')
  let value := digitsValue (digits.take digitLimit)
  let tail := digits.drop digitLimit
  if tail.all (· = '0') then (value, tail.length) else (value * 10 + 1, (tail.length : Int) - 1)

/-- A decimal with an optional point and exponent and at least one digit before the exponent:
its digits, and the power of ten they are multiplied by. -/
def magnitude? (cs : List Char) : Option (Nat × Int) :=
  let whole := cs.takeWhile Char.isDigit
  let rest := cs.dropWhile Char.isDigit
  let (fraction, rest) := match rest with
    | '.' :: rest => (rest.takeWhile Char.isDigit, rest.dropWhile Char.isDigit)
    | _ => ([], rest)
  if whole.isEmpty && fraction.isEmpty then none
  else
    let (value, shift) := significand (whole ++ fraction)
    (exponent? rest).map fun e => (value, e + shift - fraction.length)

/-- The binary number nearest to a decimal; infinity and "not a number" have names. -/
def Format.parse? (f : Format) (cs : List Char) : Option Nat :=
  let (negative, rest) := splitSign cs
  match magnitude? rest with
  | some (digits, e) => some (f.ofDecimal negative digits e)
  | none =>
    let name := String.ofList (rest.map Char.toLower)
    if name = "inf" || name = "infinity" then some (f.withSign negative f.infinityBits)
    else if name = "nan" then
      some (f.withSign negative (f.infinityBits + Nat.pow 2 (f.fractionBits - 1)))
    else none

def Double.parse? (cs : List Char) : Option Double := (double.parse? cs).map Double.mk

def Single.parse? (cs : List Char) : Option Single := (single.parse? cs).map Single.mk

end Subtitling.Number
