import Subtitling.Number.Binary

/-!
The shortest decimal that reads back as a given binary number. A binary number stands for every
real that rounds to it; of the decimals in that interval the one with the fewest digits is chosen,
and of those the nearest; of two that are equally near, a layout tells which. The search tests, on
one decimal grid after the other from coarse to fine, the two grid points next to the number.
-/

namespace Subtitling.Number

structure Decimal where
  digits : Nat
  exponent : Int
deriving Repr, DecidableEq

/-- The reals that round to `m · 2^q`, in quarters of `2^q`; the ends belong to it when `m` is
even. -/
structure RoundingInterval where
  low : Nat
  high : Nat
  closed : Bool

/-- Below a power of two the numbers lie twice as close. -/
def Format.interval (f : Format) (m : Nat) (q : Int) : RoundingInterval :=
  let narrow := m = Nat.pow 2 f.fractionBits ∧ f.leastExponent < q
  ⟨if narrow then 4 * m - 1 else 4 * m - 2, 4 * m + 2, m % 2 = 0⟩

/-- Whether `num / den` quarters lie in the interval. -/
def RoundingInterval.contains (i : RoundingInterval) (num den : Nat) : Bool :=
  if i.closed then i.low * den ≤ num && num ≤ i.high * den
  else i.low * den < num && num < i.high * den

/-- Which of two equally near decimals is taken: the one with an even last digit, or the one that is
farther from zero. -/
inductive Tie
  | toEven
  | away
deriving DecidableEq

def Tie.choose (tie : Tie) (below : Nat) : Nat :=
  match tie with
  | .toEven => if below % 2 = 0 then below else below + 1
  | .away => below + 1

/-- The better of the two points of the grid `10 ^ g` next to `m · 2^q`, if one is in the
interval. -/
def gridPoint (tie : Tie) (i : RoundingInterval) (m : Nat) (q g : Int) : Option Nat :=
  let (n, d) := Double.ratio m q
  let (n, d) := scale 10 (-g) n d
  let below := n / d
  let above := below + 1
  let quarters (k : Nat) : Nat × Nat :=
    let (a, b) := scale 10 g (4 * k) 1
    scale 2 (-q) a b
  let inside (k : Nat) : Bool := let (a, b) := quarters k; i.contains a b
  match inside below, inside above with
  | true, false => some below
  | false, true => some above
  | false, false => none
  | true, true =>
    let twice := 2 * (n % d)
    if twice < d then some below
    else if d < twice then some above
    else some (tie.choose below)

/-- The first grid with a hit, over `fuel` grids from `10 ^ g` down. -/
def searchGrids (tie : Tie) (i : RoundingInterval) (m : Nat) (q : Int) :
    Nat → Int → Option Decimal
  | 0, _ => none
  | fuel + 1, g =>
    match gridPoint tie i m q g with
    | some k => some ⟨k, g⟩
    | none => searchGrids tie i m q fuel (g - 1)

/-- The shortest decimal of `m · 2^q`. The search starts above the number and its last grid is
finer than the numbers of a 64-bit format lie apart. -/
def Format.shortest (f : Format) (tie : Tie) (m : Nat) (q : Int) : Decimal :=
  if m = 0 then ⟨0, 0⟩
  else
    let start := ((m.log2 : Int) + q) * 30103 / 100000 + 2
    (searchGrids tie (f.interval m q) m q 24 start).getD ⟨0, 0⟩

/-- Which decimal is written, where it has digits and a point alone, and how its exponent looks
else. -/
structure Layout where
  /-- Least and greatest place of the point, counted from the front of the digits. -/
  positional : Option (Int × Int)
  /-- Whether a whole number keeps a zero after a point. -/
  keepsFraction : Bool
  /-- Whether an exponent above zero has a sign. -/
  plusSign : Bool
  tie : Tie

def Layout.write (l : Layout) (d : Decimal) : String :=
  let digits := Nat.toDigits 10 d.digits
  let width : Int := digits.length
  let point := width + d.exponent
  let isPositional := match l.positional with
    | none => true
    | some (least, greatest) => least ≤ point && point ≤ greatest
  if d.digits = 0 then if l.keepsFraction then "0.0" else "0"
  else if isPositional then
    if point ≤ 0 then
      String.ofList (['0', '.'] ++ List.replicate (-point).toNat '0' ++ digits)
    else if width ≤ point then
      String.ofList (digits ++ List.replicate (point - width).toNat '0' ++
        (if l.keepsFraction then ['.', '0'] else []))
    else String.ofList (digits.take point.toNat ++ ['.'] ++ digits.drop point.toNat)
  else
    let mantissa := match digits with
      | [] => []
      | [c] => [c]
      | c :: rest => c :: '.' :: rest
    let e := point - 1
    let sign := if e < 0 then "-" else if l.plusSign then "+" else ""
    String.ofList mantissa ++ "e" ++ sign ++ toString e.natAbs

def Format.write (f : Format) (l : Layout) (bits : Nat) : String :=
  match f.read bits with
  | .finite negative m q =>
    (if negative then "-" else "") ++ l.write (f.shortest l.tie m q)
  | .infinite negative => if negative then "-inf" else "inf"
  | .notANumber => "NaN"

/-- Digits and a point alone, whatever the size. -/
def Layout.plain : Layout := ⟨none, false, false, .away⟩

/-- Exponents from `10^16` up and below `10^-4`, and a fraction or an exponent in every number. -/
def Layout.marked : Layout := ⟨some (-3, 16), true, false, .away⟩

end Subtitling.Number
