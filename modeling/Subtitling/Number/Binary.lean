/-!
Binary floating-point numbers as bit patterns. A finite number is read as `m · 2^q` in exact
integers and an exact ratio is rounded back to the nearest pattern, a tie to the even one, so every
operation here is one of `Nat` and `Int` and nothing depends on the machine's own arithmetic.
-/

namespace Subtitling.Number

/-- A format: the widths of its fraction field and of its exponent field. -/
structure Format where
  fractionBits : Nat
  exponentBits : Nat

def double : Format := ⟨52, 11⟩

def single : Format := ⟨23, 8⟩

inductive Reading
  | finite (negative : Bool) (m : Nat) (q : Int)
  | infinite (negative : Bool)
  | notANumber
deriving Repr, DecidableEq

namespace Format

def leastExponent (f : Format) : Int :=
  2 - Nat.pow 2 (f.exponentBits - 1) - f.fractionBits

/-- The pattern of positive infinity, above that of every finite magnitude. -/
def infinityBits (f : Format) : Nat := (Nat.pow 2 f.exponentBits - 1) * Nat.pow 2 f.fractionBits

def signBit (f : Format) : Nat := Nat.pow 2 (f.exponentBits + f.fractionBits)

def withSign (f : Format) (negative : Bool) (magnitude : Nat) : Nat :=
  if negative then f.signBit + magnitude else magnitude

/-- Reads a pattern; every stored exponent above zero implies a leading one. -/
def read (f : Format) (bits : Nat) : Reading :=
  let negative := f.signBit ≤ bits
  let magnitude := bits % f.signBit
  if magnitude = f.infinityBits then .infinite negative
  else if f.infinityBits < magnitude then .notANumber
  else
    let field := magnitude / Nat.pow 2 f.fractionBits
    let fraction := magnitude % Nat.pow 2 f.fractionBits
    if field = 0 then .finite negative fraction f.leastExponent
    else .finite negative (fraction + Nat.pow 2 f.fractionBits)
      (f.leastExponent + (field - 1 : Nat))

end Format

/-- The whole number nearest to `num / den`; a tie goes to the even one. -/
def roundHalfEven (num den : Nat) : Nat :=
  let k := num / den
  let r := num % den
  if 2 * r < den then k
  else if den < 2 * r then k + 1
  else if k % 2 = 0 then k else k + 1

/-- A ratio multiplied by `base ^ e`. -/
def scale (base : Nat) (e : Int) (num den : Nat) : Nat × Nat :=
  if 0 ≤ e then (num * Nat.pow base e.toNat, den) else (num, den * Nat.pow base (-e).toNat)

namespace Format

/-- The exponent that gives a positive ratio a full fraction, or the least one. -/
def exponentFor (f : Format) (num den : Nat) : Int :=
  let e : Int := (num.log2 : Int) - den.log2
  let (n, d) := scale 2 (-e) num den
  let top := if d ≤ n then e else e - 1
  max (top - f.fractionBits) f.leastExponent

/-- The pattern of the magnitude nearest to `num / den`, infinity when it is out of range. -/
def roundMagnitude (f : Format) (num den : Nat) : Nat :=
  if num = 0 then 0
  else
    let q := f.exponentFor num den
    let (n, d) := scale 2 (-q) num den
    min ((q - f.leastExponent).toNat * Nat.pow 2 f.fractionBits + roundHalfEven n d) f.infinityBits

/-- The pattern nearest to `± num / den`. -/
def round (f : Format) (negative : Bool) (num den : Nat) : Nat :=
  f.withSign negative (f.roundMagnitude num den)

/-- The pattern nearest to `± digits · 10 ^ e`. The two early answers only spare huge powers: such
a number is past the range of the format on one side or the other. -/
def ofDecimal (f : Format) (negative : Bool) (digits : Nat) (e : Int) : Nat :=
  let width : Int := (Nat.toDigits 10 digits).length
  if digits = 0 || width + e < -400 then f.withSign negative 0
  else if 400 < width + e then f.withSign negative f.infinityBits
  else
    let (n, d) := scale 10 e digits 1
    f.round negative n d

end Format

structure Double where
  bits : Nat
deriving Repr, DecidableEq

namespace Double

def reading (x : Double) : Reading := double.read x.bits

def ofDecimal (negative : Bool) (digits : Nat) (e : Int) : Double :=
  ⟨double.ofDecimal negative digits e⟩

def ofInt (n : Int) : Double := ⟨double.round (n < 0) n.natAbs 1⟩

def isFinite (x : Double) : Bool :=
  match x.reading with
  | .finite .. => true
  | _ => false

def isZero (x : Double) : Bool :=
  match x.reading with
  | .finite _ m _ => m == 0
  | _ => false

def ratio (m : Nat) (q : Int) : Nat × Nat := scale 2 q m 1

/-- The quotient of a finite magnitude, and whether nothing was cut off. -/
def wholePart (m : Nat) (q : Int) : Nat × Bool :=
  let (n, d) := ratio m q
  (n / d, n % d == 0)

/-- The whole number that a finite number is, if it is one. -/
def toInt? (x : Double) : Option Int :=
  match x.reading with
  | .finite negative m q =>
    match wholePart m q with
    | (n, true) => some (if negative then -(n : Int) else n)
    | _ => none
  | _ => none

/-- The number rounded to a multiple of one, a half away from zero. -/
def roundHalfAway (x : Double) : Option Int :=
  match x.reading with
  | .finite negative m q =>
    let (n, d) := ratio m q
    let k := (2 * n + d) / (2 * d)
    some (if negative then -(k : Int) else k)
  | _ => none

/-- The product of two numbers, rounded once; a factor without a finite value stands for itself. -/
def mul (x y : Double) : Double :=
  match x.reading, y.reading with
  | .finite s m q, .finite t n r =>
    let (a, b) := ratio m q
    let (c, d) := ratio n r
    ⟨double.round (s != t) (a * c) (b * d)⟩
  | .finite .., _ => y
  | _, _ => x

/-- The quotient of two numbers, rounded once; the divisor is finite and not zero. -/
def div (x y : Double) : Double :=
  match x.reading, y.reading with
  | .finite s m q, .finite t n r =>
    let (a, b) := ratio m q
    let (c, d) := ratio n r
    ⟨double.round (s != t) (a * d) (b * c)⟩
  | _, _ => x

def negate (x : Double) : Double :=
  ⟨if double.signBit ≤ x.bits then x.bits - double.signBit else x.bits + double.signBit⟩

end Double

structure Single where
  bits : Nat
deriving Repr, DecidableEq

namespace Single

def reading (x : Single) : Reading := single.read x.bits

def ofDecimal (negative : Bool) (digits : Nat) (e : Int) : Single :=
  ⟨single.ofDecimal negative digits e⟩

def ofDouble (x : Double) : Single :=
  match x.reading with
  | .finite negative m q =>
    let (n, d) := Double.ratio m q
    ⟨single.round negative n d⟩
  | .infinite negative => ⟨single.withSign negative single.infinityBits⟩
  | .notANumber => ⟨single.infinityBits + Nat.pow 2 (single.fractionBits - 1)⟩

end Single

end Subtitling.Number
