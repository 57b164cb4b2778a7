/-!
Punycode, which writes a label of a host name with ASCII letters, digits and hyphens alone. The
ASCII characters come first; the others follow in rising order as differences, each written with
digits of growing weight whose threshold adapts to the differences seen so far.
-/

namespace Subtitling.Web.Punycode

/-- A digit below 36: letters, then figures. -/
def digitChar (d : Nat) : Char := Char.ofNat (if d < 26 then 97 + d else 22 + d)

def threshold (k bias : Nat) : Nat := max 1 (min 26 (k - bias))

/-- Digits of a number; the fuel bounds their count. -/
def digits (bias : Nat) : Nat → Nat → Nat → List Char
  | 0, _, _ => []
  | fuel + 1, k, n =>
    let t := threshold k bias
    if n < t then [digitChar n]
    else digitChar (t + (n - t) % (36 - t)) :: digits bias fuel (k + 36) ((n - t) / (36 - t))

/-- Scales a difference down; the fuel bounds the steps. -/
def settle : Nat → Nat → Nat → Nat
  | 0, _, k => k
  | fuel + 1, delta, k =>
    if 455 < delta then settle fuel (delta / 35) (k + 36) else k + 36 * delta / (delta + 38)

/-- The bias after a difference; `count` characters are written by then. -/
def adapt (delta count : Nat) (first : Bool) : Nat :=
  let delta := if first then delta / 700 else delta / 2
  settle 16 (delta + delta / count) 0

structure State where
  output : List Char
  delta : Nat
  bias : Nat
  written : Nat

/-- Writes every occurrence of the character `m`; `basic` counts the ASCII characters. -/
def writeCharacter (cs : List Char) (basic m : Nat) (s : State) : State :=
  cs.foldl (fun s c =>
    if c.toNat < m then { s with delta := s.delta + 1 }
    else if c.toNat = m then
      ⟨s.output ++ digits s.bias 16 36 s.delta, 0,
        adapt s.delta (s.written + 1) (s.written = basic), s.written + 1⟩
    else s) s

/-- Writes the characters `rest`, which rise from `n` on. -/
def writeRising (cs : List Char) (basic : Nat) : Nat → List Nat → State → State
  | _, [], s => s
  | n, m :: rest, s =>
    let s := writeCharacter cs basic m { s with delta := s.delta + (m - n) * (s.written + 1) }
    writeRising cs basic (m + 1) rest { s with delta := s.delta + 1 }

/-- The characters beyond ASCII in rising order, each once. -/
def risingCharacters (cs : List Char) : List Nat :=
  ((cs.map Char.toNat).filter (128 ≤ ·)).mergeSort.eraseDups

/-- A label in Punycode, without the mark that tells it is. -/
def encode (cs : List Char) : List Char :=
  let ascii := cs.filter fun c => c.toNat < 128
  let start : State := ⟨[], 0, 72, ascii.length⟩
  ascii ++ (if ascii.isEmpty then [] else ['-']) ++
    (writeRising cs ascii.length 128 (risingCharacters cs) start).output

def digitValue? (c : Char) : Option Nat :=
  if 'a' ≤ c && c ≤ 'z' then some (c.toNat - 'a'.toNat)
  else if '0' ≤ c && c ≤ '9' then some (c.toNat - '0'.toNat + 26)
  else none

/-- Differences and weights fill at most 32 bits. -/
def inRange? (n : Nat) : Option Nat := if n < Nat.pow 2 32 then some n else none

/-- Reads one difference from the digit at weight `weight` on and adds it to `sum`. -/
def readDifference (bias : Nat) : Nat → Nat → Nat → List Char → Option (Nat × List Char)
  | _, _, _, [] => none
  | k, weight, sum, c :: rest => do
    let digit ← digitValue? c
    let sum ← inRange? (sum + digit * weight)
    let t := threshold k bias
    if digit < t then return (sum, rest)
    else readDifference bias (k + 36) (← inRange? (weight * (36 - t))) sum rest

/-- The character with a code point, if there is one. -/
def character? (n : Nat) : Option Char := if n.isValidChar then some (Char.ofNat n) else none

/-- Reads all differences and puts each character at its place in `output`. The fuel bounds their
count. -/
def readDifferences : Nat → (bias n place : Nat) → List Char → List Char → Option (List Char)
  | _, _, _, _, output, [] => some output
  | 0, _, _, _, _, _ => none
  | fuel + 1, bias, n, place, output, digits => do
    let (sum, rest) ← readDifference bias 36 1 place digits
    let count := output.length + 1
    let n := n + sum / count
    let c ← character? n
    readDifferences fuel (adapt (sum - place) count (place = 0)) n (sum % count + 1)
      (output.insertIdx (sum % count) c) rest

/-- The label that a text in Punycode stands for; its ASCII characters stand before the last
hyphen. -/
def decode? (cs : List Char) : Option (List Char) :=
  let digits := (cs.reverse.takeWhile (· ≠ '-')).reverse
  let ascii := cs.take (cs.length - digits.length - 1)
  if ascii.isEmpty then readDifferences cs.length 72 128 0 [] cs
  else readDifferences cs.length 72 128 0 ascii digits

end Subtitling.Web.Punycode
