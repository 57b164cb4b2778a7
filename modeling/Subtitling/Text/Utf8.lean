/-!
UTF-8 as a machine that is fed one byte at a time. Reading never fails: a sequence that cannot be
completed is replaced by a mark, U+FFFD unless another is asked for, as soon as the first byte that
rules it out arrives, and that byte is read afresh. `isSound` tells whether no replacement was
needed before the end of the input.
-/

namespace Subtitling.Text.Utf8

/-- What stands for a sequence that cannot be read. -/
def replacement : Char := '\ufffd'

/-- A sequence under way: the bits read, how many bytes are missing, and the bounds of the next. -/
structure Pending where
  bits : Nat
  missing : Nat
  low : UInt8
  high : UInt8

/-- What a byte does between two characters: it is one, opens a sequence, or cannot stand there. -/
inductive Opening
  | scalar (c : Char)
  | sequence (p : Pending)
  | broken

/-- The bounds of the second byte exclude overlong forms, surrogates and values past U+10FFFF. -/
def opening (b : UInt8) : Opening :=
  let n := b.toNat
  if n < 0x80 then .scalar (Char.ofNat n)
  else if n < 0xc2 then .broken
  else if n < 0xe0 then .sequence ⟨n - 0xc0, 1, 0x80, 0xbf⟩
  else if n = 0xe0 then .sequence ⟨0, 2, 0xa0, 0xbf⟩
  else if n = 0xed then .sequence ⟨0xd, 2, 0x80, 0x9f⟩
  else if n < 0xf0 then .sequence ⟨n - 0xe0, 2, 0x80, 0xbf⟩
  else if n = 0xf0 then .sequence ⟨0, 3, 0x90, 0xbf⟩
  else if n < 0xf4 then .sequence ⟨n - 0xf0, 3, 0x80, 0xbf⟩
  else if n = 0xf4 then .sequence ⟨4, 3, 0x80, 0x8f⟩
  else .broken

def Pending.advance (p : Pending) (b : UInt8) : Pending :=
  ⟨p.bits * 64 + (b.toNat - 0x80), p.missing - 1, 0x80, 0xbf⟩

def Pending.admits (p : Pending) (b : UInt8) : Bool := p.low ≤ b && b ≤ p.high

/-- The characters of a byte that is read between two characters, and the sequence it opens. -/
def start (mark : Char) (b : UInt8) : List Char × Option Pending :=
  match opening b with
  | .scalar c => ([c], none)
  | .sequence p => ([], some p)
  | .broken => ([mark], none)

/-- The characters that one byte completes or rules out, and the sequence then under way. -/
def feed (mark : Char) : Option Pending → UInt8 → List Char × Option Pending
  | none, b => start mark b
  | some p, b =>
    if p.admits b then
      let q := p.advance b
      if q.missing = 0 then ([Char.ofNat q.bits], none) else ([], some q)
    else
      let (cs, next) := start mark b
      (mark :: cs, next)

/-- Reads the bytes from a given state on; a sequence cut off by the end is one replacement. -/
def decodeFrom (mark : Char) : Option Pending → List UInt8 → List Char
  | none, [] => []
  | some _, [] => [mark]
  | state, b :: rest =>
    let (cs, next) := feed mark state b
    cs ++ decodeFrom mark next rest

/-- Reads bytes as UTF-8 and puts the mark where they are not. -/
def decodeWith (mark : Char) (bytes : List UInt8) : List Char := decodeFrom mark none bytes

def decode (bytes : List UInt8) : List Char := decodeWith replacement bytes

/-- Whether the bytes hold no broken sequence, and what is left open at their end. -/
def scan : Option Pending → List UInt8 → Option (Option Pending)
  | state, [] => some state
  | none, b :: rest =>
    match opening b with
    | .scalar _ => scan none rest
    | .sequence p => scan (some p) rest
    | .broken => none
  | some p, b :: rest =>
    if p.admits b then
      let q := p.advance b
      scan (if q.missing = 0 then none else some q) rest
    else none

/-- Whether the bytes are UTF-8, up to a sequence that the end may have cut off. -/
def isSound (bytes : List UInt8) : Bool := (scan none bytes).isSome

def isValid (bytes : List UInt8) : Bool :=
  match scan none bytes with
  | some none => true
  | _ => false

def encode (cs : List Char) : List UInt8 := cs.flatMap String.utf8EncodeChar

def decode? (bytes : List UInt8) : Option (List Char) :=
  if isValid bytes then some (decode bytes) else none

end Subtitling.Text.Utf8
