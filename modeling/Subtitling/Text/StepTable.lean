import Subtitling.Text.Pieces
import Subtitling.Text.Quoted

/-!
Functions on code points that stay the same over long stretches. A table lists in rising order where
the value changes; a row holds from its code point up to that of the next row, and a binary search
finds it. Tables are written as lines of words, each a code point in hexadecimal, a colon and a
value.
-/

namespace Subtitling.Text

/-- Rows in rising order of where they start. -/
structure StepTable (α : Type) where
  rows : Array (Nat × α)

namespace StepTable

variable {α : Type}

/-- The last row between `low` and `high` that starts no later than `n`; the fuel bounds how often
the stretch between them is halved. -/
def search (t : StepTable α) (n : Nat) : Nat → Nat → Nat → Nat
  | 0, low, _ => low
  | fuel + 1, low, high =>
    let middle := (low + high) / 2
    match t.rows[middle]? with
    | none => low
    | some (start, _) =>
      if high ≤ low + 1 then low
      else if start ≤ n then search t n fuel middle high
      else search t n fuel low middle

def row? (t : StepTable α) (n : Nat) : Option (Nat × α) := t.rows[t.search n 64 0 t.rows.size]?

def at? (t : StepTable α) (n : Nat) : Option α := (t.row? n).map (·.2)

end StepTable

def hexNumber (cs : List Char) : Nat := cs.foldl (fun n c => n * 16 + (hexValue? c).getD 0) 0

def hexChar (cs : List Char) : Char := Char.ofNat (hexNumber cs)

def decimalValue (cs : List Char) : Nat := cs.foldl (fun n c => n * 10 + (c.toNat - '0'.toNat)) 0

def tableWords (lines : List String) : List (List Char) :=
  lines.flatMap fun line => splitWhen (· = ' ') line.toList

def StepTable.ofLines {α : Type} (readValue : List Char → α) (lines : List String) : StepTable α :=
  ⟨((tableWords lines).map fun word =>
    (hexNumber (word.takeWhile (· ≠ ':')), readValue ((word.dropWhile (· ≠ ':')).drop 1))).toArray⟩

end Subtitling.Text
