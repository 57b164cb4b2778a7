import Subtitling.Text.Printable

/-!
Hexadecimal digits, and quoted texts, the form in which messages show a path or a single character.
The quote, the backslash and the common controls are written with a backslash, every other character
that is not printable by its code point in hexadecimal, and all else stands for itself.
-/

namespace Subtitling.Text

def hexValue? (c : Char) : Option Nat :=
  if '0' ≤ c && c ≤ '9' then some (c.toNat - '0'.toNat)
  else if 'a' ≤ c && c ≤ 'f' then some (c.toNat - 'a'.toNat + 10)
  else if 'A' ≤ c && c ≤ 'F' then some (c.toNat - 'A'.toNat + 10)
  else none

/-- Hexadecimal digits in lower case, without padding. -/
def hexDigits (n : Nat) : List Char := Nat.toDigits 16 n

def hexPadded (width n : Nat) : List Char :=
  let digits := hexDigits n
  List.replicate (width - digits.length) '0' ++ digits

/-- A code point written as a backslash, a `u` and its hexadecimal digits in braces. -/
def escapeCodePoint (c : Char) : List Char :=
  ['\\', 'u', '\x7b'] ++ hexDigits c.toNat ++ ['\x7d']

def escapeQuoted (quote c : Char) : List Char :=
  if c = '\x00' then ['\\', '0']
  else if c = '\t' then ['\\', 't']
  else if c = '\r' then ['\\', 'r']
  else if c = '\n' then ['\\', 'n']
  else if c = '\\' || c = quote then ['\\', c]
  else if ' ' ≤ c && c < '\x7f' then [c]
  else if isPrintable c then [c]
  else escapeCodePoint c

def quoted (s : String) : String :=
  String.ofList ('"' :: s.toList.flatMap (escapeQuoted '"') ++ ['"'])

def quotedChar (c : Char) : String := String.ofList ('\x27' :: escapeQuoted '\x27' c ++ ['\x27'])

end Subtitling.Text
