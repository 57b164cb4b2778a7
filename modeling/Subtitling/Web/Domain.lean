import Subtitling.Text.CharacterClass
import Subtitling.Text.Normalization
import Subtitling.Text.Pieces
import Subtitling.Text.Quoted
import Subtitling.Text.Utf8
import Subtitling.Web.Direction
import Subtitling.Web.Joining
import Subtitling.Web.Mapping
import Subtitling.Web.Punycode

/-!
Domains in any script and their form in ASCII. Bytes written as a per cent sign and two digits are
put in, the domain is mapped and composed, then cut at its dots; a label beyond ASCII is written in
Punycode behind a mark, and a label with that mark has to be one that could have been written so.
Every part of an address has a set of ASCII characters that are written with a per cent sign;
characters beyond ASCII are always written so.
-/

namespace Subtitling.Web

def isControl (c : Char) : Bool := c < ' ' || '\x7e' < c

def inFragmentSet (c : Char) : Bool := isControl c || [' ', '"', '<', '>', '`'].contains c

def inQuerySet (c : Char) : Bool := isControl c || [' ', '"', '#', '<', '>'].contains c

/-- In queries of web addresses the single quote is encoded too. -/
def inSpecialQuerySet (c : Char) : Bool := inQuerySet c || c = '\x27'

def inPathSet (c : Char) : Bool := inFragmentSet c || ['#', '?', '\x7b', '\x7d'].contains c

def inCredentialSet (c : Char) : Bool :=
  inPathSet c || ['/', ':', ';', '=', '@', '[', '\\', ']', '^', '|'].contains c

def encodeByte (b : UInt8) : List Char := '%' :: (Text.hexPadded 2 b.toNat).map Char.toUpper

def percentEncode (set : Char → Bool) (cs : List Char) : List Char :=
  cs.flatMap fun c => if set c then (String.utf8EncodeChar c).flatMap encodeByte else [c]

/-- The bytes of a text in which encoded bytes are put in. -/
def percentDecode : List Char → List UInt8
  | [] => []
  | '%' :: a :: b :: rest =>
    match Text.hexValue? a, Text.hexValue? b with
    | some high, some low => UInt8.ofNat (high * 16 + low) :: percentDecode rest
    | _, _ => String.utf8EncodeChar '%' ++ percentDecode (a :: b :: rest)
  | c :: rest => String.utf8EncodeChar c ++ percentDecode rest

def punycodeMark : List Char := "xn--".toList

/-- Labels beyond ASCII have at most this many characters. -/
def maxLabel : Nat := 1000

/-- Labels in Punycode have at most this many characters behind their mark. -/
def maxPunycode : Nat := 2000

def isAscii (cs : List Char) : Bool := cs.all fun c => c.toNat < 128

/-- A label as it reads, and its form in ASCII. -/
structure Label where
  text : List Char
  ascii : List Char

def isFitLabel (text : List Char) : Bool :=
  !(text.head?.any Text.isMark) && joinersFit text

/-- The label that Punycode stands for: it is not ASCII alone, and mapping would leave it as it
is. -/
def decodeLabel? (digits : List Char) : Option (List Char) :=
  if maxPunycode < digits.length then none
  else (Punycode.decode? digits).filter fun text =>
    !isAscii text && Mapping.isStable text && Text.normalize text = text

def Label.ofMapped? (cs : List Char) : Option Label :=
  if punycodeMark.isPrefixOf cs then
    if !isAscii cs then none
    else (decodeLabel? (cs.drop punycodeMark.length)).bind fun text =>
      if isFitLabel text then some ⟨text, cs⟩ else none
  else if isAscii cs then some ⟨cs, cs⟩
  else if isFitLabel cs && cs.length ≤ maxLabel then
    some ⟨cs, punycodeMark ++ Punycode.encode cs⟩
  else none

def keepDirections (labels : List Label) : Bool :=
  !(labels.any fun l => l.text.any isRightward) || labels.all fun l => keepsDirection l.text

def asciiDomain? (cs : List Char) : Option (List Char) := do
  let mapped ← Mapping.mapped? cs
  let labels ← (Text.splitWhen (· = '.') (Text.normalize mapped)).mapM Label.ofMapped?
  if keepDirections labels then return ['.'].intercalate (labels.map Label.ascii) else none

end Subtitling.Web
