import Subtitling.Text.StepTable
import Subtitling.Web.Mapping.Table

/-!
What becomes of the characters of a domain before it is read: letters are put in lower case,
forms of presentation are replaced by what they present, characters that show nothing are
dropped, and some may not occur at all.
-/

namespace Subtitling.Web.Mapping

inductive Rule
  | kept
  | refused
  | dropped
  | shifted (distance : Int)
  /-- Every other character, from the first on, stands for the one after it. -/
  | paired
  /-- Each has an image of its own. -/
  | images (texts : Array (List Char))

def Rule.ofWord (word : List Char) : Rule :=
  match word with
  | ['v'] => .kept
  | ['n'] => .dropped
  | ['a'] => .paired
  | '+' :: digits => .shifted (Text.hexNumber digits)
  | '-' :: digits => .shifted (-(Text.hexNumber digits : Int))
  | '=' :: texts =>
    .images ((Text.splitWhen (· = ',') texts).map fun text =>
      if text.isEmpty then [] else (Text.splitWhen (· = '.') text).map Text.hexChar).toArray
  | _ => .refused

def Rule.image? (rule : Rule) (place : Nat) (c : Char) : Option (List Char) :=
  match rule with
  | .kept => some [c]
  | .refused => none
  | .dropped => some []
  | .shifted distance => some [Char.ofNat ((c.toNat : Int) + distance).toNat]
  | .paired => some [if place % 2 = 0 then Char.ofNat (c.toNat + 1) else c]
  | .images texts => texts[place]?

def table : Text.StepTable Rule := .ofLines Rule.ofWord tableLines

/-- What a character becomes; none if it may not occur. -/
def image? (c : Char) : Option (List Char) :=
  (table.row? c.toNat).bind fun (start, rule) => rule.image? (c.toNat - start) c

def mapped? (cs : List Char) : Option (List Char) := (cs.mapM image?).map List.flatten

def isStable (cs : List Char) : Bool := cs.all fun c => image? c = some [c]

end Subtitling.Web.Mapping
