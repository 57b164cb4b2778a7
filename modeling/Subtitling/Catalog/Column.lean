/-!
The columns of a table, read from the text that it was defined with: the names in the list behind
the first bracket, but for the rules in it that stand on their own. Names are compared without
regard to ASCII case.
-/

namespace Subtitling.Catalog

inductive Token
  /-- A word that may mean something of its own. -/
  | word (text : String)
  /-- A name in quotes, or a text. -/
  | quoted (text : String)
  | mark (c : Char)
deriving DecidableEq

namespace Token

def fold (cs : List Char) : String := String.ofList (cs.map Char.toLower)

def isWordChar (c : Char) : Bool := c.isAlphanum || c = '_' || c = '$' || 128 ≤ c.toNat

/-- What is up to a closing quote, and what follows; two of them stand for one. -/
def takeQuoted (close : Char) : List Char → List Char × List Char
  | [] => ([], [])
  | c :: rest =>
    if c ≠ close then
      let (text, rest) := takeQuoted close rest
      (c :: text, rest)
    else
      match rest with
      | d :: rest =>
        if d = close && close ≠ ']' then
          let (text, rest) := takeQuoted close rest
          (d :: text, rest)
        else ([], d :: rest)
      | [] => ([], [])

def closing? (c : Char) : Option Char :=
  if c = '"' || c = '\x27' || c = '\x60' then some c
  else if c = '[' then some ']'
  else none

/-- What follows a remark between a slash with a star and a star with a slash. -/
def afterRemark : List Char → List Char
  | '*' :: '/' :: rest => rest
  | _ :: rest => afterRemark rest
  | [] => []

/-- The pieces of a definition, of which there are no more than there is fuel. -/
def readWithin : Nat → List Char → List Token
  | 0, _ => []
  | _, [] => []
  | fuel + 1, '-' :: '-' :: rest => readWithin fuel (rest.dropWhile (· ≠ '\n'))
  | fuel + 1, '/' :: '*' :: rest => readWithin fuel (afterRemark rest)
  | fuel + 1, c :: rest =>
    match closing? c with
    | some close =>
      let (text, rest) := takeQuoted close rest
      .quoted (fold text) :: readWithin fuel rest
    | none =>
      if isWordChar c then
        .word (fold (c :: rest.takeWhile isWordChar)) :: readWithin fuel (rest.dropWhile isWordChar)
      else if c.isWhitespace then readWithin fuel rest
      else .mark c :: readWithin fuel rest

def read (definition : String) : List Token :=
  readWithin definition.length definition.toList

/-- What stands between the commas up to the bracket that closes, with the part under way in
reverse; inside it `depth` brackets are open, and commas in those do not count. -/
def split : Nat → List Token → List Token → List (List Token)
  | _, part, [] => [part.reverse]
  | depth, part, t :: rest =>
    match t, depth with
    | .mark '(', _ => split (depth + 1) (t :: part) rest
    | .mark ')', 0 => [part.reverse]
    | .mark ')', depth + 1 => split depth (t :: part) rest
    | .mark ',', 0 => part.reverse :: split 0 [] rest
    | _, _ => split depth (t :: part) rest

end Token

structure Column where
  name : String
  /-- Whether its values are the keys of the records. -/
  isKey : Bool
deriving DecidableEq

namespace Column

def ruleWords : List String := ["constraint", "primary", "unique", "check", "foreign"]

def statesKey : List Token → Bool
  | .word "primary" :: .word "key" :: rest => rest.head? ≠ some (.word "desc")
  | _ :: rest => statesKey rest
  | [] => false

/-- The column that a part of a definition is about. Keys are whole numbers. -/
def ofPart? : List Token → Option Column
  | .word name :: rest =>
    if ruleWords.contains name then none
    else some ⟨name, rest.head? = some (.word "integer") && statesKey rest⟩
  | .quoted name :: rest => some ⟨name, rest.head? = some (.word "integer") && statesKey rest⟩
  | _ => none

def ofDefinition (definition : String) : List Column :=
  let body := (Token.read definition).dropWhile (· ≠ .mark '(')
  (Token.split 0 [] body.tail).filterMap ofPart?

end Column

end Subtitling.Catalog
