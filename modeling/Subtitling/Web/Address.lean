import Subtitling.Number.Text
import Subtitling.Web.Host

/-!
Addresses of the web, read as browsers read them: blanks around them and breaks inside are dropped,
dots in paths are resolved, hosts and encodings are put into a normal form. An address has to name
its scheme; only some schemes have a host at all.
-/

namespace Subtitling.Web

inductive Path
  | opaqueText (text : List Char)
  | segments (parts : List (List Char))
deriving DecidableEq

structure Address where
  scheme : String
  user : List Char
  password : List Char
  host : Option (List Char)
  /-- The number behind the host, unless it is that of the scheme. -/
  doorNumber : Option Nat
  path : Path
  query : Option (List Char)
  fragment : Option (List Char)
deriving DecidableEq

def webSchemes : List (String × Nat) :=
  [("http", 80), ("https", 443), ("ws", 80), ("wss", 443), ("ftp", 21)]

def isWebScheme (scheme : String) : Bool := (webSchemes.lookup scheme).isSome

/-- Drops controls and spaces around an address and breaks inside it. -/
def cleaned (cs : List Char) : List Char :=
  let isIdle (c : Char) : Bool := c ≤ ' '
  let inner := ((cs.dropWhile isIdle).reverse.dropWhile isIdle).reverse
  inner.filter fun c => !(c = '\t' || c = '\n' || c = '\r')

def cutAt (mark : Char) (cs : List Char) : List Char × Option (List Char) :=
  match cs.dropWhile (· ≠ mark) with
  | [] => (cs, none)
  | _ :: rest => (cs.takeWhile (· ≠ mark), some rest)

def isSchemeChar (c : Char) : Bool := c.isAlphanum || c = '+' || c = '-' || c = '.'

/-- The scheme at the front, in lower case, and what stands behind its colon. -/
def cutScheme (cs : List Char) : Option (String × List Char) :=
  match cutAt ':' cs with
  | (c :: name, some rest) =>
    if c.isAlpha && name.all isSchemeChar then
      some (String.ofList ((c :: name).map Char.toLower), rest)
    else none
  | _ => none

/-- A path segment with its encoded dots put in. -/
def plainDots : List Char → List Char
  | '%' :: '2' :: c :: rest =>
    if c = 'e' || c = 'E' then '.' :: plainDots rest else '%' :: '2' :: plainDots (c :: rest)
  | c :: rest => c :: plainDots rest
  | [] => []

def isDot (segment : List Char) : Bool := plainDots segment = ['.']

def isDoubleDot (segment : List Char) : Bool := plainDots segment = ['.', '.']

def isDrive : List Char → Bool
  | [c, mark] => c.isAlpha && (mark = ':' || mark = '|')
  | _ => false

/-- Whether a segment names a drive up to its end or to a backslash. -/
def beginsWithDrive : List Char → Bool
  | c :: mark :: rest => isDrive [c, mark] && rest.head?.all (· = '\\')
  | _ => false

/-- Goes up one segment, given those so far from the last to the first; what begins with a drive
stays. -/
def shorten : List (List Char) → List (List Char)
  | [] => []
  | segment :: before => if beginsWithDrive segment then segment :: before else before

def asDrive : List Char → List Char
  | c :: _ => [c, ':']
  | [] => []

def startsWithDrive (parts : List (List Char)) : Bool :=
  parts.head?.any fun first => isDrive first && first = asDrive first

/-- Segments with the dots among them resolved, where `latest` holds those so far from the last to
the first. The drive of a file is put in its normal form where it comes first. -/
def resolveDots (isFile : Bool) (latest : List (List Char)) : List (List Char) → List (List Char)
  | [] => latest.reverse
  | segment :: rest =>
    let closed (parts : List (List Char)) : List (List Char) :=
      if rest.isEmpty then [] :: parts else parts
    if isDoubleDot segment then resolveDots isFile (closed (shorten latest)) rest
    else if isDot segment then resolveDots isFile (closed latest) rest
    else if isFile && latest.isEmpty &&
      isDrive segment then resolveDots isFile [asDrive segment] rest
    else resolveDots isFile (percentEncode inPathSet segment :: latest) rest

def isSlash (c : Char) : Bool := c = '/' || c = '\\'

def isSeparator (isWeb : Bool) (c : Char) : Bool := if isWeb then isSlash c else c = '/'

def readPath (isWeb : Bool) (cs : List Char) : List (List Char) :=
  resolveDots false [] (Text.splitWhen (isSeparator isWeb) cs)

def readFilePath (cs : List Char) :
    List (List Char) := resolveDots true [] (Text.splitWhen isSlash cs)

/-- A path without empty segments in front; there is always one segment. -/
def dropSlashes (parts : List (List Char)) : List (List Char) :=
  match parts.dropWhile List.isEmpty with
  | [] => [[]]
  | parts => parts

/-- The segments of a path behind a host. Where slashes of both kinds separate them there is always
one. -/
def readPathAfterHost (isWeb : Bool) (cs : List Char) : List (List Char) :=
  match cs with
  | [] => if isWeb then [[]] else []
  | c :: rest => readPath isWeb (if isSeparator isWeb c then rest else c :: rest)

/-- What stands before and behind the last at sign. -/
def cutCredentials (cs : List Char) : Option (List Char) × List Char :=
  let host := (cs.reverse.takeWhile (· ≠ '@')).reverse
  if host.length = cs.length then (none, cs) else
    (some (cs.take (cs.length - host.length - 1)), host)

/-- Cuts a host at the colon behind it, which is none of those in brackets. -/
def cutHost : Bool → List Char → List Char × Option (List Char)
  | _, [] => ([], none)
  | inside, c :: rest =>
    if c = ':' && !inside then ([], some rest)
    else
      let (host, number) :=
        cutHost (if c = '[' then true else if c = ']' then false else inside) rest
      (c :: host, number)

/-- Reads the number behind a host, which is none if it is the one that the scheme implies, and
leaves what a slash of either kind starts. -/
def readDoorNumber? (scheme : String) (cs : List Char) : Option (Option Nat × List Char) :=
  let digits := cs.takeWhile Char.isDigit
  let rest := cs.dropWhile Char.isDigit
  if !(rest.head?.all isSlash) then none
  else if digits.isEmpty then some (none, rest)
  else (Number.naturalBelow? (Nat.pow 2 16) digits).map fun n =>
    (if webSchemes.lookup scheme = some n then none else some n, rest)

/-- Whether there may be credentials and no host: none at all, none in front of an at sign that ends
the address, or nothing but the colon between them. -/
def allowsNoHost (credentials : Option (List Char)) (isEnd : Bool) : Bool :=
  match credentials with
  | none => true
  | some [] => isEnd
  | some text => text = [':']

/-- An address whose host stands in the text `authority`; `isEnd` tells that nothing comes after the
path. -/
def ofAuthority? (scheme : String) (isEnd : Bool) (authority path : List Char) :
    Option Address := do
  let isWeb := isWebScheme scheme
  let (credentials, rest) := cutCredentials authority
  let (user, password) := cutAt ':' (credentials.getD [])
  let (name, digits) := cutHost false rest
  if name.isEmpty && (isWeb || digits.isSome ||
    !allowsNoHost credentials (isEnd && path.isEmpty)) then none
  else
    let host ← host? isWeb name
    let (number, rest) ← match digits with
      | none => some (none, [])
      | some cs => readDoorNumber? scheme cs
    return ⟨scheme, percentEncode inCredentialSet user,
      percentEncode inCredentialSet (password.getD []), some host, number,
      .segments (readPathAfterHost isWeb (rest ++ path)), none, none⟩

def ofPath (scheme : String) (host : Option (List Char)) (path : Path) : Address :=
  ⟨scheme, [], [], host, none, path, none, none⟩

/-- The address of a file on a host. A drive in front of the path makes the host void. -/
def ofFilePath (host : List Char) (path : List Char) : Address :=
  let parts := readFilePath path
  ofPath "file" (some (if startsWithDrive parts then [] else host)) (.segments (dropSlashes parts))

/-- The address of a file, whose host may be missing. -/
def ofFile? (cs : List Char) : Option Address :=
  match cs with
  | a :: b :: rest =>
    if isSlash a && isSlash b then
      let name := rest.takeWhile fun c => !isSlash c
      let path := rest.dropWhile fun c => !isSlash c
      if name.isEmpty || isDrive name then some (ofFilePath [] rest)
      else (host? true name).map fun host =>
        ofFilePath (if host = "localhost".toList then [] else host) (path.drop 1)
    else some (ofFilePath [] (if isSlash a then b :: rest else cs))
  | [a] => some (ofFilePath [] (if isSlash a then [] else cs))
  | [] => some (ofFilePath [] [])

def ofBody? (scheme : String) (isEnd : Bool) (cs : List Char) : Option Address :=
  if scheme = "file" then ofFile? cs
  else if isWebScheme scheme then
    let rest := cs.dropWhile isSlash
    ofAuthority? scheme isEnd (rest.takeWhile fun c => !isSlash c)
      (rest.dropWhile fun c => !isSlash c)
  else
    match cs with
    | '/' :: '/' :: rest =>
      ofAuthority? scheme isEnd (rest.takeWhile (· ≠ '/')) (rest.dropWhile (· ≠ '/'))
    | '/' :: rest => some (ofPath scheme none (.segments (readPath false rest)))
    | _ => some (ofPath scheme none (.opaqueText (percentEncode isControl cs)))

def Address.parse? (text : String) : Option Address := do
  let (rest, fragment) := cutAt '#' (cleaned text.toList)
  let (scheme, rest) ← cutScheme rest
  let (body, query) := cutAt '?' rest
  let querySet := if isWebScheme scheme || scheme = "file" then inSpecialQuerySet else inQuerySet
  let address ← ofBody? scheme (query.isNone && fragment.isNone) body
  return { address with
    query := query.map (percentEncode querySet)
    fragment := fragment.map (percentEncode inFragmentSet) }

def Path.chars : Path → List Char
  | .opaqueText text => text
  | .segments parts => parts.flatMap ('/' :: ·)

/-- Whether a path could be taken for a host. -/
def Path.looksLikeHost : Path → Bool
  | .segments ([] :: _ :: _) => true
  | _ => false

namespace Address

def credentialChars (a : Address) : List Char :=
  if a.user.isEmpty && a.password.isEmpty then []
  else a.user ++ (if a.password.isEmpty then [] else ':' :: a.password) ++ ['@']

def hostChars (a : Address) : List Char :=
  match a.host with
  | none => if a.path.looksLikeHost then ['/', '.'] else []
  | some host =>
    ['/', '/'] ++ a.credentialChars ++ host ++
      (match a.doorNumber with
        | some n => ':' :: Nat.toDigits 10 n
        | none => [])

/-- The path and the query, which is what a request names. -/
def target (a : Address) : String :=
  String.ofList (a.path.chars ++ (match a.query with
    | some query => '?' :: query
    | none => []))

def text (a : Address) : String :=
  a.scheme ++ ":" ++ String.ofList a.hostChars ++ a.target ++
    (match a.fragment with
      | some fragment => "#" ++ String.ofList fragment
      | none => "")

/-- The address without credentials, which a request carries apart. They stay where the name of the
user is not made of UTF-8. -/
def withoutCredentials (a : Address) : Address :=
  if Text.Utf8.isValid (percentDecode a.user) then { a with user := [], password := [] } else a

def isService (a : Address) : Bool := a.scheme = "http" || a.scheme = "https"

/-- Characters that a domain may have but a request cannot name. -/
def isUnspeakable (c : Char) : Bool := ['"', '\x60', '\x7b', '\x7d'].contains c

/-- The most bytes that a request can name. -/
def longestText : Nat := 65534

def isReachable (a : Address) : Bool :=
  a.isService && !(a.host.getD []).any isUnspeakable && a.text.utf8ByteSize ≤ longestText

end Address

end Subtitling.Web
