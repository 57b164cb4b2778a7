import Subtitling.Web.Domain

/-!
The host of an address. A web address names a domain, or an IPv4 address in any notation of its
numbers; any address may have an IPv6 address in brackets; in all other schemes the host is an
opaque text. Each host has one normal form.
-/

namespace Subtitling.Web

/-- A number in base 16, 8 or 10, as its front tells. -/
def ipv4Number? (cs : List Char) : Option Nat :=
  let read (base : Nat) (digits : List Char) : Option Nat :=
    digits.foldl (fun n c => do
      let d ← Text.hexValue? c
      if d < base then return (← n) * base + d else none) (some 0)
  match cs with
  | [] => none
  | '0' :: 'x' :: digits => read 16 digits
  | '0' :: 'X' :: digits => read 16 digits
  | '0' :: digits => read 8 digits
  | _ => read 10 cs

/-- The parts between dots, without an empty one at the end. -/
def ipv4Parts (cs : List Char) : List (List Char) :=
  let parts := Text.splitWhen (· = '.') cs
  if parts.length > 1 && parts.getLast?.any List.isEmpty then parts.dropLast else parts

/-- Whether a host can only be an IPv4 address. -/
def endsInNumber (cs : List Char) : Bool :=
  match (ipv4Parts cs).getLast? with
  | none => false
  | some last =>
    (!last.isEmpty && last.all Char.isDigit) ||
      ((last.take 2 = ['0', 'x'] || last.take 2 = ['0', 'X']) && (ipv4Number? last).isSome)

/-- The value of numbers of which the last fills all bytes that are left. -/
def ipv4Value? (width : Nat) : List Nat → Option Nat
  | [] => none
  | [last] => if last < Nat.pow 256 width then some last else none
  | n :: rest => do
    let value ← ipv4Value? (width - 1) rest
    if n < 256 then some (n * Nat.pow 256 (width - 1) + value) else none

def ipv4? (cs : List Char) : Option Nat := do
  let parts := ipv4Parts cs
  if 4 < parts.length then none
  else ipv4Value? 4 (← parts.mapM ipv4Number?)

def ipv4Chars (n : Nat) : List Char :=
  ['.'].intercalate
    ([n / 0x1000000, n / 0x10000 % 256, n / 0x100 % 256, n % 256].map (Nat.toDigits 10))

def ipv6Unit? (cs : List Char) : Option Nat :=
  if cs.isEmpty || 4 < cs.length then none
  else cs.foldl (fun n c => do return (← n) * 16 + (← Text.hexValue? c)) (some 0)

/-- One of four numbers between dots, without a leading zero. -/
def ipv6Byte? (cs : List Char) : Option Nat :=
  if cs.isEmpty || 3 < cs.length || !cs.all Char.isDigit || (cs.head? = some '0' && 1 < cs.length)
  then none
  else (ipv4Number? cs).filter (· < 256)

def ipv6Tail? (cs : List Char) : Option (List Nat) := do
  match ← (Text.splitWhen (· = '.') cs).mapM ipv6Byte? with
  | [a, b, c, d] => some [a * 256 + b, c * 256 + d]
  | _ => none

/-- Units between colons; the last of them may be written with dots. -/
def ipv6Units? (allowDots : Bool) : List (List Char) → Option (List Nat)
  | [] => some []
  | [last] =>
    if allowDots && last.contains '.' then ipv6Tail? last else (ipv6Unit? last).map ([·])
  | part :: rest => do
    let unit ← ipv6Unit? part
    let units ← ipv6Units? allowDots rest
    return unit :: units

def cutAtGap : List Char → Option (List Char × List Char)
  | ':' :: ':' :: rest => some ([], rest)
  | c :: rest => (cutAtGap rest).map fun (before, after) => (c :: before, after)
  | [] => none

def ipv6Side? (allowDots : Bool) (cs : List Char) : Option (List Nat) :=
  if cs.isEmpty then some [] else ipv6Units? allowDots (Text.splitWhen (· = ':') cs)

/-- The eight units of an address, in which a double colon stands for zeros. -/
def ipv6? (cs : List Char) : Option (List Nat) :=
  match cutAtGap cs with
  | none => (ipv6Side? true cs).filter (·.length = 8)
  | some (before, after) => do
    let front ← ipv6Side? false before
    let back ← ipv6Side? true after
    let gap := 8 - (front.length + back.length)
    if gap = 0 then none else return front ++ List.replicate gap 0 ++ back

def zeroRun (units : List Nat) : Nat := (units.takeWhile (· = 0)).length

/-- Where the first longest run of zeros starts, if it has two at least. -/
def longestGap? (units : List Nat) : Option (Nat × Nat) :=
  let runs := (List.range units.length).map fun i => (i, zeroRun (units.drop i))
  (runs.foldl (fun best run => if (best.map (·.2)).getD 1 < run.2 then some run else best) none)

def ipv6Chars (units : List Nat) : List Char :=
  let write (us : List Nat) : List Char := [':'].intercalate (us.map (Nat.toDigits 16))
  match longestGap? units with
  | none => write units
  | some (start, length) =>
    write (units.take start) ++ [':', ':'] ++ write (units.drop (start + length))

def isForbiddenInHost (c : Char) : Bool :=
  ['\x00', '\t', '\n', '\r', ' ', '#', '/', ':', '<', '>', '?', '@', '[', '\\', ']', '^',
    '|'].contains c

def isForbiddenInDomain (c : Char) : Bool := isForbiddenInHost c || c < ' ' || c = '%' || c = '\x7f'

def domain? (cs : List Char) : Option (List Char) := do
  let name ← asciiDomain? (← Text.Utf8.decode? (percentDecode cs))
  if name.isEmpty || name.any isForbiddenInDomain then none
  else if endsInNumber name then (ipv4? name).map ipv4Chars
  else some name

def host? (isWeb : Bool) (cs : List Char) : Option (List Char) :=
  match cs with
  | '[' :: rest =>
    if rest.getLast? = some ']' then
      (ipv6? rest.dropLast).map fun units => '[' :: ipv6Chars units ++ [']']
    else none
  | _ =>
    if isWeb then domain? cs
    else if cs.any isForbiddenInHost then none
    else some (percentEncode isControl cs)

end Subtitling.Web
