import Subtitling.Text.Utf16

/-!
Records as they are kept in the file of a database: a list of fields, each of a kind of its own. A
record begins with the length of its head and the kinds of its fields, then the fields follow.
A record whose parts do not fill it is none.
-/

namespace Subtitling.Catalog

inductive Field
  | null
  | integer (value : Int)
  | text (bytes : List UInt8)
  /-- Bytes, or a number with a fraction. -/
  | other
deriving DecidableEq

namespace Field

/-- A number of several bytes, the highest first; bytes that are missing are zero. -/
def number (width : Nat) (bytes : List UInt8) : Nat :=
  (List.range width).foldl (fun n i => n * 256 + (bytes.getD i 0).toNat) 0

/-- The bytes of a number, the highest first. -/
def numberBytes : Nat → Nat → List UInt8
  | 0, _ => []
  | width + 1, n => numberBytes width (n / 256) ++ [UInt8.ofNat (n % 256)]

/-- A number of so many bits as it is read with a sign. -/
def signed (bits n : Nat) : Int := if n < Nat.pow 2 (bits - 1) then n else n - Nat.pow 2 bits

/-- A number with a sign as one of 64 bits. -/
def unsigned (n : Int) : Nat := (n % Nat.pow 2 64).toNat

/-- Goes on with a number of which so many bytes of seven bits may still come. -/
def takeNumberWithin : Nat → Nat → List UInt8 → Nat × List UInt8
  | _, n, [] => (n, [])
  | 0, n, b :: rest => (n * 256 + b.toNat, rest)
  | sevens + 1, n, b :: rest =>
    if b.toNat < 128 then (n * 128 + b.toNat, rest)
    else takeNumberWithin sevens (n * 128 + (b.toNat - 128)) rest

/-- A number of at most nine bytes and what follows it. Each byte gives seven bits and tells with
the eighth whether another comes; the ninth is the last and gives eight. -/
def takeNumber (bytes : List UInt8) : Nat × List UInt8 := takeNumberWithin 8 0 bytes

/-- So many bytes of seven bits, each of which tells that another comes. -/
def sevens : Nat → Nat → List UInt8
  | 0, _ => []
  | count + 1, n => sevens count (n / 128) ++ [UInt8.ofNat (128 + n % 128)]

def sevenCount (n : Nat) : Nat := (List.range 8).countP fun k => Nat.pow 128 k ≤ n

/-- The bytes of a number below 2^64, as few as can be. -/
def packedNumber (n : Nat) : List UInt8 :=
  if n < Nat.pow 2 56 then sevens (sevenCount (n / 128)) (n / 128) ++ [UInt8.ofNat (n % 128)]
  else sevens 8 (n / 256) ++ [UInt8.ofNat (n % 256)]

/-- How many bytes a whole number of a kind takes, if it is one. -/
def integerWidth? : Nat → Option Nat
  | 1 => some 1
  | 2 => some 2
  | 3 => some 3
  | 4 => some 4
  | 5 => some 6
  | 6 => some 8
  | _ => none

def width (kind : Nat) : Nat :=
  if kind < 12 then if kind = 7 then 8 else (integerWidth? kind).getD 0
  else (kind - 12) / 2

def ofBytes (kind : Nat) (bytes : List UInt8) : Field :=
  match integerWidth? kind with
  | some width => .integer (signed (8 * width) (number width bytes))
  | none =>
    if kind = 8 || kind = 9 then .integer (kind - 8)
    else if kind = 7 then .other
    else if kind < 12 then .null
    else if kind % 2 = 0 then .other
    else .text bytes

/-- The fields of some kinds, one after the other. -/
def ofKinds : List Nat → List UInt8 → List Field
  | [], _ => []
  | kind :: kinds, bytes =>
    ofBytes kind (bytes.take (width kind)) :: ofKinds kinds (bytes.drop (width kind))

/-- Kinds that take exactly so many bytes; there are no more of them than there is fuel. -/
def takeKinds : Nat → Nat → List UInt8 → Option (List Nat)
  | _, 0, _ => some []
  | 0, _, _ => none
  | fuel + 1, size, bytes =>
    let (kind, rest) := takeNumber bytes
    let used := bytes.length - rest.length
    if used = 0 || size < used then none else (takeKinds fuel (size - used) rest).map (kind :: ·)

/-- The fields of a record, if its head and its fields fill it. An empty head stands for no
fields. -/
def ofRecord? (record : List UInt8) : Option (List Field) :=
  let (size, rest) := takeNumber record
  let headSize := size - (record.length - rest.length)
  if size = 0 then some []
  else
    match takeKinds headSize headSize rest with
    | none => none
    | some kinds =>
      let filled := kinds.foldl (fun n kind => n + width kind) size
      if filled = record.length then some (ofKinds kinds (record.drop size))
      else none

/-- The kind of a field. Whole numbers take eight bytes, whatever they are. -/
def kind : Field → Nat
  | .null => 0
  | .integer _ => 6
  | .text bytes => 13 + 2 * bytes.length
  | .other => 0

/-- The bytes of a field, without its kind. -/
def bytes : Field → List UInt8
  | .integer n => numberBytes 8 (unsigned n)
  | .text bytes => bytes
  | _ => []

def record (fields : List Field) : List UInt8 :=
  let kinds := fields.flatMap fun f => packedNumber f.kind
  let size := if kinds.length < 127 then kinds.length + 1 else kinds.length + 2
  packedNumber size ++ kinds ++ fields.flatMap bytes

inductive TextForm
  | utf8
  | utf16 (order : Text.Utf16.ByteOrder)

/-- The text in some bytes. A broken sequence in UTF-8 makes it none; in UTF-16 it is replaced,
and a byte that is left over does not count. -/
def TextForm.read? (form : TextForm) (bytes : List UInt8) : Option String :=
  match form with
  | .utf8 => (Text.Utf8.decode? bytes).map String.ofList
  | .utf16 order =>
    some (String.ofList (Text.Utf16.decode order (bytes.take (bytes.length / 2 * 2))))

def ofString (s : String) : Field := .text s.toUTF8.toList

/-- A text, or null. -/
def ofOption {α : Type} (field : α → Field) : Option α → Field
  | none => .null
  | some a => field a

def integer? : Field → Option Int
  | .integer n => some n
  | _ => none

def text? (form : TextForm) : Field → Option String
  | .text bytes => form.read? bytes
  | _ => none

def optional? {α : Type} (read? : Field → Option α) (f : Field) : Option (Option α) :=
  if f = .null then some none else (read? f).map some

end Field

end Subtitling.Catalog
