import Subtitling.Encoding.Sniff
import Subtitling.Text.CharacterClass
import Subtitling.Text.LowerCase
import Subtitling.Text.Pieces

/-!
Which language a subtitle is in. Timing lines, cue numbers and tags are dropped first; then the
script decides, and for Latin letters the words that are frequent in one language only.

Letters are counted by the block they lie in; a tenth of kana is enough for Japanese, which mixes
them with ideographs, and any other script needs three tenths of all letters. An answer from
words needs a least number of them and no other language with as many. The order in which the
entries of a tally are gone through is left open, so whoever looks for the greatest of them is
told the order, and compares in such a way that no two entries are equal.
-/

namespace Subtitling.Language

abbrev Tally := List (String × Nat)

namespace Tally

def add : Tally → String → Tally
  | [], key => [(key, 1)]
  | (k, n) :: rest, key => if k = key then (k, n + 1) :: rest else (k, n) :: add rest key

/-- The tally of keys, met one after the other. -/
def ofKeys (keys : List String) : Tally := keys.foldl add []

def met (t : Tally) (key : String) : Nat := (t.lookup key).getD 0

/-- An order in which the entries of a tally are gone through. -/
structure Order where
  arrange : Tally → Tally
  perm : ∀ t, (arrange t).Perm t

/-- The order in which the keys were first met. -/
def Order.asMet : Order := ⟨id, List.Perm.refl⟩

/-- Whether an entry stands no higher than another: it counts less, or as much and its key does not
come first. -/
def atMost (a b : String × Nat) : Bool := a.2 < b.2 || (a.2 == b.2 && b.1 ≤ a.1)

def greatest? : Tally → Option (String × Nat)
  | [] => none
  | e :: rest => some (rest.foldl (fun best e => if atMost best e then e else best) e)

def ranked (t : Tally) : Tally := t.mergeSort fun a b => atMost b a

end Tally

structure Script where
  code : String
  blocks : List (Nat × Nat)

def Script.holds (s : Script) (c : Char) : Bool :=
  s.blocks.any fun (low, high) => low ≤ c.toNat && c.toNat ≤ high

def kana : Script := ⟨"ja", [(0x3040, 0x309f), (0x30a0, 0x30ff)]⟩

/-- The other scripts, in the order of their codes. -/
def scripts : List Script :=
  [⟨"ar", [(0x0600, 0x06ff)]⟩,
   ⟨"el", [(0x0370, 0x03ff)]⟩,
   ⟨"he", [(0x0590, 0x05ff)]⟩,
   ⟨"ko", [(0xac00, 0xd7af), (0x1100, 0x11ff)]⟩,
   ⟨"ru", [(0x0400, 0x04ff)]⟩,
   ⟨"th", [(0x0e00, 0x0e7f)]⟩,
   ⟨"zh", [(0x4e00, 0x9fff)]⟩]

/-- Letters that Ukrainian has and Russian has not. -/
def ukrainianLetters : List Char := ['і', 'ї', 'є', 'ґ', 'І', 'Ї', 'Є', 'Ґ']

def scriptOf? (c : Char) : Option Script := (kana :: scripts).find? (·.holds c)

def scriptCodes (letters : List Char) : List String :=
  letters.filterMap fun c => (scriptOf? c).map Script.code

/-- The language of a text, if its script tells. -/
def guessByScript (order : Tally.Order) (text : List Char) : Option String :=
  let letters := text.filter Text.isAlphabetic
  let tally := Tally.ofKeys (scriptCodes letters)
  if letters.isEmpty then none
  else if letters.length ≤ tally.met kana.code * 10 then some kana.code
  else
    match Tally.greatest? ((order.arrange tally).filter fun e => e.1 != kana.code) with
    | none => none
    | some (code, n) =>
      if n * 10 < letters.length * 3 then none
      else if code = "ru" && letters.any ukrainianLetters.contains then some "uk"
      else some code

structure WordList where
  code : String
  words : List String

/-- Some words stand in several lists and then count for each of them. -/
def wordLists : List WordList :=
  [⟨"en",
     ["the", "and", "you", "that", "is", "to", "of", "it", "what", "this", "are", "have", "was",
      "not", "with", "for", "my", "he", "she", "we", "they", "your", "don't", "i'm", "it's",
      "there", "just", "know"]⟩,
   ⟨"fr",
     ["le", "les", "et", "est", "vous", "je", "pas", "que", "une", "des", "du", "pour", "qui",
      "dans", "ce", "il", "elle", "nous", "mais", "avec", "c'est", "oui", "très", "suis", "tu",
      "moi"]⟩,
   ⟨"es",
     ["el", "los", "las", "y", "es", "que", "no", "por", "una", "con", "para", "lo", "pero",
      "qué", "está", "sí", "muy", "yo", "tú", "usted", "esto", "eso", "estoy", "aquí"]⟩,
   ⟨"de",
     ["der", "die", "das", "und", "ist", "nicht", "ich", "sie", "du", "wir", "ein", "eine", "zu",
      "es", "mit", "auf", "was", "ja", "mir", "dich", "haben", "auch", "bin", "hier"]⟩,
   ⟨"it",
     ["il", "che", "di", "non", "è", "per", "sono", "mi", "ti", "ma", "come", "cosa", "questo",
      "perché", "io", "sei", "gli", "della", "bene", "lei"]⟩,
   ⟨"pt",
     ["o", "os", "as", "que", "não", "é", "um", "uma", "para", "com", "você", "eu", "isso",
      "está", "muito", "mas", "do", "da", "sim", "obrigado", "vamos"]⟩,
   ⟨"nl",
     ["de", "het", "een", "en", "is", "niet", "ik", "je", "dat", "wat", "van", "op", "zijn", "we",
      "maar", "met", "ze", "hij", "dit", "er"]⟩]

def holdsRun (run : List Char) : List Char → Bool
  | [] => run.isEmpty
  | c :: rest => run.isPrefixOf (c :: rest) || holdsRun run rest

def arrow : List Char := "-->".toList

def isSpoken (line : List Char) : Bool :=
  !line.isEmpty && !holdsRun arrow line && !line.all Char.isDigit

/-- What is spoken in a subtitle, with a blank for each tag. -/
def spokenText (text : List Char) : List Char :=
  Text.joinLines <|
    (((Text.lines text).map Text.trim).filter isSpoken).map (Text.replaceTags [' '])

/-- Words of a text: runs of letters and apostrophes, lower-cased. -/
def spokenWords (text : List Char) : List String :=
  ((Text.splitWhen (fun c => !(Text.isAlphabetic c || c = '\x27')) (Text.lowerChars text)).filter
    (!·.isEmpty)).map String.ofList

/-- The codes of the lists that words stand in, each word under every list that has it. -/
def wordCodes (words : List String) : List String :=
  words.flatMap fun word => (wordLists.filter (·.words.contains word)).map WordList.code

structure Detector where
  /-- Fewest words of a language that make a guess. -/
  minHits : Nat
deriving DecidableEq

def Detector.standard : Detector := ⟨3⟩

/-- A detector with a given threshold, which is at least one. -/
def Detector.withMinHits (n : Nat) : Detector := ⟨max n 1⟩

/-- The language whose list has enough words and more than every other. -/
def Detector.guessByWords (d : Detector) (order : Tally.Order) (text : List Char) : Option String :=
  match (order.arrange (Tally.ofKeys (wordCodes (spokenWords text)))).ranked with
  | [] => none
  | (code, hits) :: rest =>
    if hits < d.minHits then none
    else if rest.head?.any fun next => next.2 == hits then none
    else some code

/-- The language of a text. Scripts and words are counted, and each count is gone through in an
order of its own. -/
def Detector.detectIn (d : Detector) (scriptOrder wordOrder : Tally.Order) (text : List Char) :
    Option String :=
  let spoken := spokenText text
  match guessByScript scriptOrder spoken with
  | some code => some code
  | none => d.guessByWords wordOrder spoken

def Detector.detectText (d : Detector) (text : List Char) : Option String :=
  d.detectIn .asMet .asMet text

def Detector.detect (d : Detector) (sample : List UInt8) : Option String :=
  d.detectText (Encoding.decode sample).1

end Subtitling.Language
