import Mathlib.Data.List.TakeWhile
import Subtitling.Proofs.Catalog.LiteralCounter
import Subtitling.Proofs.Number.Text
import Subtitling.Proofs.Text.Blank
import Subtitling.Proofs.Text.Hex

/-!
All that a literal can look like. A form is a literal together with the way it is written: which
quotes and escapes its strings have, which blanks stand around its tokens, and whether a comma
follows the last item. Nothing about a form can be wrong, and reading the text of a form gives
the value that it stands for, so long as brackets do not nest too deep.
-/

namespace Subtitling.Catalog.Literal

def Blanks : Type := { cs : List Char // ∀ c ∈ cs, Text.isBlank c = true }

def Word : Type := { n : Int // -(Nat.pow 2 63 : Int) ≤ n ∧ n < Nat.pow 2 63 }

inductive Quote
  | single
  | double
deriving DecidableEq

def Quote.char : Quote → Char
  | .single => '\x27'
  | .double => '"'

inductive Width
  | two
  | four
  | eight

def Width.letter : Width → Char
  | .two => 'x'
  | .four => 'u'
  | .eight => 'U'

def Width.count : Width → Nat
  | .two => 2
  | .four => 4
  | .eight => 8

def namedChars : List (Char × Char) := [('n', '\n'), ('t', '\t'), ('r', '\r'), ('0', '\x00')]

inductive Glyph
  | plain (c : Char)
  | slashed (c : Char)
  | named (letter c : Char)
  | coded (width : Width) (digits : List Char) (c : Char)

namespace Glyph

def char : Glyph → Char
  | plain c => c
  | slashed c => c
  | named _ c => c
  | coded _ _ c => c

def text : Glyph → List Char
  | plain c => [c]
  | slashed c => ['\\', c]
  | named letter _ => ['\\', letter]
  | coded width digits _ => '\\' :: width.letter :: digits

/-- Whether this is a way of writing the character between such quotes. -/
def Fits (quote : Quote) : Glyph → Prop
  | plain c => c ≠ quote.char ∧ c ≠ '\\'
  | slashed c => c = '\\' ∨ isQuote c = true
  | named letter c => (letter, c) ∈ namedChars
  | coded width digits c => digits.length = width.count ∧ Text.hexNumber? digits = some c.toNat

end Glyph

/-- A string as it is written; a `u` may stand in front of it. -/
structure Quoted where
  marked : Bool
  quote : Quote
  glyphs : List Glyph
  fits : ∀ g ∈ glyphs, g.Fits quote

namespace Quoted

def mark (q : Quoted) : List Char := if q.marked then ['u'] else []

def text (q : Quoted) : List Char :=
  q.mark ++ q.quote.char :: (q.glyphs.flatMap Glyph.text ++ [q.quote.char])

def value (q : Quoted) : String := String.ofList (q.glyphs.map Glyph.char)

end Quoted

structure Key where
  front : Blanks
  name : Quoted
  back : Blanks

def Key.text (k : Key) (rest : List Char) : List Char :=
  k.front.val ++ (k.name.text ++ (k.back.val ++ ':' :: rest))

theorem Key.text_append (k : Key) (after rest : List Char) :
    k.text after ++ rest = k.text (after ++ rest) := by
  simp [Key.text]

mutual

inductive Form
  | none
  | bool (b : Bool)
  | int (n : Word)
  | string (q : Quoted)
  | list (items : Items)
  | tuple (items : Items)
  | dict (fields : Fields)

/-- Items up to the closing bracket; a comma follows each of them but perhaps the last. -/
inductive Items
  | done (gap : Blanks)
  | last (front : Blanks) (item : Form) (back : Blanks)
  | more (front : Blanks) (item : Form) (back : Blanks) (rest : Items)

inductive Fields
  | done (gap : Blanks)
  | last (key : Key) (front : Blanks) (item : Form) (back : Blanks)
  | more (key : Key) (front : Blanks) (item : Form) (back : Blanks) (rest : Fields)

end

mutual

def Form.text : Form → List Char
  | .none => ['N', 'o', 'n', 'e']
  | .bool true => ['T', 'r', 'u', 'e']
  | .bool false => ['F', 'a', 'l', 's', 'e']
  | .int n => Number.intChars n.val
  | .string q => q.text
  | .list items => '[' :: items.text ']'
  | .tuple items => '(' :: items.text ')'
  | .dict fields => '\x7b' :: fields.text

def Items.text (close : Char) : Items → List Char
  | .done gap => gap.val ++ [close]
  | .last front item back => front.val ++ (item.text ++ (back.val ++ [close]))
  | .more front item back rest =>
    front.val ++ (item.text ++ (back.val ++ ',' :: rest.text close))

def Fields.text : Fields → List Char
  | .done gap => gap.val ++ ['\x7d']
  | .last key front item back =>
    key.text (front.val ++ (item.text ++ (back.val ++ ['\x7d'])))
  | .more key front item back rest =>
    key.text (front.val ++ (item.text ++ (back.val ++ ',' :: rest.text)))

end

mutual

def Form.value : Form → Json
  | .none => .null
  | .bool b => .bool b
  | .int n => .ofInt n.val
  | .string q => .string q.value
  | .list items => .array items.values
  | .tuple items => .array items.values
  | .dict fields => .ofFields fields.values

def Items.values : Items → List Json
  | .done _ => []
  | .last _ item _ => [item.value]
  | .more _ item _ rest => item.value :: rest.values

def Fields.values : Fields → List (String × Json)
  | .done _ => []
  | .last key _ item _ => [(key.name.value, item.value)]
  | .more key _ item _ rest => (key.name.value, item.value) :: rest.values

end

mutual

def Form.depth : Form → Nat
  | .list items => items.depth + 1
  | .tuple items => items.depth + 1
  | .dict fields => fields.depth + 1
  | _ => 0

def Items.depth : Items → Nat
  | .done _ => 0
  | .last _ item _ => item.depth
  | .more _ item _ rest => max item.depth rest.depth

def Fields.depth : Fields → Nat
  | .done _ => 0
  | .last _ _ item _ => item.depth
  | .more _ _ item _ rest => max item.depth rest.depth

end

theorem skipBlanks_append (offset : Nat) (front : Blanks) (x : Char) (rest : List Char)
    (hx : Text.isBlank x = false) :
    (Cursor.mk offset (front.val ++ x :: rest)).skipBlanks =
      ⟨offset + front.val.length, x :: rest⟩ := by
  have hrun : (front.val ++ x :: rest).takeWhile Text.isBlank = front.val := by
    rw [List.takeWhile_append_of_pos front.property, List.takeWhile_cons_of_neg (by simp [hx]),
      List.append_nil]
  simp [Cursor.skipBlanks, Cursor.advance, hrun]

theorem span_append (offset : Nat) (p : Char → Bool) (run rest : List Char)
    (hrun : ∀ c ∈ run, p c = true) (hrest : ∀ c ∈ rest.head?, p c = false) :
    (Cursor.mk offset (run ++ rest)).span p = (run, ⟨offset + run.length, rest⟩) := by
  have htaken : (run ++ rest).takeWhile p = run := by
    rw [List.takeWhile_append_of_pos hrun]
    cases rest with
    | nil => simp
    | cons c more => rw [List.takeWhile_cons_of_neg (by simp [hrest c rfl]), List.append_nil]
  simp [Cursor.span, Cursor.advance, htaken]

def isWordChar (c : Char) : Bool := c.isAlphanum || c = '_'

/-- A text that does not go on with a number or a word before it. -/
def Stops (rest : List Char) : Prop :=
  ∀ c ∈ rest.head?, isNumberChar c = false ∧ isWordChar c = false

theorem stops_of_isBlank (c : Char) (h : Text.isBlank c = true) :
    isNumberChar c = false ∧ isWordChar c = false := by
  have hall : ∀ n ∈ Text.blankPoints, isNumberChar (Char.ofNat n) = false ∧
      isWordChar (Char.ofNat n) = false := by decide
  have hc := hall c.toNat (Text.toNat_mem_blankPoints c h)
  rwa [Char.ofNat_toNat] at hc

theorem stops_append (back : Blanks) (x : Char) (rest : List Char)
    (hx : isNumberChar x = false ∧ isWordChar x = false) : Stops (back.val ++ x :: rest) := by
  intro c hc
  obtain ⟨back, hback⟩ := back
  cases back with
  | nil =>
    obtain rfl : x = c := by simpa using hc
    exact hx
  | cons d more =>
    obtain rfl : d = c := by simpa using hc
    exact stops_of_isBlank d (hback d (by simp))

theorem Quote.isQuote_char (quote : Quote) : isQuote quote.char = true := by
  cases quote <;> decide

theorem Quote.char_ne_backslash (quote : Quote) : quote.char ≠ '\\' := by
  cases quote <;> decide

theorem escapeCode_of_hexNumber (digits : List Char) (n : Nat) (hne : digits ≠ [])
    (h : Text.hexNumber? digits = some n) : escapeCode? digits = some n := by
  have hplain : ∀ rest, digits ≠ '+' :: rest := by
    rintro rest rfl
    rw [Text.hexNumber_plus] at h
    cases h
  have hfilled : digits.isEmpty = false := by simpa using hne
  rw [escapeCode?.eq_def]
  split
  · exact absurd rfl (hplain _)
  · simp only [hfilled]
    exact h

theorem hexChar_append (width : Width) (digits : List Char) (c : Char) (offset : Nat)
    (rest : List Char) (hlength : digits.length = width.count)
    (hcode : Text.hexNumber? digits = some c.toNat) :
    hexChar width.count ⟨offset, digits ++ rest⟩ = .ok (c, ⟨offset + width.count, rest⟩) := by
  have hne : digits ≠ [] := by
    rintro rfl
    cases width <;> cases hlength
  have htaken : (digits ++ rest).take width.count = digits := by
    rw [← hlength, List.take_left]
  have hleft : (digits ++ rest).drop width.count = rest := by
    rw [← hlength, List.drop_left]
  have hread := escapeCode_of_hexNumber digits c.toNat hne hcode
  have hvalid : c.toNat.isValidChar := c.valid
  have hroom : ¬ digits.length < width.count := by omega
  simp only [hexChar, htaken, hread, hvalid, hroom, if_false, if_true, Cursor.advance, hleft,
    Char.ofNat_toNat]

/-- A character that is written behind a backslash. What follows the backslash tells how many
digits there are, if any, and the reader stops right behind them. -/
theorem escape_glyph (g : Glyph) (quote : Quote) (hfits : g.Fits quote) (hslash : ∀ c, g ≠ .plain c)
    (offset : Nat) (rest : List Char) :
    ∃ escaped later, g.text = '\\' :: escaped ∧
      escape ⟨offset, escaped ++ rest⟩ = .ok (g.char, ⟨later, rest⟩) := by
  cases g with
  | plain c => exact absurd rfl (hslash c)
  | slashed c =>
    have hc : c = '\\' ∨ c = '\x27' ∨ c = '"' := by
      simpa [Glyph.Fits, isQuote] using hfits
    refine ⟨[c], offset + 1, rfl, ?_⟩
    rcases hc with rfl | rfl | rfl <;> rfl
  | named letter c =>
    refine ⟨[letter], offset + 1, rfl, ?_⟩
    simp only [Glyph.Fits, namedChars, List.mem_cons, Prod.mk.injEq, List.not_mem_nil,
      or_false] at hfits
    rcases hfits with ⟨rfl, rfl⟩ | ⟨rfl, rfl⟩ | ⟨rfl, rfl⟩ | ⟨rfl, rfl⟩ <;> rfl
  | coded width digits c =>
    obtain ⟨hlength, hcode⟩ := hfits
    have hread := hexChar_append width digits c (offset + 1) rest hlength hcode
    refine ⟨width.letter :: digits, offset + 1 + width.count, rfl, ?_⟩
    cases width <;> exact hread

/-- The glyphs of a string are read one by one up to the quote. A glyph that fits the quote never
looks like it, so the string does not end early. -/
theorem stringBody_glyphs (quote : Quote) (glyphs : List Glyph)
    (hfits : ∀ g ∈ glyphs, g.Fits quote) (fuel offset : Nat) (rest : List Char)
    (hfuel : glyphs.length < fuel) :
    ∃ later, stringBody quote.char fuel
        ⟨offset, glyphs.flatMap Glyph.text ++ quote.char :: rest⟩ =
      .ok (glyphs.map Glyph.char, ⟨later, rest⟩) := by
  induction glyphs generalizing fuel offset with
  | nil =>
    obtain ⟨fuel, rfl⟩ := Nat.exists_eq_add_one_of_ne_zero (by omega : fuel ≠ 0)
    exact ⟨offset + 1, by simp [stringBody, Cursor.next?]⟩
  | cons g more ih =>
    obtain ⟨fuel, rfl⟩ := Nat.exists_eq_add_one_of_ne_zero (by omega : fuel ≠ 0)
    have hmore (offset : Nat) := ih (fun h hh => hfits h (by simp [hh])) fuel offset
      (by simpa using hfuel)
    have hg := hfits g (by simp)
    by_cases hplain : ∃ c, g = .plain c
    · obtain ⟨c, rfl⟩ := hplain
      obtain ⟨later, hlater⟩ := hmore (offset + 1)
      refine ⟨later, ?_⟩
      simp only [List.flatMap_cons, Glyph.text, List.cons_append, List.nil_append, stringBody,
        Cursor.next?, if_neg hg.1, if_neg hg.2, hlater]
      rfl
    · obtain ⟨escaped, middle, htext, hescape⟩ := escape_glyph g quote hg
        (fun c hc => hplain ⟨c, hc⟩) (offset + 1) (more.flatMap Glyph.text ++ quote.char :: rest)
      obtain ⟨later, hlater⟩ := hmore middle
      refine ⟨later, ?_⟩
      have hslash := quote.char_ne_backslash
      rw [List.flatMap_cons, htext, List.append_assoc, List.cons_append, stringBody]
      simp only [Cursor.next?, if_neg hslash.symm, if_true, hescape, bind, Except.bind, hlater]
      rfl

theorem length_le_flatMap_text (glyphs : List Glyph) :
    glyphs.length ≤ (glyphs.flatMap Glyph.text).length := by
  induction glyphs with
  | nil => exact Nat.le_refl 0
  | cons g more ih =>
    have hg : 1 ≤ g.text.length := by cases g <;> simp [Glyph.text]
    rw [List.flatMap_cons, List.length_append, List.length_cons]
    omega

theorem string_quoted (q : Quoted) (fuel offset : Nat) (rest : List Char)
    (hfuel : q.glyphs.length < fuel) :
    ∃ later, string fuel
        ⟨offset, q.quote.char :: (q.glyphs.flatMap Glyph.text ++ q.quote.char :: rest)⟩ =
      .ok (.string q.value, ⟨later, rest⟩) := by
  obtain ⟨later, hbody⟩ :=
    stringBody_glyphs q.quote q.glyphs q.fits fuel (offset + 1) rest hfuel
  refine ⟨later, ?_⟩
  simp only [string, Cursor.next?, hbody]
  rfl

theorem isNumberChar_of_mem_intChars (n : Int) (c : Char) (h : c ∈ Number.intChars n) :
    isNumberChar c = true := by
  have hdigit (k : Nat) (hc : c ∈ Nat.toDigits 10 k) : isNumberChar c = true := by
    simp [isNumberChar, Number.isDigit_of_mem_toDigits k c hc]
  cases n with
  | ofNat k => exact hdigit k h
  | negSucc k =>
    rcases List.mem_cons.mp h with rfl | hc
    · decide
    · exact hdigit _ hc

theorem number_intChars (n : Word) (offset : Nat) (rest : List Char) (hrest : Stops rest) :
    number ⟨offset, Number.intChars n.val ++ rest⟩ =
      .ok (.ofInt n.val, ⟨offset + (Number.intChars n.val).length, rest⟩) := by
  have hspan := span_append offset isNumberChar (Number.intChars n.val) rest
    (isNumberChar_of_mem_intChars n.val) fun c hc => (hrest c hc).1
  have hvalue : numberValue? (Number.intChars n.val) = some (.int n.val) := by
    rw [numberValue?, Number.signed_intChars n.val n.property.1 n.property.2]
  simp only [number, hspan, hvalue]
  rfl

/-- A run of word characters is a constant, or the mark of a string, or nothing. -/
theorem word_eq (fuel : Nat) (c later : Cursor) (cs : List Char)
    (hspan : c.span isWordChar = (cs, later)) :
    word fuel c =
      if String.ofList cs = "None" then .ok (.null, later)
      else if String.ofList cs = "True" then .ok (.bool true, later)
      else if String.ofList cs = "False" then .ok (.bool false, later)
      else if stringMarks.contains (String.ofList cs) && later.rest.head?.any isQuote then
        string fuel later
      else .error (.unknownWord (String.ofList cs)) := by
  have hspan : c.span (fun x => x.isAlphanum || x = '_') = (cs, later) := hspan
  rw [word]
  simp only [hspan]

def constants : List (List Char × Json) :=
  [(['N', 'o', 'n', 'e'], .null), (['T', 'r', 'u', 'e'], .bool true),
    (['F', 'a', 'l', 's', 'e'], .bool false)]

theorem word_constant (cs : List Char) (v : Json) (h : (cs, v) ∈ constants) (fuel offset : Nat)
    (rest : List Char) (hrest : Stops rest) :
    word fuel ⟨offset, cs ++ rest⟩ = .ok (v, ⟨offset + cs.length, rest⟩) := by
  have hrun : ∀ c ∈ cs, isWordChar c = true := by
    have hall : ∀ p ∈ constants.map Prod.fst, p.all isWordChar = true := by decide
    exact List.all_eq_true.mp (hall cs (List.mem_map.mpr ⟨_, h, rfl⟩))
  have hspan := span_append offset isWordChar cs rest hrun fun c hc => (hrest c hc).2
  rw [word_eq fuel _ _ _ hspan]
  simp only [constants, List.mem_cons, Prod.mk.injEq, List.not_mem_nil, or_false] at h
  rcases h with ⟨rfl, rfl⟩ | ⟨rfl, rfl⟩ | ⟨rfl, rfl⟩ <;> rfl

/-- A string behind its mark. -/
theorem word_marked (fuel offset : Nat) (x : Char) (rest : List Char) (hx : isQuote x = true) :
    word fuel ⟨offset, 'u' :: x :: rest⟩ = string fuel ⟨offset + 1, x :: rest⟩ := by
  have hstop : isWordChar x = false := by
    have hx : x = '\x27' ∨ x = '"' := by simpa [isQuote] using hx
    rcases hx with rfl | rfl <;> decide
  have hmark : ∀ c ∈ ['u'], isWordChar c = true := by
    intro c hc
    obtain rfl := List.mem_singleton.mp hc
    decide
  have hspan := span_append offset isWordChar ['u'] (x :: rest) hmark
    fun c hc => by simpa [← Option.mem_some.mp hc] using hstop
  have hu : String.ofList ['u'] = "u" := rfl
  rw [← List.singleton_append, word_eq fuel _ _ _ hspan, hu]
  simp [stringMarks, hx]

def noBlanks : Blanks := ⟨[], nofun⟩

section

variable (fuel depth offset : Nat) (front : Blanks) (x : Char) (rest : List Char)

theorem value_of_word (hx : x ∈ ['N', 'T', 'F', 'u']) :
    value (fuel + 1) depth ⟨offset, front.val ++ x :: rest⟩ =
      word fuel ⟨offset + front.val.length, x :: rest⟩ := by
  simp only [List.mem_cons, List.not_mem_nil, or_false] at hx
  have hblank : Text.isBlank x = false := by rcases hx with rfl | rfl | rfl | rfl <;> decide
  rw [value_succ, skipBlanks_append offset front x rest hblank]
  rcases hx with rfl | rfl | rfl | rfl <;> rfl

theorem value_of_quote (hx : isQuote x = true) :
    value (fuel + 1) depth ⟨offset, front.val ++ x :: rest⟩ =
      string fuel ⟨offset + front.val.length, x :: rest⟩ := by
  have hx : x = '\x27' ∨ x = '"' := by simpa [isQuote] using hx
  have hblank : Text.isBlank x = false := by rcases hx with rfl | rfl <;> decide
  rw [value_succ, skipBlanks_append offset front x rest hblank]
  rcases hx with rfl | rfl <;> rfl

/-- A minus sign or a digit in front settles that a value is a number, before any of the words
that stand for values is tried. -/
theorem value_of_number (hx : x = '-' ∨ x.isDigit = true) :
    value (fuel + 1) depth ⟨offset, front.val ++ x :: rest⟩ =
      number ⟨offset + front.val.length, x :: rest⟩ := by
  have hblank : Text.isBlank x = false := by
    rcases hx with rfl | hdigit
    · decide
    · exact Text.not_isBlank_of_isDecimalDigit x (by simp [Text.isDecimalDigit, hdigit])
  have hne : ∀ c ∈ ['[', '(', '\x7b', '\x27', '"'], x ≠ c := by
    rintro c hc rfl
    simp only [List.mem_cons, List.not_mem_nil, or_false] at hc
    rcases hc with rfl | rfl | rfl | rfl | rfl <;> exact absurd hx (by decide)
  have hnumber : (x = '-' || x = '+' || x.isDigit) = true := by
    rcases hx with rfl | hdigit
    · decide
    · simp [hdigit]
  have hopen : (x = '[' || x = '(' || x = '\x7b') = false := by simp [hne]
  have hquote : isQuote x = false := by simp [isQuote, hne]
  rw [value_succ, skipBlanks_append offset front x rest hblank]
  simp only [hopen, hquote, hnumber, Bool.false_eq_true, if_false, if_true]

/-- What is made of the items behind a bracket. -/
theorem value_of_bracket (hdepth : depth < maxDepth) :
    value (fuel + 1) depth ⟨offset, front.val ++ '[' :: rest⟩ =
        (do let (items, c) ← items ']' fuel (depth + 1) ⟨offset + front.val.length + 1, rest⟩
            return (.array items, c)) ∧
      value (fuel + 1) depth ⟨offset, front.val ++ '(' :: rest⟩ =
        (do let (items, c) ← items ')' fuel (depth + 1) ⟨offset + front.val.length + 1, rest⟩
            return (.array items, c)) ∧
      value (fuel + 1) depth ⟨offset, front.val ++ '\x7b' :: rest⟩ =
        (do let (fields, c) ← fields fuel (depth + 1) ⟨offset + front.val.length + 1, rest⟩
            return (.ofFields fields, c)) := by
  have hroom : ¬ maxDepth ≤ depth := Nat.not_le.mpr hdepth
  refine ⟨?_, ?_, ?_⟩
  · rw [value_succ, skipBlanks_append offset front '[' rest (by decide)]
    simp [hroom, Cursor.advance]
  · rw [value_succ, skipBlanks_append offset front '(' rest (by decide)]
    simp [hroom, Cursor.advance]
  · rw [value_succ, skipBlanks_append offset front '\x7b' rest (by decide)]
    simp [hroom, Cursor.advance]

end

def closers : List Char := [']', ')', '\x7d']

theorem closer_cases (close : Char) (h : close ∈ closers) :
    close = ']' ∨ close = ')' ∨ close = '\x7d' := by
  simpa only [closers, List.mem_cons, List.not_mem_nil, or_false] using h

theorem Quoted.exists_cons (q : Quoted) :
    ∃ x rest, q.text = x :: rest ∧ Text.isBlank x = false ∧ x ∉ closers := by
  obtain ⟨marked, quote, glyphs, fits⟩ := q
  cases marked with
  | true => exact ⟨'u', _, rfl, by decide, by decide⟩
  | false =>
    have hquote : Text.isBlank quote.char = false ∧ quote.char ∉ closers := by
      cases quote <;> decide
    exact ⟨quote.char, _, rfl, hquote⟩

/-- A form starts neither with a blank nor with a bracket that closes. So a list that holds a
form is never taken for one that is over. -/
theorem Form.exists_cons (f : Form) :
    ∃ x rest, f.text = x :: rest ∧ Text.isBlank x = false ∧ x ∉ closers := by
  cases f with
  | none => exact ⟨'N', _, rfl, by decide, by decide⟩
  | bool b =>
    cases b with
    | true => exact ⟨'T', _, rfl, by decide, by decide⟩
    | false => exact ⟨'F', _, rfl, by decide, by decide⟩
  | int n =>
    obtain ⟨c, rest, hcons, hc⟩ := Number.exists_cons_intChars n.val
    refine ⟨c, rest, hcons, ?_, ?_⟩
    · rcases hc with rfl | hdigit
      · decide
      · exact Text.not_isBlank_of_isDecimalDigit c (by simp [Text.isDecimalDigit, hdigit])
    · intro hmem
      rcases closer_cases c hmem with rfl | rfl | rfl <;> exact absurd hc (by decide)
  | string q => exact q.exists_cons
  | list items => exact ⟨'[', _, rfl, by decide, by decide⟩
  | tuple items => exact ⟨'(', _, rfl, by decide, by decide⟩
  | dict fields => exact ⟨'\x7b', _, rfl, by decide, by decide⟩

/-- A string in quotes of either kind is read as its text, with or without a mark before the
quote and whichever escapes it is written with. -/
theorem value_quoted (q : Quoted) (fuel depth offset : Nat) (front : Blanks) (rest : List Char)
    (hfuel : 2 * q.text.length ≤ fuel) :
    ∃ later, value fuel depth ⟨offset, front.val ++ (q.text ++ rest)⟩ =
      .ok (.string q.value, ⟨later, rest⟩) := by
  have hlength := length_le_flatMap_text q.glyphs
  simp only [Quoted.text, List.length_append, List.length_cons] at hfuel
  obtain ⟨fuel, rfl⟩ := Nat.exists_eq_add_one_of_ne_zero (by omega : fuel ≠ 0)
  have hquote := q.quote.isQuote_char
  have hstring (offset : Nat) := string_quoted q fuel offset rest (by omega)
  cases hmarked : q.marked with
  | false =>
    obtain ⟨later, hlater⟩ := hstring (offset + front.val.length)
    refine ⟨later, ?_⟩
    simp only [Quoted.text, Quoted.mark, hmarked, List.nil_append, List.cons_append,
      List.append_assoc, Bool.false_eq_true, if_false]
    rw [value_of_quote _ _ _ _ _ _ hquote]
    exact hlater
  | true =>
    obtain ⟨later, hlater⟩ := hstring (offset + front.val.length + 1)
    refine ⟨later, ?_⟩
    simp only [Quoted.text, Quoted.mark, hmarked, List.nil_append, List.cons_append,
      List.append_assoc, if_true]
    rw [value_of_word _ _ _ _ _ _ (by decide), word_marked _ _ _ _ hquote]
    exact hlater

theorem stops_of_closer (close : Char) (h : close ∈ closers) :
    isNumberChar close = false ∧ isWordChar close = false := by
  rcases closer_cases close h with rfl | rfl | rfl <;> decide

theorem not_isBlank_of_closer (close : Char) (h : close ∈ closers) :
    Text.isBlank close = false := by
  rcases closer_cases close h with rfl | rfl | rfl <;> decide

/-- An item and what is behind it, which decides whether it is the last one. A comma may be the
last thing before the bracket, as Python writes it for a tuple of one. -/
theorem items_of_item (close : Char) (f : Form) (fuel depth offset : Nat) (front : Blanks)
    (v : Json) (c : Cursor) (rest : List Char) (hclose : close ∈ closers)
    (hitem : value fuel depth ⟨offset + front.val.length, f.text ++ rest⟩ = .ok (v, c)) :
    Literal.items close (fuel + 1) depth ⟨offset, front.val ++ (f.text ++ rest)⟩ =
      match c.skipBlanks.rest with
      | [] => .error (.expectedSeparator close none)
      | x :: _ =>
        if x = ',' then do
          let (rest, c) ← items close fuel depth (c.skipBlanks.advance 1)
          return (v :: rest, c)
        else if x = close then return ([v], c.skipBlanks.advance 1)
        else .error (.expectedSeparator close (some x)) := by
  obtain ⟨x, more, htext, hblank, hx⟩ := f.exists_cons
  have hne : x ≠ close := by
    rintro rfl
    exact hx hclose
  rw [htext, List.cons_append] at hitem
  rw [htext, List.cons_append, items_succ, skipBlanks_append offset front x _ hblank]
  simp only [List.head?_cons, Option.some.injEq, if_neg hne]
  rw [hitem]
  rfl

/-- A key, its item and what is behind them. -/
theorem fields_of_field (key : Key) (fuel depth offset middle : Nat) (after : List Char) (v : Json)
    (c : Cursor)
    (hkey : value fuel depth ⟨offset + key.front.val.length,
        key.name.text ++ (key.back.val ++ ':' :: after)⟩ =
      .ok (.string key.name.value, ⟨middle, key.back.val ++ ':' :: after⟩))
    (hitem : value fuel depth ⟨middle + key.back.val.length + 1, after⟩ = .ok (v, c)) :
    Literal.fields (fuel + 1) depth ⟨offset, key.text after⟩ =
      match c.skipBlanks.rest with
      | [] => .error (.expectedSeparator '\x7d' none)
      | x :: _ =>
        if x = ',' then do
          let (rest, c) ← fields fuel depth (c.skipBlanks.advance 1)
          return ((key.name.value, v) :: rest, c)
        else if x = '\x7d' then return ([(key.name.value, v)], c.skipBlanks.advance 1)
        else .error (.expectedSeparator '\x7d' (some x)) := by
  obtain ⟨x, more, htext, hblank, hx⟩ := key.name.exists_cons
  have hne : x ≠ '\x7d' := by
    rintro rfl
    exact hx (by decide)
  rw [htext, List.cons_append] at hkey
  rw [Key.text, htext, List.cons_append, fields_succ,
    skipBlanks_append offset key.front x _ hblank]
  simp only [List.head?_cons, Option.some.injEq, if_neg hne]
  rw [hkey]
  change (if (Cursor.skipBlanks ⟨middle, key.back.val ++ ':' :: after⟩).rest.head? = some ':' then _
    else _) = _
  rw [skipBlanks_append middle key.back ':' after (by decide)]
  simp only [List.head?_cons, if_true, Cursor.advance, List.drop_one, List.tail_cons]
  rw [hitem]
  rfl

mutual

/-- Reading the text of a form gives what the form stands for, and stops behind it. This is the
induction over all forms: lists, tuples and dicts ask it of what they hold, inside one bracket
more and with less fuel. What stands behind must not go on with a number or a word, as those have
no end of their own. -/
theorem Form.value_text (f : Form) (fuel depth offset : Nat) (front : Blanks) (rest : List Char)
    (hfuel : 2 * f.text.length ≤ fuel) (hdepth : depth + f.depth ≤ maxDepth) (hrest : Stops rest) :
    ∃ later, Literal.value fuel depth ⟨offset, front.val ++ (f.text ++ rest)⟩ =
      .ok (f.value, ⟨later, rest⟩) := by
  have hpositive : f.text.length ≠ 0 := by
    obtain ⟨x, more, htext, -⟩ := f.exists_cons
    simp [htext]
  obtain ⟨fuel, rfl⟩ := Nat.exists_eq_add_one_of_ne_zero (by omega : fuel ≠ 0)
  cases f with
  | none =>
    have hread := word_constant ['N', 'o', 'n', 'e'] .null (by simp [constants]) fuel
      (offset + front.val.length) rest hrest
    exact ⟨_, (value_of_word fuel depth offset front 'N' _ (by decide)).trans hread⟩
  | bool b =>
    cases b with
    | true =>
      have hread := word_constant ['T', 'r', 'u', 'e'] (.bool true) (by simp [constants]) fuel
        (offset + front.val.length) rest hrest
      exact ⟨_, (value_of_word fuel depth offset front 'T' _ (by decide)).trans hread⟩
    | false =>
      have hread := word_constant ['F', 'a', 'l', 's', 'e'] (.bool false) (by simp [constants])
        fuel (offset + front.val.length) rest hrest
      exact ⟨_, (value_of_word fuel depth offset front 'F' _ (by decide)).trans hread⟩
  | int n =>
    obtain ⟨c, more, hcons, hc⟩ := Number.exists_cons_intChars n.val
    have hread := number_intChars n (offset + front.val.length) rest hrest
    have hnumber := value_of_number fuel depth offset front c (more ++ rest) hc
    rw [← List.cons_append, ← hcons] at hnumber
    exact ⟨_, hnumber.trans hread⟩
  | string q => exact value_quoted q _ depth offset front rest hfuel
  | list items =>
    simp only [Form.text, Form.depth, List.length_cons] at hfuel hdepth
    obtain ⟨later, hitems⟩ := items.items_text ']' (by decide) fuel (depth + 1)
      (offset + front.val.length + 1) rest (by omega) (by omega)
    refine ⟨later, ?_⟩
    rw [Form.text, List.cons_append, (value_of_bracket _ _ _ _ _ (by omega)).1, hitems]
    rfl
  | tuple items =>
    simp only [Form.text, Form.depth, List.length_cons] at hfuel hdepth
    obtain ⟨later, hitems⟩ := items.items_text ')' (by decide) fuel (depth + 1)
      (offset + front.val.length + 1) rest (by omega) (by omega)
    refine ⟨later, ?_⟩
    rw [Form.text, List.cons_append, (value_of_bracket _ _ _ _ _ (by omega)).2.1, hitems]
    rfl
  | dict fields =>
    simp only [Form.text, Form.depth, List.length_cons] at hfuel hdepth
    obtain ⟨later, hfields⟩ := fields.fields_text fuel (depth + 1)
      (offset + front.val.length + 1) rest (by omega) (by omega)
    refine ⟨later, ?_⟩
    rw [Form.text, List.cons_append, (value_of_bracket _ _ _ _ _ (by omega)).2.2, hfields]
    rfl

/-- Items in any form are read as their values. The fuel that is asked for counts two steps for
each character, and the depth is that of the deepest item on top of what is open already. -/
theorem Items.items_text (is : Items) (close : Char) (hclose : close ∈ closers)
    (fuel depth offset : Nat) (rest : List Char) (hfuel : 2 * (is.text close).length + 1 ≤ fuel)
    (hdepth : depth + is.depth ≤ maxDepth) :
    ∃ later, Literal.items close fuel depth ⟨offset, is.text close ++ rest⟩ =
      .ok (is.values, ⟨later, rest⟩) := by
  obtain ⟨fuel, rfl⟩ := Nat.exists_eq_add_one_of_ne_zero (by omega : fuel ≠ 0)
  have hblank := not_isBlank_of_closer close hclose
  cases is with
  | done gap =>
    refine ⟨offset + gap.val.length + 1, ?_⟩
    rw [Items.text, List.append_assoc, List.singleton_append, items_succ,
      skipBlanks_append offset gap close rest hblank]
    simp [Cursor.advance, Items.values]
  | last front item back =>
    simp only [Items.text, Items.depth, List.length_append, List.length_singleton] at hfuel hdepth
    obtain ⟨middle, hitem⟩ := item.value_text fuel depth (offset + front.val.length) noBlanks
      (back.val ++ close :: rest) (by omega) hdepth
      (stops_append back close rest (stops_of_closer close hclose))
    refine ⟨middle + back.val.length + 1, ?_⟩
    have hcomma : close ≠ ',' := by
      rintro rfl
      exact absurd hclose (by decide)
    simp only [Items.text, List.append_assoc, List.singleton_append]
    rw [items_of_item close item fuel depth offset front item.value _ _ hclose hitem,
      skipBlanks_append middle back close rest hblank]
    simp only [if_neg hcomma, if_true, Cursor.advance, List.drop_one, List.tail_cons]
    rfl
  | more front item back others =>
    simp only [Items.text, Items.depth, List.length_append, List.length_cons] at hfuel hdepth
    obtain ⟨middle, hitem⟩ := item.value_text fuel depth (offset + front.val.length) noBlanks
      (back.val ++ ',' :: (others.text close ++ rest)) (by omega) (by omega)
      (stops_append back ',' _ (by decide))
    obtain ⟨later, hothers⟩ := others.items_text close hclose fuel depth
      (middle + back.val.length + 1) rest (by omega) (by omega)
    refine ⟨later, ?_⟩
    simp only [Items.text, List.append_assoc, List.cons_append]
    rw [items_of_item close item fuel depth offset front item.value _ _ hclose hitem,
      skipBlanks_append middle back ',' _ (by decide)]
    simp only [if_true, Cursor.advance, List.drop_one, List.tail_cons, hothers]
    rfl

/-- Fields in any form are read as their values. A key is read like any other value, so a number
may stand there; it is turned to text before the value behind its colon is read. -/
theorem Fields.fields_text (fs : Fields) (fuel depth offset : Nat) (rest : List Char)
    (hfuel : 2 * fs.text.length + 1 ≤ fuel) (hdepth : depth + fs.depth ≤ maxDepth) :
    ∃ later, Literal.fields fuel depth ⟨offset, fs.text ++ rest⟩ =
      .ok (fs.values, ⟨later, rest⟩) := by
  obtain ⟨fuel, rfl⟩ := Nat.exists_eq_add_one_of_ne_zero (by omega : fuel ≠ 0)
  cases fs with
  | done gap =>
    refine ⟨offset + gap.val.length + 1, ?_⟩
    rw [Fields.text, List.append_assoc, List.singleton_append, fields_succ,
      skipBlanks_append offset gap '\x7d' rest (by decide)]
    simp [Cursor.advance, Fields.values]
  | last key front item back =>
    simp only [Fields.text, Key.text, Fields.depth, List.length_append, List.length_cons,
      List.length_nil] at hfuel hdepth
    obtain ⟨first, hkey⟩ := value_quoted key.name fuel depth (offset + key.front.val.length)
      noBlanks (key.back.val ++ ':' :: (front.val ++ (item.text ++ (back.val ++ '\x7d' :: rest))))
      (by omega)
    obtain ⟨second, hitem⟩ := item.value_text fuel depth (first + key.back.val.length + 1) front
      (back.val ++ '\x7d' :: rest) (by omega) hdepth (stops_append back '\x7d' rest (by decide))
    refine ⟨second + back.val.length + 1, ?_⟩
    simp only [Fields.text, Key.text_append, List.append_assoc, List.singleton_append]
    rw [fields_of_field key fuel depth offset first _ item.value _ hkey hitem,
      skipBlanks_append second back '\x7d' rest (by decide)]
    simp only [if_neg (by decide : '\x7d' ≠ ','), if_true, Cursor.advance, List.drop_one,
      List.tail_cons]
    rfl
  | more key front item back others =>
    simp only [Fields.text, Key.text, Fields.depth, List.length_append, List.length_cons]
      at hfuel hdepth
    obtain ⟨first, hkey⟩ := value_quoted key.name fuel depth (offset + key.front.val.length)
      noBlanks (key.back.val ++ ':' :: (front.val ++ (item.text ++ (back.val ++ ',' ::
        (others.text ++ rest))))) (by omega)
    obtain ⟨second, hitem⟩ := item.value_text fuel depth (first + key.back.val.length + 1) front
      (back.val ++ ',' :: (others.text ++ rest)) (by omega) (by omega)
      (stops_append back ',' _ (by decide))
    obtain ⟨later, hothers⟩ := others.fields_text fuel depth (second + back.val.length + 1) rest
      (by omega) (by omega)
    refine ⟨later, ?_⟩
    simp only [Fields.text, Key.text_append, List.append_assoc, List.cons_append]
    rw [fields_of_field key fuel depth offset first _ item.value _ hkey hitem,
      skipBlanks_append second back ',' _ (by decide)]
    simp only [if_true, Cursor.advance, List.drop_one, List.tail_cons, hothers]
    rfl

end

/-- A form is read whole, with blanks around it. -/
theorem read_form (f : Form) (front back : Blanks) (h : f.depth ≤ maxDepth) :
    read (front.val ++ (f.text ++ back.val)) = .ok f.value := by
  have hrest : Stops back.val := by
    intro c hc
    exact stops_of_isBlank c (back.property c (List.mem_of_mem_head? hc))
  obtain ⟨later, hvalue⟩ := f.value_text
    (2 * (front.val ++ (f.text ++ back.val)).length + 2) 0 0 front back.val
    (by simp only [List.length_append]; omega) (by omega) hrest
  have hblank : back.val.takeWhile Text.isBlank = back.val :=
    List.takeWhile_eq_self_iff.mpr back.property
  have hnothing : (Cursor.skipBlanks ⟨later, back.val⟩).rest.isEmpty = true := by
    simp [Cursor.skipBlanks, Cursor.advance, hblank]
  rw [read_eq, Cursor.ofList, hvalue]
  change (if (Cursor.skipBlanks ⟨later, back.val⟩).rest.isEmpty then _ else _) = _
  rw [if_pos hnothing]
  rfl

end Subtitling.Catalog.Literal
