import Subtitling.Json.Syntax
import Subtitling.Proofs.Number.Text
import Subtitling.Proofs.Text.Hex

/-!
The reader of JSON step by step: what each first character leads to, and what must have been read
where there is a result.
-/

namespace Subtitling.Json

attribute [local simp] readValue readItems readFields readString

theorem skipSpace_cons_of_space (c : Char) (rest : List Char) (h : isSpace c = true) :
    skipSpace (c :: rest) = skipSpace rest := by
  rw [skipSpace, List.dropWhile_cons_of_pos h]
  rfl

theorem skipSpace_cons_of_not (c : Char) (rest : List Char) (h : isSpace c = false) :
    skipSpace (c :: rest) = c :: rest := by
  rw [skipSpace, List.dropWhile_cons_of_neg (by simp [h])]

theorem skipSpace_append (gap rest : List Char) (h : ∀ c ∈ gap, isSpace c = true) :
    skipSpace (gap ++ rest) = skipSpace rest := by
  rw [skipSpace, List.dropWhile_append_of_pos h]
  rfl

theorem skipSpace_skipSpace (cs : List Char) : skipSpace (skipSpace cs) = skipSpace cs := by
  induction cs with
  | nil => rfl
  | cons c rest ih =>
    cases h : isSpace c with
    | true => rw [skipSpace_cons_of_space c rest h, ih]
    | false => rw [skipSpace_cons_of_not c rest h, skipSpace_cons_of_not c rest h]

theorem readString_quote (rest : List Char) : readString ('"' :: rest) = some ([], rest) := by
  rw [readString]

theorem readString_plain (c : Char) (rest : List Char) (hquote : c ≠ '"') (hslash : c ≠ '\\') :
    readString (c :: rest) =
      if c < ' ' then none
      else (readString rest).map fun (units, rest) => (c.toNat :: units, rest) := by
  rw [readString.eq_def]
  split <;> rename_i heq
  · cases heq
  · exact absurd (List.cons.inj heq).1 hquote
  · exact absurd (List.cons.inj heq).1 hslash
  · exact absurd (List.cons.inj heq).1 hslash
  · obtain ⟨rfl, rfl⟩ := List.cons.inj heq
    have hplain : (c < ' ' || c = '\\') = decide (c < ' ') := by simp [hslash]
    rw [hplain]
    by_cases hc : c < ' '
    · simp [hc]
    · cases readString rest <;> simp [hc]

theorem readString_slash (e : Char) (rest : List Char) (he : e ≠ 'u') :
    readString ('\\' :: e :: rest) = (simpleEscape? e).bind fun c =>
      (readString rest).map fun (units, rest) => (c.toNat :: units, rest) := by
  rw [readString.eq_4 e rest (by rintro a b c d more rfl; exact absurd rfl he)]
  cases simpleEscape? e with
  | none => rfl
  | some c => cases readString rest <;> rfl

theorem readString_unit (a b c d : Char) (rest : List Char) :
    readString ('\\' :: 'u' :: a :: b :: c :: d :: rest) = (hexUnit? a b c d).bind fun unit =>
      (readString rest).map fun (units, rest) => (unit :: units, rest) := by
  rw [readString]
  cases hexUnit? a b c d with
  | none => rfl
  | some unit => cases readString rest <;> rfl

/-- A character is no half of a pair. -/
theorem text_cons (c : Char) (units : List Nat) :
    text? (c.toNat :: units) = (text? units).map (c :: ·) := by
  have hvalid : c.toNat < 0xd800 ∨ 0xdfff < c.toNat ∧ c.toNat < 0x110000 := c.valid
  have hlow : (0xdc00 ≤ c.toNat && c.toNat < 0xe000) = false := by
    simp only [Bool.and_eq_false_iff, decide_eq_false_iff_not]
    omega
  have hhigh : (0xd800 ≤ c.toNat && c.toNat < 0xdc00) = false := by
    simp only [Bool.and_eq_false_iff, decide_eq_false_iff_not]
    omega
  rw [text?.eq_def]
  simp only [hlow, hhigh, Bool.false_eq_true, if_false, Char.ofNat_toNat]
  cases text? units <;> rfl

theorem hexUnit_eq (a b c d : Char) : hexUnit? a b c d = Text.hexNumber? [a, b, c, d] := by
  simp only [hexUnit?, Text.hexNumber?, List.foldl_cons, List.foldl_nil]
  cases Text.hexValue? a <;> cases Text.hexValue? b <;> cases Text.hexValue? c <;> simp

theorem readValue_skipSpace (fuel : Nat) (cs : List Char) :
    readValue fuel (skipSpace cs) = readValue fuel cs := by
  cases fuel with
  | zero => rw [readValue, readValue]
  | succ fuel => rw [readValue, readValue, skipSpace_skipSpace]

theorem readItems_skipSpace (fuel : Nat) (cs : List Char) :
    readItems fuel (skipSpace cs) = readItems fuel cs := by
  cases fuel with
  | zero => rw [readItems, readItems]
  | succ fuel => rw [readItems, readItems, readValue_skipSpace]

theorem readFields_skipSpace (fuel : Nat) (cs : List Char) :
    readFields fuel (skipSpace cs) = readFields fuel cs := by
  cases fuel with
  | zero => rw [readFields, readFields]
  | succ fuel => rw [readFields, readFields, skipSpace_skipSpace]

theorem readValue_spaces (fuel : Nat) (gap cs : List Char) (h : ∀ c ∈ gap, isSpace c = true) :
    readValue fuel (gap ++ cs) = readValue fuel cs := by
  rw [← readValue_skipSpace, skipSpace_append gap cs h, readValue_skipSpace]

theorem readItems_spaces (fuel : Nat) (gap cs : List Char) (h : ∀ c ∈ gap, isSpace c = true) :
    readItems fuel (gap ++ cs) = readItems fuel cs := by
  rw [← readItems_skipSpace, skipSpace_append gap cs h, readItems_skipSpace]

theorem readFields_spaces (fuel : Nat) (gap cs : List Char) (h : ∀ c ∈ gap, isSpace c = true) :
    readFields fuel (gap ++ cs) = readFields fuel cs := by
  rw [← readFields_skipSpace, skipSpace_append gap cs h, readFields_skipSpace]

def starters : List Char := ['n', 't', 'f', '"', '-', '[', '\x7b']

theorem readValue_other (fuel : Nat) (c : Char) (rest : List Char) (hc : c ∉ starters)
    (hdigit : isDigit c = false) (hspace : isSpace c = false) :
    readValue fuel (c :: rest) = none := by
  cases fuel with
  | zero => rw [readValue]
  | succ fuel =>
    rw [readValue, skipSpace_cons_of_not c rest hspace]
    simp only [starters, List.mem_cons, List.not_mem_nil, or_false, not_or] at hc
    split <;> simp_all

theorem readValue_quote (fuel : Nat) (rest : List Char) :
    readValue (fuel + 1) ('"' :: rest) =
      (readString rest).map fun (units, rest) => (.string units, rest) := by
  rw [readValue, skipSpace_cons_of_not '"' rest (by decide)]
  rfl

theorem readValue_minus (fuel : Nat) (rest : List Char) :
    readValue (fuel + 1) ('-' :: rest) =
      (readNumber true rest).map fun (n, rest) => (.number n, rest) := by
  rw [readValue, skipSpace_cons_of_not '-' rest (by decide)]
  rfl

/-- A digit in front settles that a value is a number, so nothing else is tried. -/
theorem readValue_digit (fuel : Nat) (c : Char) (rest : List Char) (hc : isDigit c = true) :
    readValue (fuel + 1) (c :: rest) =
      (readNumber false (c :: rest)).map fun (n, rest) => (.number n, rest) := by
  have hother : ∀ d, isDigit d = false → c ≠ d := by
    rintro d hd rfl
    rw [hc] at hd
    cases hd
  have hspace : isSpace c = false := by
    simp [isSpace, hother ' ' (by decide), hother '\n' (by decide), hother '\t' (by decide),
      hother '\r' (by decide)]
  rw [readValue, skipSpace_cons_of_not c rest hspace]
  split <;> rename_i heq
  case h_8 =>
    obtain ⟨rfl, rfl⟩ := List.cons.inj heq
    rw [if_pos hc]
  case h_9 => cases heq
  all_goals exact absurd (List.cons.inj heq).1 (hother _ (by decide))

theorem readValue_bracket (fuel : Nat) (rest : List Char) :
    readValue (fuel + 1) ('[' :: rest) =
      match skipSpace rest with
      | ']' :: rest => some (.array [], rest)
      | rest => (readItems fuel rest).map fun (items, rest) => (.array items, rest) := by
  rw [readValue, skipSpace_cons_of_not '[' rest (by decide)]
  rfl

theorem readValue_brace (fuel : Nat) (rest : List Char) :
    readValue (fuel + 1) ('\x7b' :: rest) =
      match skipSpace rest with
      | '\x7d' :: rest => some (.object [], rest)
      | rest => (readFields fuel rest).map fun (fields, rest) => (.object fields, rest) := by
  rw [readValue, skipSpace_cons_of_not '\x7b' rest (by decide)]
  rfl

theorem readValue_word (fuel : Nat) (rest : List Char) :
    readValue (fuel + 1) ('n' :: 'u' :: 'l' :: 'l' :: rest) = some (.null, rest) ∧
      readValue (fuel + 1) ('t' :: 'r' :: 'u' :: 'e' :: rest) = some (.bool true, rest) ∧
      readValue (fuel + 1) ('f' :: 'a' :: 'l' :: 's' :: 'e' :: rest) =
        some (.bool false, rest) := by
  refine ⟨?_, ?_, ?_⟩
  · rw [readValue, skipSpace_cons_of_not 'n' _ (by decide)]
    rfl
  · rw [readValue, skipSpace_cons_of_not 't' _ (by decide)]
    rfl
  · rw [readValue, skipSpace_cons_of_not 'f' _ (by decide)]
    rfl

theorem readValue_bracket_items (fuel : Nat) (x : Char) (rest : List Char)
    (hspace : isSpace x = false) (hx : x ≠ ']') :
    readValue (fuel + 1) ('[' :: x :: rest) =
      (readItems fuel (x :: rest)).map fun (items, rest) => (.array items, rest) := by
  rw [readValue_bracket, skipSpace_cons_of_not x rest hspace]
  split
  · rename_i heq
    exact absurd (List.cons.inj heq).1 hx
  · rfl

theorem readValue_brace_fields (fuel : Nat) (x : Char) (rest : List Char)
    (hspace : isSpace x = false) (hx : x ≠ '\x7d') :
    readValue (fuel + 1) ('\x7b' :: x :: rest) =
      (readFields fuel (x :: rest)).map fun (fields, rest) => (.object fields, rest) := by
  rw [readValue_brace, skipSpace_cons_of_not x rest hspace]
  split
  · rename_i heq
    exact absurd (List.cons.inj heq).1 hx
  · rfl

theorem readItems_last (fuel : Nat) (cs rest : List Char) (item : Source)
    (h : readValue fuel cs = some (item, ']' :: rest)) :
    readItems (fuel + 1) cs = some ([item], rest) := by
  rw [readItems, h]
  rfl

theorem readItems_more (fuel : Nat) (cs more : List Char) (item : Source)
    (h : readValue fuel cs = some (item, ',' :: more)) :
    readItems (fuel + 1) cs =
      (readItems fuel more).map fun (others, rest) => (item :: others, rest) := by
  rw [readItems, h]
  cases hmore : readItems fuel more with
  | none =>
    simp only [Option.bind_eq_bind, Option.bind_some, skipSpace_cons_of_not ',' more (by decide),
      hmore]
    rfl
  | some found =>
    simp only [Option.bind_eq_bind, Option.bind_some, skipSpace_cons_of_not ',' more (by decide),
      hmore]
    rfl

theorem readFields_last (fuel : Nat) (front after rest : List Char) (key : List Nat)
    (value : Source) (hkey : readString front = some (key, ':' :: after))
    (hvalue : readValue fuel after = some (value, '\x7d' :: rest)) :
    readFields (fuel + 1) ('"' :: front) = some ([(key, value)], rest) := by
  rw [readFields, skipSpace_cons_of_not '"' front (by decide)]
  simp only [hkey, Option.bind_eq_bind, Option.bind_some,
    skipSpace_cons_of_not ':' after (by decide), hvalue,
      skipSpace_cons_of_not '\x7d' rest (by decide)]
  rfl

theorem readFields_more (fuel : Nat) (front after more : List Char) (key : List Nat)
    (value : Source) (hkey : readString front = some (key, ':' :: after))
    (hvalue : readValue fuel after = some (value, ',' :: more)) :
    readFields (fuel + 1) ('"' :: front) =
      (readFields fuel more).map fun (others, rest) => ((key, value) :: others, rest) := by
  rw [readFields, skipSpace_cons_of_not '"' front (by decide)]
  simp only [hkey, Option.bind_eq_bind, Option.bind_some,
    skipSpace_cons_of_not ':' after (by decide), hvalue, skipSpace_cons_of_not ',' more (by decide)]
  cases readFields fuel more <;> rfl

/-- What must stand in a text for its items to be read. There is an item, and behind it either a
comma with more items or the bracket that ends the list. -/
theorem readItems_eq_some (fuel : Nat) (cs later : List Char) (sources : List Source)
    (h : readItems fuel cs = some (sources, later)) :
    ∃ n item behind, readValue n cs = some (item, behind) ∧
      ((∃ more others, skipSpace behind = ',' :: more ∧ readItems n more = some (others, later) ∧
          sources = item :: others) ∨
        skipSpace behind = ']' :: later ∧ sources = [item]) := by
  cases fuel with
  | zero => simp at h
  | succ n =>
    rw [readItems] at h
    obtain ⟨⟨item, behind⟩, hitem, h⟩ := Option.bind_eq_some_iff.mp h
    refine ⟨n, item, behind, hitem, ?_⟩
    simp only at h
    split at h
    · rename_i more hbehind
      obtain ⟨⟨others, rest⟩, hothers, h⟩ := Option.bind_eq_some_iff.mp h
      cases h
      exact .inl ⟨more, others, hbehind, hothers, rfl⟩
    · rename_i more hbehind
      cases h
      exact .inr ⟨hbehind, rfl⟩
    · cases h

/-- What must have been read where fields came of it: a key, a colon, a value, and then either a
comma with more fields or the brace that ends the object. -/
theorem readFields_eq_some (fuel : Nat) (cs later : List Char)
    (sources : List (List Nat × Source)) (h : readFields fuel cs = some (sources, later)) :
    ∃ n front key behind after value last, skipSpace cs = '"' :: front ∧
      readString front = some (key, behind) ∧ skipSpace behind = ':' :: after ∧
      readValue n after = some (value, last) ∧
      ((∃ more others, skipSpace last = ',' :: more ∧ readFields n more = some (others, later) ∧
          sources = (key, value) :: others) ∨
        skipSpace last = '\x7d' :: later ∧ sources = [(key, value)]) := by
  cases fuel with
  | zero => simp at h
  | succ n =>
    rw [readFields] at h
    split at h
    · rename_i front hfront
      obtain ⟨⟨key, behind⟩, hkey, h⟩ := Option.bind_eq_some_iff.mp h
      simp only at h
      split at h
      · rename_i after hafter
        obtain ⟨⟨value, last⟩, hvalue, h⟩ := Option.bind_eq_some_iff.mp h
        refine ⟨n, front, key, behind, after, value, last, hfront, hkey, hafter, hvalue, ?_⟩
        simp only at h
        split at h
        · rename_i more hmore
          obtain ⟨⟨others, rest⟩, hothers, h⟩ := Option.bind_eq_some_iff.mp h
          cases h
          exact .inl ⟨more, others, hmore, hothers, rfl⟩
        · rename_i more hmore
          cases h
          exact .inr ⟨hmore, rfl⟩
        · cases h
      · cases h
    · cases h

theorem readValue_bracket_eq_some (fuel : Nat) (rest later : List Char) (source : Source)
    (h : readValue fuel ('[' :: rest) = some (source, later)) :
    (skipSpace rest = ']' :: later ∧ source = .array []) ∨
      ∃ n items, readItems n rest = some (items, later) ∧ source = .array items := by
  cases fuel with
  | zero => simp at h
  | succ n =>
    rw [readValue_bracket] at h
    split at h
    · rename_i more hmore
      cases h
      exact .inl ⟨hmore, rfl⟩
    · obtain ⟨⟨items, behind⟩, hitems, h⟩ := Option.map_eq_some_iff.mp h
      cases h
      rw [readItems_skipSpace] at hitems
      exact .inr ⟨n, items, hitems, rfl⟩

theorem readValue_brace_eq_some (fuel : Nat) (rest later : List Char) (source : Source)
    (h : readValue fuel ('\x7b' :: rest) = some (source, later)) :
    (skipSpace rest = '\x7d' :: later ∧ source = .object []) ∨
      ∃ n fields, readFields n rest = some (fields, later) ∧ source = .object fields := by
  cases fuel with
  | zero => simp at h
  | succ n =>
    rw [readValue_brace] at h
    split at h
    · rename_i more hmore
      cases h
      exact .inl ⟨hmore, rfl⟩
    · obtain ⟨⟨fields, behind⟩, hfields, h⟩ := Option.map_eq_some_iff.mp h
      cases h
      rw [readFields_skipSpace] at hfields
      exact .inr ⟨n, fields, hfields, rfl⟩

theorem valueWithin_array_eq_some (depth : Nat) (items : List Source) (v : Json)
    (h : (Source.array items).valueWithin? depth = some v) :
    ∃ vs, itemsWithin? (depth - 1) items = some vs ∧ v = .array vs := by
  rw [Source.valueWithin?] at h
  split at h
  · cases h
  · obtain ⟨vs, hvs, rfl⟩ := Option.map_eq_some_iff.mp h
    exact ⟨vs, hvs, rfl⟩

theorem valueWithin_object_eq_some (depth : Nat) (fields : List (List Nat × Source)) (v : Json)
    (h : (Source.object fields).valueWithin? depth = some v) :
    ∃ vs, fieldsWithin? (depth - 1) fields = some vs ∧ v = ofFields vs := by
  rw [Source.valueWithin?] at h
  split at h
  · cases h
  · obtain ⟨vs, hvs, rfl⟩ := Option.map_eq_some_iff.mp h
    exact ⟨vs, hvs, rfl⟩

theorem itemsWithin_cons_eq_some (depth : Nat) (item : Source) (others : List Source)
    (vs : List Json) (h : itemsWithin? depth (item :: others) = some vs) :
    ∃ v ws, item.valueWithin? depth = some v ∧ itemsWithin? depth others = some ws ∧
      vs = v :: ws := by
  rw [itemsWithin?] at h
  obtain ⟨v, hv, h⟩ := Option.bind_eq_some_iff.mp h
  obtain ⟨ws, hws, h⟩ := Option.bind_eq_some_iff.mp h
  cases h
  exact ⟨v, ws, hv, hws, rfl⟩

theorem fieldsWithin_cons_eq_some (depth : Nat) (key : List Nat) (item : Source)
    (others : List (List Nat × Source)) (vs : List (String × Json))
    (h : fieldsWithin? depth ((key, item) :: others) = some vs) :
    ∃ cs v ws, text? key = some cs ∧ item.valueWithin? depth = some v ∧
      fieldsWithin? depth others = some ws ∧ vs = (String.ofList cs, v) :: ws := by
  rw [fieldsWithin?] at h
  obtain ⟨cs, hcs, h⟩ := Option.bind_eq_some_iff.mp h
  obtain ⟨v, hv, h⟩ := Option.bind_eq_some_iff.mp h
  obtain ⟨ws, hws, h⟩ := Option.bind_eq_some_iff.mp h
  cases h
  exact ⟨cs, v, ws, hcs, hv, hws, rfl⟩

theorem isDigit_eq (c : Char) : isDigit c = c.isDigit := by
  simp only [isDigit, Char.isDigit, Char.le_def, ge_iff_le]

/-- All digits in front are taken, and what is left begins with another character. -/
theorem readDigits_append (digits rest : List Char) (hne : digits ≠ [])
    (hdigits : ∀ c ∈ digits, isDigit c = true) (hrest : ∀ c ∈ rest.head?, isDigit c = false) :
    readDigits (digits ++ rest) = some (digits, rest) := by
  have htaken : (digits ++ rest).takeWhile isDigit = digits := by
    rw [List.takeWhile_append_of_pos hdigits]
    cases rest with
    | nil => simp
    | cons c more => rw [List.takeWhile_cons_of_neg (by simp [hrest c rfl]), List.append_nil]
  have hleft : (digits ++ rest).dropWhile isDigit = rest := by
    rw [List.dropWhile_append_of_pos hdigits]
    cases rest with
    | nil => rfl
    | cons c more => rw [List.dropWhile_cons_of_neg (by simp [hrest c rfl])]
  rw [readDigits, htaken, hleft]
  cases digits with
  | nil => exact absurd rfl hne
  | cons c more => rfl

/-- A text that does not go on with a number before it. -/
def EndsNumber (rest : List Char) : Prop :=
  ∀ c ∈ rest.head?, isDigit c = false ∧ c ≠ '.' ∧ c ≠ 'e' ∧ c ≠ 'E'

/-- The decimal digits of a number are read as that number, up to a text that does not go on with
it. There is no zero in front of them but a zero alone, which the reader asks for. -/
theorem readNumber_toDigits (negative : Bool) (n : Nat) (rest : List Char)
    (hrest : EndsNumber rest) :
    readNumber negative (Nat.toDigits 10 n ++ rest) =
      some (⟨negative, Nat.toDigits 10 n, [], none⟩, rest) := by
  have hdigits : ∀ c ∈ Nat.toDigits 10 n, isDigit c = true := by
    intro c hc
    rw [isDigit_eq]
    exact Number.isDigit_of_mem_toDigits n c hc
  have hread := readDigits_append _ rest Nat.toDigits_ne_nil hdigits fun c hc => (hrest c hc).1
  have hzero : ((Nat.toDigits 10 n).length > 1 && (Nat.toDigits 10 n).head? = some '0') =
    false := by
    simp only [Bool.and_eq_false_iff, decide_eq_false_iff_not]
    exact Subtitling.Number.length_le_or_head_ne n
  have hpoint : ∀ more, rest ≠ '.' :: more := by
    rintro more rfl
    exact (hrest '.' rfl).2.1 rfl
  have hsmall : ∀ more, rest ≠ 'e' :: more := by
    rintro more rfl
    exact (hrest 'e' rfl).2.2.1 rfl
  have hlarge : ∀ more, rest ≠ 'E' :: more := by
    rintro more rfl
    exact (hrest 'E' rfl).2.2.2 rfl
  simp only [readNumber, hread, Option.bind_eq_bind, Option.bind_some, hzero, Bool.false_eq_true,
    if_false]
  rfl

/-- Digits below the limit of 64 bits are all taken. -/
theorem takeSignificand_eq (start : Nat) (digits : List Char)
    (h : digits.foldl (fun n c => n * 10 + (c.toNat - '0'.toNat)) start < Nat.pow 2 64) :
    takeSignificand start digits =
      (digits.foldl (fun n c => n * 10 + (c.toNat - '0'.toNat)) start, digits.length) := by
  induction digits generalizing start with
  | nil => rfl
  | cons c rest ih =>
    rw [List.foldl_cons] at h
    have hgrows := Subtitling.Number.le_foldl_digits rest (start * 10 + (c.toNat - '0'.toNat))
    have hnext : start * 10 + (c.toNat - '0'.toNat) < Nat.pow 2 64 := by omega
    have hrest := ih _ h
    simp only [takeSignificand, digitValue, hnext, if_true, hrest]
    rfl

/-- The decimal form of a number that fits 64 bits with a sign is read as that number. A minus
sign in front is not part of the digits, so the two signs are two cases. -/
theorem readValue_intChars (fuel : Nat) (n : Int) (rest : List Char)
    (hlow : -(Nat.pow 2 63 : Int) ≤ n) (hhigh : n < Nat.pow 2 63) (hrest : EndsNumber rest) :
    ∃ text, readValue (fuel + 1) (Subtitling.Number.intChars n ++ rest) =
      some (.number text, rest) ∧
      text.value? = some (.int n) := by
  have hwider : Nat.pow 2 63 < Nat.pow 2 64 := by decide
  have htaken (k : Nat) (hk : k < Nat.pow 2 64) :
      takeSignificand 0 (Nat.toDigits 10 k) = (k, (Nat.toDigits 10 k).length) := by
    have hvalue := Subtitling.Number.digitsValue_toDigits k
    rw [Subtitling.Number.digitsValue] at hvalue
    rw [takeSignificand_eq 0 (Nat.toDigits 10 k) (by rwa [hvalue]), hvalue]
  cases n with
  | ofNat k =>
    refine ⟨⟨false, Nat.toDigits 10 k, [], none⟩, ?_, ?_⟩
    · obtain ⟨c, more, hcons⟩ := List.exists_cons_of_ne_nil
        (Nat.toDigits_ne_nil (n := k) (b := 10))
      have hc : isDigit c = true := by
        rw [isDigit_eq]
        exact Subtitling.Number.isDigit_of_mem_toDigits k c (by simp [hcons])
      have hread := readNumber_toDigits false k rest hrest
      rw [hcons, List.cons_append] at hread
      rw [Subtitling.Number.intChars, hcons, List.cons_append, readValue_digit _ _ _ hc, hread]
      rfl
    · have hk : k < Nat.pow 2 64 := Nat.lt_trans (Int.ofNat_lt.mp hhigh) hwider
      simp [NumberText.value?, htaken k hk]
  | negSucc k =>
    refine ⟨⟨true, Nat.toDigits 10 (k + 1), [], none⟩, ?_, ?_⟩
    · rw [Subtitling.Number.intChars, List.cons_append, readValue_minus,
        readNumber_toDigits true (k + 1) rest hrest]
      rfl
    · have hfits : ¬ Nat.pow 2 63 < k + 1 := by omega
      have hsign : -((k : Int) + 1) = Int.negSucc k := by omega
      simp [NumberText.value?, htaken (k + 1) (by omega), hfits, hsign]

end Subtitling.Json
