import Subtitling.Catalog.Stored
import Subtitling.Proofs.Catalog.LiteralsAsJson
import Subtitling.Proofs.Json.Writing

/-!
One list in two notations. Older rows of the catalog hold what Python writes for a list, newer
ones what a writer of JSON does. The notation is told by trying JSON first, so that older rows go
either way; for their candidates it makes no difference which way that is, nor in which notation
the list was stored.
-/

namespace Subtitling.Catalog

open Literal (Blanks Fields Form Glyph Items Key Quote Quoted Word)

/-- What elements of a list are built from. A string has the quotes that it is written with. -/
inductive Value
  | none
  | bool (b : Bool)
  | int (n : Word)
  | string (quote : Quote) (s : String)
  | list (items : List Value)
  | tuple (items : List Value)
  | dict (fields : List ((Quote × String) × Value))

namespace Value

/-- Whether a character is written as it is: all of ASCII but the controls is, and what else is
printable depends on the version. -/
def isPlain (printable : Char → Bool) (c : Char) : Bool :=
  if c.toNat < 0x7f then 0x20 ≤ c.toNat else c.toNat != 0x7f && printable c

def glyph (printable : Char → Bool) (quote : Quote) (c : Char) : Glyph :=
  if c = quote.char ∨ c = '\\' then .slashed c
  else if c = '\t' then .named 't' c
  else if c = '\n' then .named 'n' c
  else if c = '\r' then .named 'r' c
  else if isPlain printable c then .plain c
  else if c.toNat < 0x100 then .coded .two (Text.hexPadded 2 c.toNat) c
  else if c.toNat < 0x10000 then .coded .four (Text.hexPadded 4 c.toNat) c
  else .coded .eight (Text.hexPadded 8 c.toNat) c

/-- Whatever a writer takes for printable, the way it writes a character is one that a reader of
literals knows. A character that is not printable has its code in the fewest of two, four and
eight digits that hold it. -/
theorem glyph_fits (printable : Char → Bool) (quote : Quote) (c : Char) :
    (glyph printable quote c).Fits quote := by
  have hvalid : c.toNat < 0xd800 ∨ 0xdfff < c.toNat ∧ c.toNat < 0x110000 := c.valid
  rw [glyph]
  split
  · rename_i h
    rcases h with rfl | rfl
    · exact .inr quote.isQuote_char
    · exact .inl rfl
  rename_i h
  rw [not_or] at h
  split
  · rename_i htab
    subst htab
    simp [Glyph.Fits, Literal.namedChars]
  split
  · rename_i hfeed
    subst hfeed
    simp [Glyph.Fits, Literal.namedChars]
  split
  · rename_i hreturn
    subst hreturn
    simp [Glyph.Fits, Literal.namedChars]
  split
  · exact h
  split
  · exact ⟨Text.length_hexPadded 2 _ (by decide) (by omega), Text.hexNumber_hexPadded 2 _⟩
  split
  · exact ⟨Text.length_hexPadded 4 _ (by decide) (by omega), Text.hexNumber_hexPadded 4 _⟩
  · exact ⟨Text.length_hexPadded 8 _ (by decide) (by omega), Text.hexNumber_hexPadded 8 _⟩

theorem char_glyph (printable : Char → Bool) (quote : Quote) (c : Char) :
    (glyph printable quote c).char = c := by
  rw [glyph]
  repeat' split
  all_goals rfl

def quoted (printable : Char → Bool) (quote : Quote) (s : String) : Quoted where
  marked := false
  quote := quote
  glyphs := s.toList.map (glyph printable quote)
  fits := by
    intro g hg
    obtain ⟨c, -, rfl⟩ := List.mem_map.mp hg
    exact glyph_fits printable quote c

theorem value_quoted (printable : Char → Bool) (quote : Quote) (s : String) :
    (quoted printable quote s).value = s := by
  have hchars : (s.toList.map (glyph printable quote)).map Glyph.char = s.toList := by
    rw [List.map_map]
    exact List.map_id'' (char_glyph printable quote) s.toList
  rw [Quoted.value, quoted, hchars, String.ofList_toList]

def oneBlank : Blanks where
  val := [' ']
  property := by
    intro c hc
    obtain rfl := List.mem_singleton.mp hc
    decide

open Literal (noBlanks)

mutual

/-- How a value is written. A comma and a blank stand between items, and a tuple of one item has
a comma behind it. -/
def form (printable : Char → Bool) : Value → Form
  | .none => .none
  | .bool b => .bool b
  | .int n => .int n
  | .string quote s => .string (quoted printable quote s)
  | .list items => .list (itemsForm printable noBlanks items)
  | .tuple items => .tuple (tupleForm printable items)
  | .dict fields => .dict (fieldsForm printable noBlanks fields)

def itemsForm (printable : Char → Bool) (gap : Blanks) : List Value → Items
  | [] => .done noBlanks
  | [item] => .last gap (item.form printable) noBlanks
  | item :: rest => .more gap (item.form printable) noBlanks (itemsForm printable oneBlank rest)

def tupleForm (printable : Char → Bool) : List Value → Items
  | [] => .done noBlanks
  | [item] => .more noBlanks (item.form printable) noBlanks (.done noBlanks)
  | item :: rest =>
    .more noBlanks (item.form printable) noBlanks (itemsForm printable oneBlank rest)

def fieldsForm (printable : Char → Bool) (gap : Blanks) :
    List ((Quote × String) × Value) → Fields
  | [] => .done noBlanks
  | [((quote, name), item)] =>
    .last ⟨gap, quoted printable quote name, noBlanks⟩ oneBlank (item.form printable) noBlanks
  | ((quote, name), item) :: rest =>
    .more ⟨gap, quoted printable quote name, noBlanks⟩ oneBlank (item.form printable) noBlanks
      (fieldsForm printable oneBlank rest)

end

def literalText (printable : Char → Bool) (v : Value) : String :=
  String.ofList (v.form printable).text

mutual

def json : Value → Json
  | .none => .null
  | .bool b => .bool b
  | .int n => .ofInt n.val
  | .string _ s => .string s
  | .list items => .array (itemsJson items)
  | .tuple items => .array (itemsJson items)
  | .dict fields => .ofFields (fieldsJson fields)

def itemsJson : List Value → List Json
  | [] => []
  | item :: rest => item.json :: itemsJson rest

def fieldsJson : List ((Quote × String) × Value) → List (String × Json)
  | [] => []
  | ((_, name), item) :: rest => (name, item.json) :: fieldsJson rest

end

mutual

/-- How deep lists, tuples and dicts nest. -/
def depth : Value → Nat
  | .list items => itemsDepth items + 1
  | .tuple items => itemsDepth items + 1
  | .dict fields => fieldsDepth fields + 1
  | _ => 0

def itemsDepth : List Value → Nat
  | [] => 0
  | item :: rest => max item.depth (itemsDepth rest)

def fieldsDepth : List ((Quote × String) × Value) → Nat
  | [] => 0
  | (_, item) :: rest => max item.depth (fieldsDepth rest)

end

mutual

/-- The form that a writer gives a value stands for the value, and its brackets nest as deep as
the value does. -/
theorem form_means (printable : Char → Bool) (v : Value) :
    (v.form printable).value = v.json ∧ (v.form printable).depth = v.depth := by
  cases v with
  | none => exact ⟨rfl, rfl⟩
  | bool b => exact ⟨rfl, rfl⟩
  | int n => exact ⟨rfl, rfl⟩
  | string quote s =>
    refine ⟨?_, rfl⟩
    rw [form, Form.value, value_quoted, json]
  | list items =>
    obtain ⟨hvalues, hdepth⟩ := itemsForm_means printable noBlanks items
    simp only [form, Form.value, Form.depth, json, depth, hvalues, hdepth, and_self]
  | tuple items =>
    obtain ⟨hvalues, hdepth⟩ := tupleForm_means printable items
    simp only [form, Form.value, Form.depth, json, depth, hvalues, hdepth, and_self]
  | dict fields =>
    obtain ⟨hvalues, hdepth⟩ := fieldsForm_means printable noBlanks fields
    simp only [form, Form.value, Form.depth, json, depth, hvalues, hdepth, and_self]

theorem itemsForm_means (printable : Char → Bool) (gap : Blanks) (items : List Value) :
    (itemsForm printable gap items).values = itemsJson items ∧
      (itemsForm printable gap items).depth = itemsDepth items := by
  cases items with
  | nil => exact ⟨rfl, rfl⟩
  | cons item rest =>
    obtain ⟨hvalue, hdepth⟩ := form_means printable item
    cases rest with
    | nil => simp [itemsForm, Items.values, Items.depth, itemsJson, itemsDepth, hvalue, hdepth]
    | cons next more =>
      obtain ⟨hvalues, hdepths⟩ := itemsForm_means printable oneBlank (next :: more)
      rw [itemsJson, itemsDepth, itemsForm, Items.values, Items.depth, hvalue, hdepth, hvalues,
        hdepths]
      · exact ⟨rfl, rfl⟩
      · simp

theorem tupleForm_means (printable : Char → Bool) (items : List Value) :
    (tupleForm printable items).values = itemsJson items ∧
      (tupleForm printable items).depth = itemsDepth items := by
  cases items with
  | nil => exact ⟨rfl, rfl⟩
  | cons item rest =>
    obtain ⟨hvalue, hdepth⟩ := form_means printable item
    cases rest with
    | nil => simp [tupleForm, Items.values, Items.depth, itemsJson, itemsDepth, hvalue, hdepth]
    | cons next more =>
      obtain ⟨hvalues, hdepths⟩ := itemsForm_means printable oneBlank (next :: more)
      rw [itemsJson, itemsDepth, tupleForm, Items.values, Items.depth, hvalue, hdepth, hvalues,
        hdepths]
      · exact ⟨rfl, rfl⟩
      · simp

/-- The fields of a form stand for those of the dict, key by key, with whatever blanks the writer
puts between them. -/
theorem fieldsForm_means (printable : Char → Bool) (gap : Blanks)
    (fields : List ((Quote × String) × Value)) :
    (fieldsForm printable gap fields).values = fieldsJson fields ∧
      (fieldsForm printable gap fields).depth = fieldsDepth fields := by
  cases fields with
  | nil => exact ⟨rfl, rfl⟩
  | cons field rest =>
    obtain ⟨⟨quote, name⟩, item⟩ := field
    obtain ⟨hvalue, hdepth⟩ := form_means printable item
    have hname := value_quoted printable quote name
    cases rest with
    | nil =>
      simp [fieldsForm, Fields.values, Fields.depth, fieldsJson, fieldsDepth, hvalue, hdepth, hname]
    | cons next more =>
      obtain ⟨hvalues, hdepths⟩ := fieldsForm_means printable oneBlank (next :: more)
      rw [fieldsJson, fieldsDepth, fieldsForm, Fields.values, Fields.depth, hvalue, hdepth,
        hvalues, hdepths, hname]
      · exact ⟨rfl, rfl⟩
      · simp

end

open Json (Style)

mutual

def jsonChars (style : Style) : Value → List Char
  | .none => ['n', 'u', 'l', 'l']
  | .bool true => ['t', 'r', 'u', 'e']
  | .bool false => ['f', 'a', 'l', 's', 'e']
  | .int n => Number.intChars n.val
  | .string _ s => style.string s
  | .list items => '[' :: itemsChars style items
  | .tuple items => '[' :: itemsChars style items
  | .dict fields => '\x7b' :: fieldsChars style fields

def itemsChars (style : Style) : List Value → List Char
  | [] => [']']
  | [item] => item.jsonChars style ++ [']']
  | item :: rest => item.jsonChars style ++ ',' :: (style.comma ++ itemsChars style rest)

def fieldsChars (style : Style) : List ((Quote × String) × Value) → List Char
  | [] => ['\x7d']
  | [((_, name), item)] =>
    style.string name ++ ':' :: (style.colon ++ (item.jsonChars style ++ ['\x7d']))
  | ((_, name), item) :: rest =>
    style.string name ++ ':' :: (style.colon ++ (item.jsonChars style ++
      ',' :: (style.comma ++ fieldsChars style rest)))

end

def jsonText (style : Style) (v : Value) : String := String.ofList (v.jsonChars style)

theorem endsNumber_cons (c : Char) (rest : List Char) (hc : c ∈ [',', ']', '\x7d']) :
    Json.EndsNumber (c :: rest) := by
  intro d hd
  obtain rfl : c = d := by simpa using hd
  simp only [List.mem_cons, List.not_mem_nil, or_false] at hc
  rcases hc with rfl | rfl | rfl <;> decide

theorem itemsChars_more (style : Style) (item next : Value) (others : List Value) :
    itemsChars style (item :: next :: others) =
      item.jsonChars style ++ ',' :: (style.comma ++ itemsChars style (next :: others)) := by
  rw [itemsChars]
  simp

theorem fieldsChars_more (style : Style) (quote : Quote) (name : String) (item : Value)
    (next : (Quote × String) × Value) (others : List ((Quote × String) × Value)) :
    fieldsChars style (((quote, name), item) :: next :: others) =
      style.string name ++ ':' :: (style.colon ++ (item.jsonChars style ++
        ',' :: (style.comma ++ fieldsChars style (next :: others)))) := by
  rw [fieldsChars]
  simp

/-- A value in JSON begins with a character that is neither a blank nor a closing bracket, so the
reader takes it for an item and not for the end of the array. -/
theorem exists_cons_jsonChars (style : Style) (v : Value) :
    ∃ c more, v.jsonChars style = c :: more ∧ Json.isSpace c = false ∧ c ≠ ']' := by
  cases v with
  | none => exact ⟨'n', _, rfl, by decide, by decide⟩
  | bool b =>
    cases b with
    | false => exact ⟨'f', _, rfl, by decide, by decide⟩
    | true => exact ⟨'t', _, rfl, by decide, by decide⟩
  | int n =>
    obtain ⟨c, more, hcons, hc⟩ := Number.exists_cons_intChars n.val
    refine ⟨c, more, hcons, ?_⟩
    rcases hc with rfl | hdigit
    · exact ⟨by decide, by decide⟩
    · have hother : ∀ d, d.isDigit = false → c ≠ d := by
        rintro d hd rfl
        rw [hdigit] at hd
        cases hd
      refine ⟨?_, hother ']' (by decide)⟩
      simp [Json.isSpace, hother ' ' (by decide), hother '\n' (by decide), hother '\t' (by decide),
        hother '\r' (by decide)]
  | string quote s => exact ⟨'"', _, rfl, by decide, by decide⟩
  | list items => exact ⟨'[', _, rfl, by decide, by decide⟩
  | tuple items => exact ⟨'[', _, rfl, by decide, by decide⟩
  | dict fields => exact ⟨'\x7b', _, rfl, by decide, by decide⟩

theorem exists_cons_itemsChars (style : Style) (item : Value) (rest : List Value) :
    ∃ c more, itemsChars style (item :: rest) = c :: more ∧ Json.isSpace c = false ∧ c ≠ ']' := by
  obtain ⟨c, more, hcons, hc⟩ := exists_cons_jsonChars style item
  cases rest with
  | nil => exact ⟨c, _, by rw [itemsChars, hcons, List.cons_append], hc⟩
  | cons next others => exact ⟨c, _, by rw [itemsChars_more, hcons, List.cons_append], hc⟩

theorem exists_cons_fieldsChars (style : Style) (field : (Quote × String) × Value)
    (rest : List ((Quote × String) × Value)) :
    ∃ more, fieldsChars style (field :: rest) = '"' :: more := by
  obtain ⟨⟨quote, name⟩, item⟩ := field
  cases rest with
  | nil => exact ⟨_, by rw [fieldsChars, Style.string, List.cons_append]⟩
  | cons next others => exact ⟨_, by rw [fieldsChars_more, Style.string, List.cons_append]⟩

mutual

/-- What is written in JSON is read, and stands for what was written. The proof goes along the
value, with items and fields in their own lemmas. The fuel counts two steps for each character,
and the room is only looked at when the sources are given their meaning. -/
theorem reads_jsonChars (style : Style) (v : Value) (fuel : Nat) (rest : List Char)
    (hfuel : 2 * (v.jsonChars style).length ≤ fuel) (hrest : Json.EndsNumber rest) :
    ∃ source, Json.readValue fuel (v.jsonChars style ++ rest) = some (source, rest) ∧
      ∀ room, v.depth ≤ room → source.valueWithin? room = some v.json := by
  have hfirst : 0 < (v.jsonChars style).length := by
    obtain ⟨c, more, hcons, -⟩ := exists_cons_jsonChars style v
    rw [hcons]
    exact Nat.succ_pos _
  obtain ⟨fuel, rfl⟩ := Nat.exists_eq_add_one_of_ne_zero (by omega : fuel ≠ 0)
  cases v with
  | none => exact ⟨.null, (Json.readValue_word fuel rest).1, fun _ _ => rfl⟩
  | bool b =>
    cases b with
    | false => exact ⟨.bool false, (Json.readValue_word fuel rest).2.2, fun _ _ => rfl⟩
    | true => exact ⟨.bool true, (Json.readValue_word fuel rest).2.1, fun _ _ => rfl⟩
  | int n =>
    obtain ⟨text, hread, hvalue⟩ :=
      Json.readValue_intChars fuel n.val rest n.property.1 n.property.2 hrest
    refine ⟨.number text, hread, fun room _ => ?_⟩
    rw [Json.Source.valueWithin?, hvalue]
    rfl
  | string quote s =>
    obtain ⟨units, hread, htext⟩ := style.readString_string s rest
    refine ⟨.string units, ?_, fun room _ => ?_⟩
    · rw [jsonChars, Style.string, List.cons_append, List.append_assoc, List.singleton_append,
        Json.readValue_quote, hread]
      rfl
    · rw [Json.Source.valueWithin?, htext, json, Option.map_some, String.ofList_toList]
  | list items =>
    simp only [jsonChars, List.length_cons] at hfuel
    exact reads_array style items fuel rest (by omega)
  | tuple items =>
    simp only [jsonChars, List.length_cons] at hfuel
    exact reads_array style items fuel rest (by omega)
  | dict fields =>
    cases fields with
    | nil =>
      refine ⟨.object [], ?_, fun room hroom => ?_⟩
      · rw [jsonChars, fieldsChars, List.cons_append, List.singleton_append, Json.readValue_brace,
          Json.skipSpace_cons_of_not '\x7d' rest (by decide)]
        rfl
      · have hdeep : room ≠ 0 := Nat.ne_of_gt hroom
        simp [Json.Source.valueWithin?, hdeep, Json.fieldsWithin?, json, fieldsJson]
    | cons field others =>
      obtain ⟨more, hcons⟩ := exists_cons_fieldsChars style field others
      simp only [jsonChars, List.length_cons] at hfuel
      obtain ⟨sources, hread, hvalues⟩ := reads_fieldsChars style (field :: others) nofun fuel rest
        (by omega)
      refine ⟨.object sources, ?_, fun room hroom => ?_⟩
      · rw [hcons, List.cons_append] at hread
        rw [jsonChars, hcons, List.cons_append, List.cons_append,
          Json.readValue_brace_fields fuel '"' _ (by decide) (by decide), hread]
        rfl
      · rw [depth] at hroom
        rw [Json.Source.valueWithin?, if_neg (by omega), hvalues (room - 1) (by omega), json]
        rfl

/-- An array written in JSON is read as one that means the list. An empty one is a case of its
own, as its bracket closes before an item is looked for. -/
theorem reads_array (style : Style) (items : List Value) (fuel : Nat) (rest : List Char)
    (hfuel : 2 * (itemsChars style items).length + 1 ≤ fuel) :
    ∃ source, Json.readValue (fuel + 1) ('[' :: itemsChars style items ++ rest) =
        some (source, rest) ∧
      ∀ room, itemsDepth items + 1 ≤ room →
        source.valueWithin? room = some (.array (itemsJson items)) := by
  cases items with
  | nil =>
    refine ⟨.array [], ?_, fun room hroom => ?_⟩
    · rw [itemsChars, List.cons_append, List.singleton_append, Json.readValue_bracket,
        Json.skipSpace_cons_of_not ']' rest (by decide)]
      rfl
    · have hdeep : room ≠ 0 := Nat.ne_of_gt hroom
      simp [Json.Source.valueWithin?, hdeep, Json.itemsWithin?, itemsJson]
  | cons item others =>
    obtain ⟨c, more, hcons, hspace, hc⟩ := exists_cons_itemsChars style item others
    obtain ⟨sources, hread, hvalues⟩ :=
      reads_itemsChars style (item :: others) nofun fuel rest hfuel
    refine ⟨.array sources, ?_, fun room hroom => ?_⟩
    · rw [hcons, List.cons_append] at hread
      rw [hcons, List.cons_append, List.cons_append,
        Json.readValue_bracket_items fuel c _ hspace hc, hread]
      rfl
    · rw [Json.Source.valueWithin?, if_neg (by omega), hvalues (room - 1) (by omega)]
      rfl

/-- Items written in JSON are read as sources that mean them, given two steps for each character.
The induction is on the items; how deep they nest is asked only of the meaning, since the reader
itself does not count. -/
theorem reads_itemsChars (style : Style) (items : List Value) (hitems : items ≠ []) (fuel : Nat)
    (rest : List Char) (hfuel : 2 * (itemsChars style items).length + 1 ≤ fuel) :
    ∃ sources, Json.readItems fuel (itemsChars style items ++ rest) = some (sources, rest) ∧
      ∀ room, itemsDepth items ≤ room →
        Json.itemsWithin? room sources = some (itemsJson items) := by
  obtain ⟨fuel, rfl⟩ := Nat.exists_eq_add_one_of_ne_zero (by omega : fuel ≠ 0)
  match items, hitems with
  | [item], _ =>
    simp only [itemsChars, List.length_append] at hfuel
    obtain ⟨source, hread, hvalue⟩ := reads_jsonChars style item fuel (']' :: rest) (by omega)
      (endsNumber_cons ']' rest (by decide))
    refine ⟨[source], ?_, fun room hroom => ?_⟩
    · rw [itemsChars, List.append_assoc, List.singleton_append]
      exact Json.readItems_last fuel _ rest source hread
    · have hitem := hvalue room (by simpa [itemsDepth] using hroom)
      simp [Json.itemsWithin?, hitem, itemsJson]
  | item :: next :: others, _ =>
    rw [itemsChars_more] at hfuel ⊢
    simp only [List.length_append, List.length_cons] at hfuel
    obtain ⟨source, hread, hvalue⟩ := reads_jsonChars style item fuel
      (',' :: (style.comma ++ (itemsChars style (next :: others) ++ rest))) (by omega)
      (endsNumber_cons ',' _ (by decide))
    obtain ⟨sources, hmore, hvalues⟩ := reads_itemsChars style (next :: others) nofun fuel rest
      (by omega)
    refine ⟨source :: sources, ?_, fun room hroom => ?_⟩
    · simp only [List.append_assoc, List.cons_append]
      rw [Json.readItems_more fuel _ _ source hread,
        Json.readItems_spaces fuel style.comma _ style.isSpace_comma, hmore]
      rfl
    · rw [itemsDepth] at hroom
      rw [Json.itemsWithin?, hvalue room (by omega), hvalues room (by omega)]
      rfl

/-- Fields written in JSON are read as sources that mean them. Each field takes the steps of its
key, of its colon and of its value, and the rest of the fields follow by induction. -/
theorem reads_fieldsChars (style : Style) (fields : List ((Quote × String) × Value))
    (hfields : fields ≠ []) (fuel : Nat) (rest : List Char)
    (hfuel : 2 * (fieldsChars style fields).length + 1 ≤ fuel) :
    ∃ sources, Json.readFields fuel (fieldsChars style fields ++ rest) = some (sources, rest) ∧
      ∀ room, fieldsDepth fields ≤ room →
        Json.fieldsWithin? room sources = some (fieldsJson fields) := by
  obtain ⟨fuel, rfl⟩ := Nat.exists_eq_add_one_of_ne_zero (by omega : fuel ≠ 0)
  match fields, hfields with
  | [((quote, name), item)], _ =>
    simp only [fieldsChars, List.length_append, List.length_cons] at hfuel
    obtain ⟨units, hkey, htext⟩ := style.readString_string name
      (':' :: (style.colon ++ (item.jsonChars style ++ '\x7d' :: rest)))
    obtain ⟨source, hread, hvalue⟩ := reads_jsonChars style item fuel ('\x7d' :: rest) (by omega)
      (endsNumber_cons '\x7d' rest (by decide))
    rw [← Json.readValue_spaces fuel style.colon _ style.isSpace_colon] at hread
    refine ⟨[(units, source)], ?_, fun room hroom => ?_⟩
    · simp only [fieldsChars, Style.string, List.append_assoc, List.cons_append, List.nil_append]
      exact Json.readFields_last fuel _ _ rest units source hkey hread
    · have hitem := hvalue room (by simpa [fieldsDepth] using hroom)
      simp [Json.fieldsWithin?, htext, hitem, fieldsJson]
  | ((quote, name), item) :: next :: others, _ =>
    rw [fieldsChars_more] at hfuel ⊢
    simp only [List.length_append, List.length_cons] at hfuel
    obtain ⟨units, hkey, htext⟩ := style.readString_string name
      (':' :: (style.colon ++ (item.jsonChars style ++
        ',' :: (style.comma ++ (fieldsChars style (next :: others) ++ rest)))))
    obtain ⟨source, hread, hvalue⟩ := reads_jsonChars style item fuel
      (',' :: (style.comma ++ (fieldsChars style (next :: others) ++ rest))) (by omega)
      (endsNumber_cons ',' _ (by decide))
    rw [← Json.readValue_spaces fuel style.colon _ style.isSpace_colon] at hread
    obtain ⟨sources, hmore, hvalues⟩ := reads_fieldsChars style (next :: others) nofun fuel rest
      (by omega)
    refine ⟨(units, source) :: sources, ?_, fun room hroom => ?_⟩
    · simp only [Style.string, List.append_assoc, List.cons_append, List.nil_append]
      rw [Json.readFields_more fuel _ _ _ units source hkey hread,
        Json.readFields_spaces fuel style.comma _ style.isSpace_comma, hmore]
      rfl
    · rw [fieldsDepth] at hroom
      have hitem := hvalue room (by omega)
      have hrest := hvalues room (by omega)
      simp [Json.fieldsWithin?, htext, hitem, hrest, fieldsJson]

end

theorem exists_append_text (close : Char) (items : Items) :
    ∃ front, items.text close = front ++ [close] := by
  match items with
  | .done gap => exact ⟨gap.val, rfl⟩
  | .last front item back =>
    exact ⟨front.val ++ (item.text ++ back.val), by simp [Items.text]⟩
  | .more front item back others =>
    obtain ⟨most, hmost⟩ := exists_append_text close others
    exact ⟨front.val ++ (item.text ++ (back.val ++ ',' :: most)), by simp [Items.text, hmost]⟩

theorem exists_append_itemsChars (style : Style) (items : List Value) :
    ∃ front, itemsChars style items = front ++ [']'] := by
  match items with
  | [] => exact ⟨[], rfl⟩
  | [item] => exact ⟨item.jsonChars style, by rw [itemsChars]⟩
  | item :: next :: others =>
    obtain ⟨most, hmost⟩ := exists_append_itemsChars style (next :: others)
    exact ⟨item.jsonChars style ++ ',' :: (style.comma ++ most),
      by simp [itemsChars_more, hmost]⟩

/-- Nothing is trimmed off a text in brackets, so that whether it is JSON decides its notation. A
bracket at each end also rules out that the column counts as empty. -/
theorem ofColumn_of_brackets (front : List Char) (text : String)
    (htext : text.toList = '[' :: (front ++ [']'])) :
    (Json.parse? text = Option.none → Stored.ofColumn (some text) = .legacy text) ∧
      ∀ items, Json.parse? text = some (.array items) →
        Stored.ofColumn (some text) = .structured items := by
  have htrimmed : Text.trimmed text = text := by
    have hends : Text.IsTrimmed text.toList := by
      rw [htext, ← List.cons_append]
      refine ⟨fun c hc => ?_, fun c hc => ?_⟩
      · cases hc
        decide
      · rw [List.getLast?_concat] at hc
        cases hc
        decide
    rw [Text.trimmed, Text.trim_of_isTrimmed text.toList hends, String.ofList_toList]
  have hnonempty : text.isEmpty = false := by
    rw [Bool.eq_false_iff, Ne, String.isEmpty_iff, ← String.toList_inj, htext]
    nofun
  constructor
  · intro hparsed
    simp only [Stored.ofColumn, Option.map_some, htrimmed, hnonempty, hparsed, Bool.false_eq_true,
      if_false]
  · intro items hparsed
    simp only [Stored.ofColumn, Option.map_some, htrimmed, hnonempty, hparsed, Bool.false_eq_true,
      if_false]

/-- A list that was stored in JSON. -/
theorem items_jsonText (style : Style) (items : List Value) (h : (list items).depth ≤ 64) :
    (Stored.ofColumn (some ((list items).jsonText style))).items = itemsJson items := by
  have hchars : ((list items).jsonText style).toList = (list items).jsonChars style :=
    String.toList_ofList
  obtain ⟨front, hfront⟩ := exists_append_itemsChars style items
  have hbrackets : ((list items).jsonText style).toList = '[' :: (front ++ [']']) := by
    rw [hchars, jsonChars, hfront]
  obtain ⟨source, hread, hvalue⟩ := reads_jsonChars style (list items)
    (2 * ((list items).jsonChars style).length + 2) [] (by omega) nofun
  rw [List.append_nil] at hread
  have hparsed : Json.parse? ((list items).jsonText style) = some (.array (itemsJson items)) := by
    have hsource : Json.Source.read ((list items).jsonChars style) = some source := by
      rw [Json.Source.read, hread]
      rfl
    rw [Json.parse?, hchars, Json.read?, hsource, Option.bind_some, Json.Source.value?,
      hvalue _ (Nat.le_trans h (by decide)), json]
  rw [(ofColumn_of_brackets front _ hbrackets).2 _ hparsed, Stored.items]

/-- A list that was stored as a literal, whether or not that is JSON too. Where it is, a reader
of JSON finds the same items in it, so it makes no difference which notation the column is taken
for. -/
theorem items_literalText (printable : Char → Bool) (items : List Value)
    (h : (list items).depth ≤ 64) :
    (Stored.ofColumn (some ((list items).literalText printable))).items = itemsJson items := by
  let f := (list items).form printable
  have hchars : ((list items).literalText printable).toList = f.text := String.toList_ofList
  obtain ⟨front, hfront⟩ := exists_append_text ']' (itemsForm printable noBlanks items)
  have hbrackets : ((list items).literalText printable).toList = '[' :: (front ++ [']']) := by
    rw [hchars, ← hfront]
    rfl
  obtain ⟨hlegacy, hstructured⟩ := ofColumn_of_brackets front _ hbrackets
  obtain ⟨hvalue, hdepth⟩ := form_means printable (list items)
  rw [json] at hvalue
  cases hparsed : Json.parse? ((list items).literalText printable) with
  | none =>
    have hread := Literal.read_form f noBlanks noBlanks (by rw [hdepth]; exact h)
    rw [hvalue, show noBlanks.val = [] from rfl, List.nil_append, List.append_nil] at hread
    rw [hlegacy hparsed, Stored.items, hchars, hread]
  | some v =>
    have hv : v = f.value := by
      rw [Json.parse?, hchars] at hparsed
      exact Literal.value_of_parse f v hparsed
    rw [hv, hvalue] at hparsed
    rw [hstructured _ hparsed, Stored.items]

/-- The candidates of a list are the same in either notation: however its strings are quoted and
which characters its writer escapes, the literal means what any JSON for the list means. -/
theorem decodeColumn_literalText (printable : Char → Bool) (style : Style) (items : List Value)
    (h : (list items).depth ≤ 64) :
    decodeColumn (some ((list items).literalText printable)) =
      decodeColumn (some ((list items).jsonText style)) := by
  rw [decodeColumn, Stored.candidates, items_literalText printable items h, decodeColumn,
    Stored.candidates, items_jsonText style items h]

/-- A row with quotes and a tuple, which is no JSON, and beside it one that is. -/
def filmRow : List Value :=
  [.tuple [.string .single "en:hi", .string .double "/films/it's.srt", .int ⟨1024, by decide⟩],
    .list [.string .double "fr", .string .double "/films/l'été.srt"]]

theorem decodeColumn_literalText_filmRow :
    (list filmRow).depth ≤ 64 ∧
      (list filmRow).literalText (fun _ => true) =
        "[('en:hi', \"/films/it's.srt\", 1024), [\"fr\", \"/films/l'été.srt\"]]" ∧
      decodeColumn (some ((list filmRow).literalText fun _ => true)) =
        decodeColumn (some ((list filmRow).jsonText .compact)) :=
  ⟨by decide +kernel, by decide +kernel,
    decodeColumn_literalText (fun _ => true) .compact filmRow (by decide +kernel)⟩

/-- What stands in a row of one list of two strings is JSON as it is, and is read as that. -/
example :
    (list (filmRow.drop 1)).literalText (fun _ => true) = "[[\"fr\", \"/films/l'été.srt\"]]" ∧
      (list (filmRow.drop 1)).jsonText .compact = "[[\"fr\",\"/films/l'été.srt\"]]" := by
  decide +kernel

end Value

end Subtitling.Catalog
