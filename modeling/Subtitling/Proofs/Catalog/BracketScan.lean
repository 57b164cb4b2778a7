import Subtitling.Proofs.Catalog.LiteralForms

/-!
How deep the brackets of a text nest. A scan goes over the characters of any text, a literal or
not, and counts the brackets that are open; brackets in strings do not count. On the text of a
literal the most that it counts is how deep the literal itself is nested.
-/

namespace Subtitling.Catalog.Literal

/-- Where a scan stands: outside strings, in a string with such a quote, or behind a backslash in
it. -/
inductive Place
  | outside
  | inside (quote : Char)
  | escaped (quote : Char)
deriving DecidableEq

structure Scan where
  place : Place
  opened : Nat
  deepest : Nat
deriving DecidableEq

def openers : List Char := ['[', '(', '\x7b']

namespace Scan

def start : Scan := ⟨.outside, 0, 0⟩

def step (s : Scan) (x : Char) : Scan :=
  match s.place with
  | .outside =>
    if isQuote x then { s with place := .inside x }
    else if x ∈ openers then ⟨.outside, s.opened + 1, max s.deepest (s.opened + 1)⟩
    else if x ∈ closers then { s with opened := s.opened - 1 }
    else s
  | .inside quote =>
    if x = quote then { s with place := .outside }
    else if x = '\\' then { s with place := .escaped quote }
    else s
  | .escaped quote => { s with place := .inside quote }

end Scan

/-- The most brackets that are open at once, strings left out. -/
def nesting (cs : List Char) : Nat := (cs.foldl Scan.step .start).deepest

section

variable (x : Char) (opened deepest : Nat)

theorem step_quote (hx : isQuote x = true) :
    Scan.step ⟨.outside, opened, deepest⟩ x = ⟨.inside x, opened, deepest⟩ := by
  simp [Scan.step, hx]

theorem step_opener (hx : x ∈ openers) :
    Scan.step ⟨.outside, opened, deepest⟩ x = ⟨.outside, opened + 1, max deepest (opened + 1)⟩ := by
  simp only [openers, List.mem_cons, List.not_mem_nil, or_false] at hx
  rcases hx with rfl | rfl | rfl <;> rfl

theorem step_closer (hx : x ∈ closers) :
    Scan.step ⟨.outside, opened + 1, deepest⟩ x = ⟨.outside, opened, deepest⟩ := by
  rcases closer_cases x hx with rfl | rfl | rfl <;> rfl

theorem step_backslash (quote : Char) (hquote : isQuote quote = true) :
    Scan.step ⟨.inside quote, opened, deepest⟩ '\\' = ⟨.escaped quote, opened, deepest⟩ := by
  have hne : '\\' ≠ quote := by
    rintro rfl
    exact absurd hquote (by decide)
  simp [Scan.step, hne]

end

def marks : List Char := ['\x27', '"'] ++ openers ++ closers

/-- Whether a character means nothing to a scan in a place. -/
def Place.Ignores : Place → Char → Prop
  | .outside, x => x ∉ marks
  | .inside quote, x => x ≠ quote ∧ x ≠ '\\'
  | .escaped _, _ => False

theorem step_of_ignored (place : Place) (x : Char) (hx : place.Ignores x) (opened deepest : Nat) :
    Scan.step ⟨place, opened, deepest⟩ x = ⟨place, opened, deepest⟩ := by
  cases place with
  | outside =>
    simp only [Place.Ignores, marks, List.mem_append, List.mem_cons, List.not_mem_nil, or_false,
      not_or] at hx
    obtain ⟨⟨⟨hsingle, hdouble⟩, hopener⟩, hcloser⟩ := hx
    simp [Scan.step, isQuote, hsingle, hdouble, hopener, hcloser]
  | inside quote => simp [Scan.step, hx.1, hx.2]
  | escaped quote => exact hx.elim

theorem foldl_step_of_ignored (place : Place) (cs : List Char) (h : ∀ x ∈ cs, place.Ignores x)
    (opened deepest : Nat) :
    cs.foldl Scan.step ⟨place, opened, deepest⟩ = ⟨place, opened, deepest⟩ := by
  induction cs with
  | nil => rfl
  | cons x rest ih =>
    rw [List.foldl_cons, step_of_ignored place x (h x (by simp))]
    exact ih fun y hy => h y (by simp [hy])

/-- A class of characters without marks is ignored outside strings. -/
theorem ignores_of_class (p : Char → Bool) (hp : (marks.all fun x => !p x) = true) (x : Char)
    (hx : p x = true) : Place.outside.Ignores x := by
  intro hmark
  have hother := List.all_eq_true.mp hp x hmark
  rw [hx] at hother
  cases hother

theorem ignores_of_isBlank (x : Char) (hx : Text.isBlank x = true) : Place.outside.Ignores x :=
  ignores_of_class Text.isBlank rfl x hx

theorem ignores_of_isNumberChar (x : Char) (hx : isNumberChar x = true) : Place.outside.Ignores x :=
  ignores_of_class isNumberChar rfl x hx

theorem ignores_of_isWordChar (x : Char) (hx : isWordChar x = true) : Place.outside.Ignores x :=
  ignores_of_class isWordChar rfl x hx

/-- The digits of an escape are ignored in a string. -/
theorem ignores_of_digit (quote : Char) (hquote : isQuote quote = true) (x : Char)
    (hx : x = '+' ∨ (Text.hexValue? x).isSome) : (Place.inside quote).Ignores x := by
  have hdigit : x ∉ ['\x27', '"', '\\'] := by
    intro hmem
    have hother : (['\x27', '"', '\\'].all fun y => y != '+' && (Text.hexValue? y).isNone) = true :=
      rfl
    have hx' := List.all_eq_true.mp hother x hmem
    rcases hx with rfl | hsome
    · cases hx'
    · simp [Option.isNone_iff_eq_none, Option.ne_none_iff_isSome.mpr hsome] at hx'
  have hquote : quote = '\x27' ∨ quote = '"' := by simpa [isQuote] using hquote
  refine ⟨?_, fun hslash => hdigit (by simp [hslash])⟩
  rintro rfl
  exact hdigit (by rcases hquote with rfl | rfl <;> decide)

theorem foldl_step_glyph (g : Glyph) (quote : Quote) (hfits : g.Fits quote) (opened deepest : Nat) :
    g.text.foldl Scan.step ⟨.inside quote.char, opened, deepest⟩ =
      ⟨.inside quote.char, opened, deepest⟩ := by
  have hslash := step_backslash opened deepest quote.char quote.isQuote_char
  cases g with
  | plain c =>
    refine foldl_step_of_ignored (.inside quote.char) [c] (fun x hx => ?_) opened deepest
    rw [List.mem_singleton.mp hx]
    exact hfits
  | slashed c => rw [Glyph.text, List.foldl_cons, hslash]; rfl
  | named letter c => rw [Glyph.text, List.foldl_cons, hslash]; rfl
  | coded width digits c =>
    rw [Glyph.text, List.foldl_cons, hslash]
    refine foldl_step_of_ignored _ digits (fun x hx => ?_) opened deepest
    exact ignores_of_digit _ quote.isQuote_char x
      (.inr (Text.isSome_of_foldl_hexValue digits 0 c.toNat hfits.2 x hx))

/-- A text that opens as many brackets as it closes, and has so many open at once. -/
def Spans (cs : List Char) (depth : Nat) : Prop :=
  ∀ opened deepest, opened ≤ deepest →
    cs.foldl Scan.step ⟨.outside, opened, deepest⟩ =
      ⟨.outside, opened, max deepest (opened + depth)⟩

/-- A text that closes one bracket more than it opens, and opens so many at once. -/
def Closes (cs : List Char) (depth : Nat) : Prop :=
  ∀ opened deepest, opened < deepest →
    cs.foldl Scan.step ⟨.outside, opened + 1, deepest⟩ =
      ⟨.outside, opened, max deepest (opened + 1 + depth)⟩

theorem spans_of_ignored (cs : List Char) (h : ∀ x ∈ cs, Place.outside.Ignores x) : Spans cs 0 := by
  intro opened deepest hdeepest
  rw [foldl_step_of_ignored .outside cs h, Nat.add_zero, Nat.max_eq_left hdeepest]

theorem spans_blanks (gap : Blanks) : Spans gap.val 0 :=
  spans_of_ignored gap.val fun x hx => ignores_of_isBlank x (gap.property x hx)

theorem Spans.append {cs more : List Char} {depth deeper : Nat} (h : Spans cs depth)
    (hmore : Spans more deeper) : Spans (cs ++ more) (max depth deeper) := by
  intro opened deepest hdeepest
  rw [List.foldl_append, h opened deepest hdeepest, hmore opened _ (by omega)]
  congr 1
  omega

theorem Spans.closes {cs more : List Char} {depth deeper : Nat} (h : Spans cs depth)
    (hmore : Closes more deeper) : Closes (cs ++ more) (max depth deeper) := by
  intro opened deepest hdeepest
  rw [List.foldl_append, h (opened + 1) deepest hdeepest, hmore opened _ (by omega)]
  congr 1
  omega

theorem closes_closer (x : Char) (hx : x ∈ closers) : Closes [x] 0 := by
  intro opened deepest hdeepest
  rw [List.foldl_cons, step_closer x opened deepest hx, List.foldl_nil, Nat.add_zero,
    Nat.max_eq_left hdeepest]

theorem Closes.spans {cs : List Char} {depth : Nat} (h : Closes cs depth) (x : Char)
    (hx : x ∈ openers) : Spans (x :: cs) (depth + 1) := by
  intro opened deepest hdeepest
  rw [List.foldl_cons, step_opener x opened deepest hx, h opened _ (by omega)]
  congr 1
  omega

/-- A string between its quotes changes no count of brackets. Inside it the scan is in another
place, which the closing quote alone leads out of, as any quote within is escaped. -/
theorem spans_quoted (q : Quoted) : Spans q.text 0 := by
  have hmark : ∀ x ∈ q.mark, Place.outside.Ignores x := by
    intro x hx
    exact ignores_of_isWordChar x (by
      rw [Quoted.mark] at hx
      split at hx
      · rw [List.mem_singleton.mp hx]
        decide
      · cases hx)
  have hglyphs (glyphs : List Glyph) (hfits : ∀ g ∈ glyphs, g.Fits q.quote) (opened deepest : Nat) :
      (glyphs.flatMap Glyph.text).foldl Scan.step ⟨.inside q.quote.char, opened, deepest⟩ =
        ⟨.inside q.quote.char, opened, deepest⟩ := by
    induction glyphs with
    | nil => rfl
    | cons g rest ih =>
      rw [List.flatMap_cons, List.foldl_append, foldl_step_glyph g q.quote (hfits g (by simp))]
      exact ih fun h hh => hfits h (by simp [hh])
  intro opened deepest hdeepest
  rw [Quoted.text, List.foldl_append, foldl_step_of_ignored .outside q.mark hmark, List.foldl_cons,
    step_quote _ _ _ q.quote.isQuote_char, List.foldl_append, hglyphs q.glyphs q.fits,
    Nat.add_zero, Nat.max_eq_left hdeepest]
  simp [Scan.step]

theorem Closes.after_blanks {cs : List Char} {depth : Nat} (gap : Blanks) (h : Closes cs depth) :
    Closes (gap.val ++ cs) depth := by
  simpa using (spans_blanks gap).closes h

theorem Closes.after_separator {cs : List Char} {depth : Nat} (x : Char) (hx : x ∉ marks)
    (h : Closes cs depth) : Closes (x :: cs) depth := by
  have hspans : Spans [x] 0 := spans_of_ignored [x] fun y hy => by rwa [List.mem_singleton.mp hy]
  simpa using hspans.closes h

theorem Key.closes (k : Key) {rest : List Char} {depth : Nat} (h : Closes rest depth) :
    Closes (k.text rest) depth := by
  have hcolon := (h.after_separator ':' (by decide)).after_blanks k.back
  have hname := (spans_quoted k.name).closes hcolon
  rw [Nat.zero_max] at hname
  exact hname.after_blanks k.front

mutual

/-- A form has as many brackets open at once as it is nested deep. -/
theorem Form.spans (f : Form) : Spans f.text f.depth := by
  cases f with
  | none =>
    have hword : ['N', 'o', 'n', 'e'].all isWordChar = true := rfl
    exact spans_of_ignored _ fun x hx => ignores_of_isWordChar x (List.all_eq_true.mp hword x hx)
  | bool b =>
    have hword : (Form.bool b).text.all isWordChar = true := by cases b <;> rfl
    exact spans_of_ignored _ fun x hx => ignores_of_isWordChar x (List.all_eq_true.mp hword x hx)
  | int n =>
    exact spans_of_ignored _ fun x hx =>
      ignores_of_isNumberChar x (isNumberChar_of_mem_intChars n.val x hx)
  | string q => exact spans_quoted q
  | list items => exact (items.closes ']' (by decide)).spans '[' (by decide)
  | tuple items => exact (items.closes ')' (by decide)).spans '(' (by decide)
  | dict fields => exact fields.closes.spans '\x7b' (by decide)

theorem Items.closes (is : Items) (close : Char) (hclose : close ∈ closers) :
    Closes (is.text close) is.depth := by
  have hend := closes_closer close hclose
  cases is with
  | done gap => exact hend.after_blanks gap
  | last front item back =>
    have hitem := item.spans.closes (hend.after_blanks back)
    rw [Nat.max_zero] at hitem
    exact hitem.after_blanks front
  | more front item back rest =>
    have hrest := (rest.closes close hclose).after_separator ',' (by decide)
    exact (item.spans.closes (hrest.after_blanks back)).after_blanks front

theorem Fields.closes (fs : Fields) : Closes fs.text fs.depth := by
  have hend := closes_closer '\x7d' (by decide)
  cases fs with
  | done gap => exact hend.after_blanks gap
  | last key front item back =>
    have hitem := item.spans.closes (hend.after_blanks back)
    rw [Nat.max_zero] at hitem
    exact key.closes (hitem.after_blanks front)
  | more key front item back rest =>
    have hrest := rest.closes.after_separator ',' (by decide)
    exact key.closes ((item.spans.closes (hrest.after_blanks back)).after_blanks front)

end

/-- A form with blanks around it nests as deep as the form. -/
theorem nesting_form (f : Form) (front back : Blanks) :
    nesting (front.val ++ (f.text ++ back.val)) = f.depth := by
  have hspans := (spans_blanks front).append (f.spans.append (spans_blanks back))
  rw [nesting, Scan.start, hspans 0 0 (Nat.le_refl 0)]
  simp

end Subtitling.Catalog.Literal
