import Mathlib.Data.List.Basic
import Subtitling.Proofs.Catalog.LiteralForms
import Subtitling.Proofs.Json.Reading

/-!
Literals that are JSON by chance. A list of numbers, or of strings between double quotes, reads
as either, and the two notations have escapes in common. Whatever a literal looks like, a reader
of JSON either refuses its text or finds the same value in it.
-/

namespace Subtitling.Catalog.Literal

theorem isBlank_of_isSpace (c : Char) (h : Json.isSpace c = true) : Text.isBlank c = true := by
  simp only [Json.isSpace, Bool.or_eq_true, decide_eq_true_eq] at h
  rcases h with ((rfl | rfl) | rfl) | rfl <;> decide

theorem not_isSpace_of_not_isBlank (c : Char) (h : Text.isBlank c = false) :
    Json.isSpace c = false := by
  cases hspace : Json.isSpace c with
  | false => rfl
  | true =>
    rw [isBlank_of_isSpace c hspace] at h
    cases h

/-- Blanks that JSON does not know hide what is behind them. If JSON comes to a character behind
the blanks that is none of them itself, it is the one that stands there. -/
theorem skipSpace_blanks (front : Blanks) (x y : Char) (more rest : List Char)
    (hx : Text.isBlank x = false) (hy : Text.isBlank y = false)
    (h : Json.skipSpace (front.val ++ y :: rest) = x :: more) : x = y ∧ more = rest := by
  obtain ⟨cs, hcs⟩ := front
  induction cs with
  | nil =>
    rw [List.nil_append, Json.skipSpace_cons_of_not y rest (not_isSpace_of_not_isBlank y hy)] at h
    obtain ⟨rfl, rfl⟩ := List.cons.inj h
    exact ⟨rfl, rfl⟩
  | cons c cs ih =>
    rw [List.cons_append] at h
    cases hspace : Json.isSpace c with
    | true =>
      rw [Json.skipSpace_cons_of_space c _ hspace] at h
      exact ih (fun d hd => hcs d (by simp [hd])) h
    | false =>
      rw [Json.skipSpace_cons_of_not c _ hspace] at h
      obtain ⟨rfl, -⟩ := List.cons.inj h
      rw [hcs c (by simp)] at hx
      cases hx

/-- Blanks before a value make no difference to what JSON reads there, as long as it reads
anything: a blank that only literals know lets it fail. -/
theorem readValue_blanks (fuel : Nat) (front : Blanks) (rest : List Char)
    (result : Json.Source × List Char) (h : Json.readValue fuel (front.val ++ rest) = some result) :
    Json.readValue fuel rest = some result := by
  obtain ⟨cs, hcs⟩ := front
  induction cs with
  | nil => exact h
  | cons c cs ih =>
    apply ih fun d hd => hcs d (by simp [hd])
    cases hspace : Json.isSpace c with
    | true =>
      rw [← Json.readValue_skipSpace, List.cons_append, Json.skipSpace_cons_of_space c _ hspace,
        Json.readValue_skipSpace] at h
      exact h
    | false =>
      have hall : ∀ n ∈ Text.blankPoints, Char.ofNat n ∉ Json.starters ∧
          Json.isDigit (Char.ofNat n) = false := by decide
      have hc := hall c.toNat (Text.toNat_mem_blankPoints c (hcs c (by simp)))
      rw [Char.ofNat_toNat] at hc
      rw [List.cons_append, Json.readValue_other fuel c _ hc.1 hc.2 hspace] at h
      cases h

theorem readString_escaped (e c : Char) (rest later : List Char) (units : List Nat) (he : e ≠ 'u')
    (hescape : Json.simpleEscape? e = none ∨ Json.simpleEscape? e = some c)
    (h : Json.readString ('\\' :: e :: rest) = some (units, later)) :
    ∃ others, Json.readString rest = some (others, later) ∧ units = c.toNat :: others := by
  rw [Json.readString_slash e rest he] at h
  rcases hescape with hnone | hsome
  · rw [hnone] at h
    cases h
  · rw [hsome, Option.bind_some] at h
    obtain ⟨⟨others, behind⟩, hothers, h⟩ := Option.map_eq_some_iff.mp h
    cases h
    exact ⟨others, hothers, rfl⟩

/-- A character that JSON reads is read as the same one, however it is written. JSON knows no
escapes of two or of eight digits, and those of four it reads alike; what it cannot read is ruled
out by the hypothesis. -/
theorem readString_glyph (g : Glyph) (hfits : g.Fits .double) (rest later : List Char)
    (units : List Nat) (h : Json.readString (g.text ++ rest) = some (units, later)) :
    ∃ others, Json.readString rest = some (others, later) ∧ units = g.char.toNat :: others := by
  cases g with
  | plain c =>
    rw [Glyph.text, List.singleton_append, Json.readString_plain c rest hfits.1 hfits.2] at h
    split at h
    · cases h
    · obtain ⟨⟨others, behind⟩, hothers, h⟩ := Option.map_eq_some_iff.mp h
      cases h
      exact ⟨others, hothers, rfl⟩
  | slashed c =>
    have hc : c = '\\' ∨ c = '\x27' ∨ c = '"' := by simpa [Glyph.Fits, isQuote] using hfits
    rcases hc with rfl | rfl | rfl
    · exact readString_escaped _ _ rest later units (by decide) (by decide) h
    · exact readString_escaped _ _ rest later units (by decide) (by decide) h
    · exact readString_escaped _ _ rest later units (by decide) (by decide) h
  | named letter c =>
    simp only [Glyph.Fits, namedChars, List.mem_cons, Prod.mk.injEq, List.not_mem_nil,
      or_false] at hfits
    rcases hfits with ⟨rfl, rfl⟩ | ⟨rfl, rfl⟩ | ⟨rfl, rfl⟩ | ⟨rfl, rfl⟩
    · exact readString_escaped _ _ rest later units (by decide) (by decide) h
    · exact readString_escaped _ _ rest later units (by decide) (by decide) h
    · exact readString_escaped _ _ rest later units (by decide) (by decide) h
    · exact readString_escaped _ _ rest later units (by decide) (by decide) h
  | coded width digits c =>
    obtain ⟨hlength, hcode⟩ := hfits
    cases width with
    | two =>
      have hnone : Json.readString ('\\' :: 'x' :: (digits ++ rest)) = none := by
        rw [Json.readString_slash 'x' _ (by decide)]
        rfl
      exact absurd (hnone.symm.trans h) (by simp)
    | four =>
      obtain ⟨a, b, d, e, rfl⟩ := List.length_eq_four.mp hlength
      have hunit := (Json.readString_unit a b d e rest).symm.trans h
      rw [Json.hexUnit_eq, hcode, Option.bind_some] at hunit
      obtain ⟨⟨others, behind⟩, hothers, hunit⟩ := Option.map_eq_some_iff.mp hunit
      cases hunit
      exact ⟨others, hothers, rfl⟩
    | eight =>
      have hnone : Json.readString ('\\' :: 'U' :: (digits ++ rest)) = none := by
        rw [Json.readString_slash 'U' _ (by decide)]
        rfl
      exact absurd (hnone.symm.trans h) (by simp)

/-- Glyphs that a reader of JSON can read stand for the same characters in both notations: the
escapes that both know are written alike. -/
theorem readString_glyphs (glyphs : List Glyph) (hfits : ∀ g ∈ glyphs, g.Fits .double)
    (rest later : List Char) (units : List Nat)
    (h : Json.readString (glyphs.flatMap Glyph.text ++ '"' :: rest) = some (units, later)) :
    later = rest ∧ ∀ cs, Json.text? units = some cs → cs = glyphs.map Glyph.char := by
  induction glyphs generalizing units with
  | nil =>
    rw [List.flatMap_nil, List.nil_append, Json.readString_quote] at h
    cases h
    exact ⟨rfl, fun cs hcs => (Option.some.inj hcs).symm⟩
  | cons g more ih =>
    rw [List.flatMap_cons, List.append_assoc] at h
    obtain ⟨others, hothers, rfl⟩ := readString_glyph g (hfits g (by simp)) _ later units h
    obtain ⟨hlater, htext⟩ := ih (fun d hd => hfits d (by simp [hd])) others hothers
    refine ⟨hlater, ?_⟩
    intro cs hcs
    rw [Json.text_cons] at hcs
    obtain ⟨tail, htail, rfl⟩ := Option.map_eq_some_iff.mp hcs
    rw [htext tail htail, List.map_cons]

/-- A string starts as one of JSON only where it has no mark and double quotes. -/
theorem Quoted.text_append (q : Quoted) (rest : List Char) :
    (q.quote = .double ∧ q.text ++ rest = '"' :: (q.glyphs.flatMap Glyph.text ++ '"' :: rest)) ∨
      ∃ x more, q.text ++ rest = x :: more ∧ (x = 'u' ∨ x = '\x27') := by
  obtain ⟨marked, quote, glyphs, fits⟩ := q
  cases marked with
  | true => exact .inr ⟨'u', _, rfl, .inl rfl⟩
  | false =>
    cases quote with
    | single => exact .inr ⟨'\x27', _, rfl, .inr rfl⟩
    | double => exact .inl ⟨rfl, by simp [Quoted.text, Quoted.mark, Quote.char]⟩

/-- Behind an opening bracket the closing one comes next only where there are no items. -/
theorem Items.values_of_closed (is : Items) (close : Char) (hclose : close ∈ closers)
    (rest later : List Char) (h : Json.skipSpace (is.text close ++ rest) = close :: later) :
    later = rest ∧ is.values = [] := by
  have hblank := not_isBlank_of_closer close hclose
  have hitem (front : Blanks) (item : Form) (behind : List Char)
      (h : Json.skipSpace (front.val ++ (item.text ++ behind)) = close :: later) : False := by
    obtain ⟨x, more, htext, hx, hne⟩ := item.exists_cons
    rw [htext, List.cons_append] at h
    obtain ⟨rfl, -⟩ := skipSpace_blanks front close x later _ hblank hx h
    exact hne hclose
  cases is with
  | done gap =>
    rw [Items.text, List.append_assoc, List.singleton_append] at h
    exact ⟨(skipSpace_blanks gap close close later rest hblank hblank h).2, rfl⟩
  | last front item back =>
    simp only [Items.text, List.append_assoc] at h
    exact (hitem front item _ h).elim
  | more front item back others =>
    simp only [Items.text, List.append_assoc] at h
    exact (hitem front item _ h).elim

theorem Fields.values_of_closed (fs : Fields) (rest later : List Char)
    (h : Json.skipSpace (fs.text ++ rest) = '\x7d' :: later) : later = rest ∧ fs.values = [] := by
  have hfield (key : Key) (behind : List Char)
      (h : Json.skipSpace (key.text behind) = '\x7d' :: later) : False := by
    obtain ⟨x, more, htext, hx, hne⟩ := key.name.exists_cons
    rw [Key.text, htext, List.cons_append] at h
    obtain ⟨rfl, -⟩ := skipSpace_blanks key.front '\x7d' x later _ (by decide) hx h
    exact hne (by decide)
  cases fs with
  | done gap =>
    rw [Fields.text, List.append_assoc, List.singleton_append] at h
    exact ⟨(skipSpace_blanks gap '\x7d' '\x7d' later rest (by decide) (by decide) h).2, rfl⟩
  | last key front item back =>
    rw [Fields.text, Key.text_append] at h
    exact (hfield key _ h).elim
  | more key front item back others =>
    rw [Fields.text, Key.text_append] at h
    exact (hfield key _ h).elim

theorem readValue_closer (fuel : Nat) (close : Char) (hclose : close ∈ closers) (rest : List Char) :
    Json.readValue fuel (close :: rest) = none := by
  obtain ⟨hstart, hdigit, hspace⟩ : close ∉ Json.starters ∧ Json.isDigit close = false ∧
      Json.isSpace close = false := by
    rcases closer_cases close hclose with rfl | rfl | rfl <;> decide
  exact Json.readValue_other fuel close rest hstart hdigit hspace

theorem Stops.endsNumber (rest : List Char) (h : Stops rest) : Json.EndsNumber rest := by
  intro c hc
  have hnumber := (h c hc).1
  simp only [isNumberChar, Bool.or_eq_false_iff, decide_eq_false_iff_not] at hnumber
  rw [Json.isDigit_eq]
  exact ⟨hnumber.1.1.1.1.1, hnumber.1.1.2, hnumber.1.2, hnumber.2⟩

/-- A key that is read is the one that was written, up to its colon. A key that is no string, or
one in single quotes, is not read at all. -/
theorem Key.name_of_json (k : Key) (rest front behind after : List Char) (units : List Nat)
    (hfront : Json.skipSpace (k.text rest) = '"' :: front)
    (hunits : Json.readString front = some (units, behind))
    (hafter : Json.skipSpace behind = ':' :: after) :
    after = rest ∧ ∀ cs, Json.text? units = some cs → String.ofList cs = k.name.value := by
  obtain ⟨x, more, htext, hx, -⟩ := k.name.exists_cons
  have hquote : k.name.text ++ (k.back.val ++ ':' :: rest) = '"' :: front := by
    rw [Key.text, htext, List.cons_append] at hfront
    obtain ⟨rfl, rfl⟩ := skipSpace_blanks k.front '"' x front _ (by decide) hx hfront
    rw [htext, List.cons_append]
  rcases k.name.text_append (k.back.val ++ ':' :: rest) with ⟨hdouble, heq⟩ | ⟨y, others, heq, hy⟩
  · rw [hquote] at heq
    obtain ⟨-, rfl⟩ := List.cons.inj heq
    obtain ⟨rfl, hchars⟩ :=
      readString_glyphs k.name.glyphs (hdouble ▸ k.name.fits) _ behind units hunits
    refine ⟨(skipSpace_blanks k.back ':' ':' after rest (by decide) (by decide) hafter).2, ?_⟩
    intro cs hcs
    rw [hchars cs hcs]
    rfl
  · rw [hquote] at heq
    obtain ⟨rfl, -⟩ := List.cons.inj heq
    exact absurd hy (by decide)

section

variable (fuel : Nat) (rest later : List Char) (source : Json.Source)

theorem Form.int_of_json (n : Word) (hrest : Stops rest)
    (h : Json.readValue fuel ((Form.int n).text ++ rest) = some (source, later)) :
    later = rest ∧ ∀ depth v, source.valueWithin? depth = some v → v = (Form.int n).value := by
  cases fuel with
  | zero => simp [Json.readValue] at h
  | succ fuel =>
    obtain ⟨text, hread, hvalue⟩ := Json.readValue_intChars fuel n.val rest n.property.1
      n.property.2 hrest.endsNumber
    rw [Form.text, hread] at h
    cases h
    refine ⟨rfl, ?_⟩
    intro depth v hv
    rw [Json.Source.valueWithin?, hvalue] at hv
    exact (Option.some.inj hv).symm

/-- A string that JSON can read is between double quotes without a word before them, and each of
its escapes means the same in both notations. -/
theorem Form.string_of_json (q : Quoted)
    (h : Json.readValue fuel ((Form.string q).text ++ rest) = some (source, later)) :
    later = rest ∧ ∀ depth v, source.valueWithin? depth = some v → v = (Form.string q).value := by
  rcases q.text_append rest with ⟨hdouble, htext⟩ | ⟨x, more, htext, hx⟩
  · cases fuel with
    | zero => simp [Json.readValue] at h
    | succ fuel =>
      rw [Form.text, htext, Json.readValue_quote] at h
      obtain ⟨⟨units, behind⟩, hunits, h⟩ := Option.map_eq_some_iff.mp h
      cases h
      obtain ⟨hlater, hchars⟩ := readString_glyphs q.glyphs (hdouble ▸ q.fits) rest _ units hunits
      refine ⟨hlater, ?_⟩
      intro depth v hv
      rw [Json.Source.valueWithin?] at hv
      obtain ⟨cs, hcs, rfl⟩ := Option.map_eq_some_iff.mp hv
      rw [hchars cs hcs]
      rfl
  · have hnone : Json.readValue fuel (x :: more) = Option.none := by
      rcases hx with rfl | rfl <;>
        exact Json.readValue_other fuel _ more (by decide) (by decide) (by decide)
    rw [Form.text, htext, hnone] at h
    cases h

end

mutual

/-- A value that is read from the text of a form ends where the form does and has no meaning but
that of the form. -/
theorem Form.value_of_json (f : Form) (fuel : Nat) (rest later : List Char) (source : Json.Source)
    (hrest : Stops rest) (h : Json.readValue fuel (f.text ++ rest) = some (source, later)) :
    later = rest ∧ ∀ depth v, source.valueWithin? depth = some v → v = f.value := by
  have hother (x : Char) (more : List Char) (hx : x ∉ Json.starters)
      (hdigit : Json.isDigit x = false) (hspace : Json.isSpace x = false)
      (htext : f.text ++ rest = x :: more) : False := by
    rw [htext, Json.readValue_other fuel x more hx hdigit hspace] at h
    cases h
  cases f with
  | none => exact (hother 'N' _ (by decide) (by decide) (by decide) rfl).elim
  | bool b =>
    cases b with
    | true => exact (hother 'T' _ (by decide) (by decide) (by decide) rfl).elim
    | false => exact (hother 'F' _ (by decide) (by decide) (by decide) rfl).elim
  | int n => exact Form.int_of_json fuel rest later source n hrest h
  | string q => exact Form.string_of_json fuel rest later source q h
  | list items =>
    rw [Form.text, List.cons_append] at h
    rcases Json.readValue_bracket_eq_some fuel _ later source h with
      ⟨hclosed, rfl⟩ | ⟨n, sources, hitems, rfl⟩
    · obtain ⟨hlater, hnone⟩ := items.values_of_closed ']' (by decide) rest later hclosed
      refine ⟨hlater, ?_⟩
      intro depth v hv
      obtain ⟨vs, hvs, rfl⟩ := Json.valueWithin_array_eq_some depth [] v hv
      rw [Form.value, hnone, Option.some.inj hvs]
    · obtain ⟨hlater, hvalues⟩ := items.values_of_json n rest later sources hitems
      refine ⟨hlater, ?_⟩
      intro depth v hv
      obtain ⟨vs, hvs, rfl⟩ := Json.valueWithin_array_eq_some depth sources v hv
      rw [Form.value, hvalues _ vs hvs]
  | tuple items => exact (hother '(' _ (by decide) (by decide) (by decide) rfl).elim
  | dict fields =>
    rw [Form.text, List.cons_append] at h
    rcases Json.readValue_brace_eq_some fuel _ later source h with
      ⟨hclosed, rfl⟩ | ⟨n, sources, hfields, rfl⟩
    · obtain ⟨hlater, hnone⟩ := fields.values_of_closed rest later hclosed
      refine ⟨hlater, ?_⟩
      intro depth v hv
      obtain ⟨vs, hvs, rfl⟩ := Json.valueWithin_object_eq_some depth [] v hv
      rw [Form.value, hnone, Option.some.inj hvs]
    · obtain ⟨hlater, hvalues⟩ := fields.values_of_json n rest later sources hfields
      refine ⟨hlater, ?_⟩
      intro depth v hv
      obtain ⟨vs, hvs, rfl⟩ := Json.valueWithin_object_eq_some depth sources v hv
      rw [Form.value, hvalues _ vs hvs]

/-- If a reader of JSON makes anything of the items of a list, then it stops where they end and
its values are theirs. Where it makes nothing of them, as with single quotes, there is nothing to
show. -/
theorem Items.values_of_json (is : Items) (fuel : Nat) (rest later : List Char)
    (sources : List Json.Source)
    (h : Json.readItems fuel (is.text ']' ++ rest) = some (sources, later)) :
    later = rest ∧ ∀ depth vs, Json.itemsWithin? depth sources = some vs → vs = is.values := by
  obtain ⟨n, item, behind, hitem, hbehind⟩ := Json.readItems_eq_some fuel _ later sources h
  cases is with
  | done gap =>
    rw [Items.text, List.append_assoc, List.singleton_append] at hitem
    have hnone := readValue_blanks n gap _ _ hitem
    rw [readValue_closer n ']' (by decide)] at hnone
    cases hnone
  | last front f back =>
    simp only [Items.text, List.append_assoc, List.singleton_append] at hitem
    have hread := readValue_blanks n front _ _ hitem
    obtain ⟨rfl, hvalue⟩ :=
      f.value_of_json n _ behind item (stops_append back ']' rest (by decide)) hread
    rcases hbehind with ⟨more, others, hcomma, -⟩ | ⟨hclosed, rfl⟩
    · have hwrong := skipSpace_blanks back ',' ']' more rest (by decide) (by decide) hcomma
      exact absurd hwrong.1 (by decide)
    · refine ⟨(skipSpace_blanks back ']' ']' later rest (by decide) (by decide) hclosed).2, ?_⟩
      intro depth vs hvs
      obtain ⟨v, ws, hv, hws, rfl⟩ := Json.itemsWithin_cons_eq_some depth item [] vs hvs
      rw [hvalue depth v hv, Option.some.inj hws.symm]
      rfl
  | more front f back others =>
    simp only [Items.text, List.append_assoc, List.cons_append] at hitem
    have hread := readValue_blanks n front _ _ hitem
    obtain ⟨rfl, hvalue⟩ :=
      f.value_of_json n _ behind item (stops_append back ',' _ (by decide)) hread
    rcases hbehind with ⟨more, tail, hcomma, htail, rfl⟩ | ⟨hclosed, -⟩
    · obtain ⟨-, rfl⟩ := skipSpace_blanks back ',' ',' more _ (by decide) (by decide) hcomma
      obtain ⟨hlater, hvalues⟩ := others.values_of_json n rest later tail htail
      refine ⟨hlater, ?_⟩
      intro depth vs hvs
      obtain ⟨v, ws, hv, hws, rfl⟩ := Json.itemsWithin_cons_eq_some depth item tail vs hvs
      rw [hvalue depth v hv, hvalues depth ws hws]
      rfl
    · have hwrong := skipSpace_blanks back ']' ',' later _ (by decide) (by decide) hclosed
      exact absurd hwrong.1 (by decide)

/-- If a reader of JSON makes anything of the fields of a dict, then its values are theirs. It
takes only strings for keys, and such a key is the same text in both notations. -/
theorem Fields.values_of_json (fs : Fields) (fuel : Nat) (rest later : List Char)
    (sources : List (List Nat × Json.Source))
    (h : Json.readFields fuel (fs.text ++ rest) = some (sources, later)) :
    later = rest ∧ ∀ depth vs, Json.fieldsWithin? depth sources = some vs → vs = fs.values := by
  obtain ⟨n, front, name, behind, after, value, last, hfront, hname, hafter, hvalue, hlast⟩ :=
    Json.readFields_eq_some fuel _ later sources h
  cases fs with
  | done gap =>
    rw [Fields.text, List.append_assoc, List.singleton_append] at hfront
    have hwrong := skipSpace_blanks gap '"' '\x7d' front rest (by decide) (by decide) hfront
    exact absurd hwrong.1 (by decide)
  | last key gap f back =>
    rw [Fields.text, Key.text_append] at hfront
    obtain ⟨rfl, hkey⟩ := key.name_of_json _ front behind after name hfront hname hafter
    simp only [List.append_assoc, List.singleton_append] at hvalue
    have hread := readValue_blanks n gap _ _ hvalue
    obtain ⟨rfl, hmeaning⟩ :=
      f.value_of_json n _ last value (stops_append back '\x7d' rest (by decide)) hread
    rcases hlast with ⟨more, tail, hcomma, -⟩ | ⟨hclosed, rfl⟩
    · have hwrong := skipSpace_blanks back ',' '\x7d' more rest (by decide) (by decide) hcomma
      exact absurd hwrong.1 (by decide)
    · refine ⟨(skipSpace_blanks back '\x7d' '\x7d' later rest (by decide) (by decide) hclosed).2,
        ?_⟩
      intro depth vs hvs
      obtain ⟨cs, v, ws, hcs, hv, hws, rfl⟩ :=
        Json.fieldsWithin_cons_eq_some depth name value [] vs hvs
      rw [hkey cs hcs, hmeaning depth v hv, Option.some.inj hws.symm]
      rfl
  | more key gap f back others =>
    rw [Fields.text, Key.text_append] at hfront
    obtain ⟨rfl, hkey⟩ := key.name_of_json _ front behind after name hfront hname hafter
    simp only [List.append_assoc, List.cons_append] at hvalue
    have hread := readValue_blanks n gap _ _ hvalue
    obtain ⟨rfl, hmeaning⟩ :=
      f.value_of_json n _ last value (stops_append back ',' _ (by decide)) hread
    rcases hlast with ⟨more, tail, hcomma, htail, rfl⟩ | ⟨hclosed, -⟩
    · obtain ⟨-, rfl⟩ := skipSpace_blanks back ',' ',' more _ (by decide) (by decide) hcomma
      obtain ⟨hlater, hvalues⟩ := others.values_of_json n rest later tail htail
      refine ⟨hlater, ?_⟩
      intro depth vs hvs
      obtain ⟨cs, v, ws, hcs, hv, hws, rfl⟩ :=
        Json.fieldsWithin_cons_eq_some depth name value tail vs hvs
      rw [hkey cs hcs, hmeaning depth v hv, hvalues depth ws hws]
      rfl
    · have hwrong := skipSpace_blanks back '\x7d' ',' later _ (by decide) (by decide) hclosed
      exact absurd hwrong.1 (by decide)

end

/-- Where the text of a form is JSON, it is JSON for the value of the form. -/
theorem value_of_parse (f : Form) (v : Json)
    (h : Json.read? f.text = some v) : v = f.value := by
  obtain ⟨source, hsource, hv⟩ := Option.bind_eq_some_iff.mp h
  rw [Json.Source.read] at hsource
  obtain ⟨⟨found, later⟩, hread, hfound⟩ := Option.bind_eq_some_iff.mp hsource
  simp only at hfound
  split at hfound
  · cases hfound
    rw [← List.append_nil f.text] at hread
    exact (f.value_of_json _ [] later source nofun hread).2 _ v hv
  · cases hfound

end Subtitling.Catalog.Literal
