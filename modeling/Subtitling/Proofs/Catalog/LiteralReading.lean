import Subtitling.Proofs.Catalog.LiteralNesting
import Subtitling.Proofs.Json.Fields

/-!
Whole texts of literals. The reader has fuel for every text, so where it fails the text is to
blame. What it takes for a literal nests no deeper than it may, and where it complains about the
depth stands the first bracket too many.
-/

namespace Subtitling.Catalog.Literal

theorem Takes.length_le {c later : Cursor} {taken : List Char} (h : Takes c later taken) :
    later.rest.length ≤ c.rest.length := by
  rw [h.1, List.length_append]
  exact Nat.le_add_left _ _

theorem length_advance (c : Cursor) (n : Nat) : (c.advance n).rest.length = c.rest.length - n :=
  List.length_drop

theorem length_skipBlanks_le (c : Cursor) : c.skipBlanks.rest.length ≤ c.rest.length := by
  rw [Cursor.skipBlanks, length_advance]
  exact Nat.sub_le _ _

theorem length_advance_skipBlanks_lt (c : Cursor) (x : Char) (rest : List Char)
    (hrest : c.skipBlanks.rest = x :: rest) :
    (c.skipBlanks.advance 1).rest.length < c.rest.length := by
  have hblanks := length_skipBlanks_le c
  rw [length_advance]
  rw [hrest, List.length_cons] at hblanks ⊢
  omega

section

variable {α : Type} {c later : Cursor}

theorem Walks.length_le {place next : Place} {r : Except Failure (α × Cursor)} {a : α}
    (h : Walks c place next r) (hr : r = .ok (a, later)) : later.rest.length ≤ c.rest.length := by
  subst hr
  obtain ⟨taken, htakes, -⟩ := h
  exact htakes.length_le

theorem Reads.length_le {before after : Nat} {r : Except Failure (α × Cursor)} {a : α}
    (h : Reads c before after r) (hr : r = .ok (a, later)) : later.rest.length ≤ c.rest.length := by
  subst hr
  obtain ⟨taken, htakes, -⟩ := h
  exact htakes.length_le

end

/-- Results go on alike where what is done with them is the same. -/
theorem bind_congr_ok {α β : Type} (r : Except Failure α) {more other : α → Except Failure β}
    (h : ∀ a, r = .ok a → more a = other a) : r >>= more = r >>= other := by
  cases r with
  | error e => rfl
  | ok a => exact h a rfl

/-- More fuel makes no difference to the body of a string that has one step for each character
left, since every glyph takes at least one of them. -/
theorem stringBody_succ_fuel {quote : Char} (hquote : isQuote quote = true) (fuel : Nat)
    (c : Cursor) (hfuel : c.rest.length ≤ fuel) :
    stringBody quote (fuel + 1) c = stringBody quote fuel c := by
  induction fuel generalizing c with
  | zero =>
    have hend : c.rest = [] := List.eq_nil_of_length_eq_zero (by omega)
    rw [stringBody, stringBody, Cursor.next?, hend]
  | succ fuel ih =>
    rw [stringBody, stringBody]
    cases hnext : c.next? with
    | none => rfl
    | some p =>
      obtain ⟨x, later⟩ := p
      have hlength : c.rest.length = later.rest.length + 1 := by
        rw [(takes_next hnext).1, List.length_append, List.length_singleton, Nat.add_comm]
      dsimp only
      split
      · rfl
      split
      · refine bind_congr_ok _ fun r hr => ?_
        have hescape := (walks_escape hquote later).length_le hr
        rw [ih _ (by omega)]
      · rw [ih later (by omega)]

theorem string_succ_fuel (fuel : Nat) (c : Cursor) (hquote : c.rest.head?.any isQuote = true)
    (hfuel : c.rest.length ≤ fuel + 1) : string (fuel + 1) c = string fuel c := by
  rw [string, string]
  cases hnext : c.next? with
  | none => rfl
  | some p =>
    obtain ⟨quote, later⟩ := p
    have htakes := takes_next hnext
    rw [htakes.1] at hquote hfuel
    dsimp only
    rw [stringBody_succ_fuel (by simpa using hquote) fuel later (by simpa using hfuel)]

theorem word_succ_fuel (fuel : Nat) (c : Cursor) (hfuel : c.rest.length ≤ fuel + 1) :
    word (fuel + 1) c = word fuel c := by
  have hspan := length_advance c (c.rest.takeWhile isWordChar).length
  rw [word_eq (fuel + 1) c _ _ rfl, word_eq fuel c _ _ rfl]
  split
  · rfl
  split
  · rfl
  split
  · rfl
  split
  · rename_i hmarked
    exact string_succ_fuel fuel _ ((Bool.and_eq_true _ _).mp hmarked).2 (by omega)
  · rfl

mutual

-- A bracket and each of its items take a step and a character, and the value of an item another
-- step at the same character. So the bound for items is one above the bound for values.
/-- More fuel than two steps for each character left makes no difference to a value. A bracket
takes one step and one character before its items begin, so the bound is there for them too. -/
theorem value_succ_fuel (fuel depth : Nat) (c : Cursor) (hfuel : 2 * c.rest.length ≤ fuel) :
    value (fuel + 1) depth c = value fuel depth c := by
  have hblanks := length_skipBlanks_le c
  cases fuel with
  | zero =>
    have hend : c.skipBlanks.rest = [] := List.eq_nil_of_length_eq_zero (by omega)
    rw [value_succ, hend]
    rfl
  | succ fuel =>
    rw [value_succ, value_succ]
    cases hrest : c.skipBlanks.rest with
    | nil => rfl
    | cons x rest =>
      have hinside := length_advance_skipBlanks_lt c x rest hrest
      dsimp only
      split
      · split
        · rfl
        · rename_i hroom
          have hroom : depth < maxDepth := by omega
          split
          · rw [items_succ_fuel ']' (by decide) fuel depth _ hroom (by omega)]
          split
          · rw [items_succ_fuel ')' (by decide) fuel depth _ hroom (by omega)]
          · rw [fields_succ_fuel fuel depth _ hroom (by omega)]
      split
      · rename_i hquote
        exact string_succ_fuel fuel _ (by rw [hrest]; exact hquote) (by omega)
      split
      · rfl
      split
      · exact word_succ_fuel fuel _ (by omega)
      · rfl

/-- More fuel makes no difference to items either, with one step more than a value is given at
the same place. -/
theorem items_succ_fuel (close : Char) (hclose : close ∈ closers) (fuel depth : Nat) (c : Cursor)
    (hdepth : depth < maxDepth) (hfuel : 2 * c.rest.length + 1 ≤ fuel) :
    items close (fuel + 1) (depth + 1) c = items close fuel (depth + 1) c := by
  cases fuel with
  | zero => omega
  | succ fuel =>
    have hblanks := length_skipBlanks_le c
    rw [items_succ, items_succ, value_succ_fuel fuel (depth + 1) _ (by omega)]
    dsimp only
    split
    · rfl
    refine bind_congr_ok _ fun ⟨item, later⟩ hitem => ?_
    have hbehind := (reads_value fuel (depth + 1) _ hdepth).length_le hitem
    dsimp only
    cases hrest : later.skipBlanks.rest with
    | nil => rfl
    | cons x rest =>
      have hnext := length_advance_skipBlanks_lt later x rest hrest
      rw [items_succ_fuel close hclose fuel depth _ hdepth (by omega)]

/-- More fuel makes no difference to fields. After a key there is less to read by the key and its
colon, and after a value by the value and its comma, so the bound is kept on the way. -/
theorem fields_succ_fuel (fuel depth : Nat) (c : Cursor) (hdepth : depth < maxDepth)
    (hfuel : 2 * c.rest.length + 1 ≤ fuel) :
    fields (fuel + 1) (depth + 1) c = fields fuel (depth + 1) c := by
  cases fuel with
  | zero => omega
  | succ fuel =>
    have hblanks := length_skipBlanks_le c
    rw [fields_succ, fields_succ, value_succ_fuel fuel (depth + 1) _ (by omega)]
    dsimp only
    split
    · rfl
    refine bind_congr_ok _ fun ⟨key, middle⟩ hkey => ?_
    have hmiddle := (reads_value fuel (depth + 1) _ hdepth).length_le hkey
    have hbetween := length_skipBlanks_le middle
    dsimp only
    split
    · have hcolon : (middle.skipBlanks.advance 1).rest.length ≤ c.rest.length := by
        rw [length_advance]
        omega
      rw [value_succ_fuel fuel (depth + 1) _ (by omega)]
      refine bind_congr_ok _ fun ⟨item, later⟩ hitem => ?_
      have hbehind := (reads_value fuel (depth + 1) _ hdepth).length_le hitem
      dsimp only
      cases hrest : later.skipBlanks.rest with
      | nil => rfl
      | cons x rest =>
        have hnext := length_advance_skipBlanks_lt later x rest hrest
        rw [fields_succ_fuel fuel depth _ hdepth (by omega)]
    · rfl

end

/-- Two steps for each character that is left are enough. -/
theorem value_of_enough_fuel (depth : Nat) (c : Cursor) (fuel : Nat)
    (h : 2 * c.rest.length ≤ fuel) :
    value fuel depth c = value (2 * c.rest.length) depth c := by
  induction fuel, h using Nat.le_induction with
  | base => rfl
  | succ fuel h ih => rw [value_succ_fuel fuel depth c h, ih]

/-- A text that is read as a whole leads the scan from no open bracket to none: blanks before and
behind the literal mean nothing to it. -/
theorem passes_of_read (cs : List Char) (v : Json) (h : read cs = .ok v) : Passes cs 0 0 := by
  have hreads := reads_value (2 * cs.length + 2) 0 (Cursor.ofList cs) (Nat.zero_le _)
  rw [read_eq] at h
  cases hvalue : value (2 * cs.length + 2) 0 (Cursor.ofList cs) with
  | error e =>
    rw [hvalue] at h
    cases h
  | ok p =>
    obtain ⟨w, later⟩ := p
    rw [hvalue] at h hreads
    obtain ⟨taken, ⟨hrest, -⟩, hpasses⟩ := Crosses.trans hreads ((leads_skipBlanks later).crosses 0)
    change (if later.skipBlanks.rest.isEmpty then _ else _) = _ at h
    split at h
    · rename_i hempty
      rw [List.isEmpty_iff.mp hempty, List.append_nil] at hrest
      rwa [← hrest] at hpasses
    · cases h

/-- Where the reader complains about the depth stands the first bracket too many. Up to there the
text has no more brackets open at once than it may, and with the character that the message
points to it has one too many. -/
theorem nesting_of_tooDeep (cs : List Char) (offset : Nat)
    (h : read cs = .error (.tooDeep offset)) :
    nesting (cs.take offset) ≤ maxDepth ∧ nesting (cs.take (offset + 1)) = maxDepth + 1 := by
  have hreads := reads_value (2 * cs.length + 2) 0 (Cursor.ofList cs) (Nat.zero_le _)
  rw [read_eq] at h
  cases hvalue : value (2 * cs.length + 2) 0 (Cursor.ofList cs) with
  | error e =>
    rw [hvalue] at h hreads
    obtain rfl : e = .tooDeep offset := by cases h; rfl
    obtain ⟨here, ⟨taken, htakes, hpasses⟩, hoffset, x, hx, hhead⟩ := hreads
    obtain ⟨rest, hrest⟩ := List.head?_eq_some_iff.mp hhead
    have hcs : cs = taken ++ x :: rest := by rw [← hrest]; exact htakes.1
    have hlength : offset = taken.length := by
      rw [← hoffset, htakes.2]
      exact Nat.zero_add _
    have hbefore : cs.take offset = taken := by rw [hcs, hlength, List.take_left]
    have hwith : cs.take (offset + 1) = taken ++ [x] := by
      rw [hcs, hlength, List.take_append, List.take_of_length_le (Nat.le_succ _),
        Nat.add_sub_cancel_left]
      rfl
    exact ⟨hbefore ▸ hpasses.nesting_le, hwith ▸ hpasses.nesting_opener x hx⟩
  | ok p =>
    obtain ⟨w, later⟩ := p
    rw [hvalue] at h
    change (if later.skipBlanks.rest.isEmpty then _ else _) = _ at h
    split at h <;> cases h

/-- A token behind a literal and some blanks is one too many. The offset of the message is that
of the token, behind all that was taken. -/
theorem read_trailing (f : Form) (front gap : Blanks) (x : Char) (rest : List Char)
    (h : f.depth ≤ maxDepth) (hgap : gap.val ≠ []) (hx : Text.isBlank x = false) :
    read (front.val ++ (f.text ++ (gap.val ++ x :: rest))) =
      .error (.trailing (front.val.length + f.text.length + gap.val.length)) := by
  have hstops : Stops (gap.val ++ x :: rest) := by
    intro c hc
    refine stops_of_isBlank c (gap.property c ?_)
    rw [List.head?_append_of_ne_nil _ hgap] at hc
    exact List.mem_of_mem_head? hc
  obtain ⟨later, hvalue⟩ := f.value_text
    (2 * (front.val ++ (f.text ++ (gap.val ++ x :: rest))).length + 2) 0 0 front
      (gap.val ++ x :: rest)
    (by simp only [List.length_append]; omega) (by omega) hstops
  have hreads := reads_value (2 * (front.val ++ (f.text ++ (gap.val ++ x :: rest))).length + 2) 0
    ⟨0, front.val ++ (f.text ++ (gap.val ++ x :: rest))⟩ (Nat.zero_le _)
  rw [hvalue] at hreads
  obtain ⟨taken, ⟨hrest, hoffset⟩, -⟩ := hreads
  have hlater : later = front.val.length + f.text.length := by
    have hlengths := congrArg List.length hrest
    simp only [List.length_append] at hlengths
    simp only at hoffset
    omega
  rw [read_eq, Cursor.ofList, hvalue]
  change (if (Cursor.skipBlanks ⟨later, gap.val ++ x :: rest⟩).rest.isEmpty then _
    else Except.error (Failure.trailing (Cursor.skipBlanks ⟨later, gap.val ++ x :: rest⟩).offset)) =
      _
  rw [skipBlanks_append later gap x rest hx, hlater]
  rfl

/-- A literal that is nested at most 64 deep is read as what it stands for, however it is
written: a dict keeps its keys in rising order, each with the value that it was given last. Any
token behind such a literal and some blanks is an error. No text is read that has more than 64
brackets open at once, which is how deep a literal is nested; where the depth is the reason, the
bracket that is one too many stands at the offset of the message. No text is refused for want of
fuel. The counter of open brackets is back where it was when anything has been read, also after a
failure. -/
theorem reads_within_depth :
    (∀ (f : Form) (front back : Blanks), f.depth ≤ 64 →
      read (front.val ++ (f.text ++ back.val)) = .ok f.value) ∧
    (∀ fields : Fields, ∃ kept, (Form.dict fields).value = .object kept ∧ Json.Rising kept ∧
      ∀ key, kept.lookup key = fields.values.reverse.lookup key) ∧
    (∀ (f : Form) (front gap : Blanks) (x : Char) (rest : List Char),
      f.depth ≤ 64 → gap.val ≠ [] → Text.isBlank x = false →
      read (front.val ++ (f.text ++ (gap.val ++ x :: rest))) =
        .error (.trailing (front.val.length + f.text.length + gap.val.length))) ∧
    (∀ (f : Form) (front back : Blanks), nesting (front.val ++ (f.text ++ back.val)) = f.depth) ∧
    (∀ cs : List Char, 64 < nesting cs → ∃ e, read cs = .error e) ∧
    (∀ (cs : List Char) (offset : Nat), read cs = .error (.tooDeep offset) →
      nesting (cs.take offset) ≤ 64 ∧ nesting (cs.take (offset + 1)) = 65) ∧
    (∀ (depth : Nat) (c : Cursor) (fuel : Nat), 2 * c.rest.length ≤ fuel →
      value fuel depth c = value (2 * c.rest.length) depth c) ∧
    (∀ (fuel depth : Nat) (c : Cursor),
      (Counted.value fuel c).run.run depth = (value fuel depth c, depth)) ∧
    ∀ cs : List Char, (Counted.read cs).run.run 0 = (read cs, 0) := by
  refine ⟨read_form, fun fields => ⟨_, rfl, Json.rising_sortFields _, Json.lookup_sortFields _⟩,
    read_trailing, nesting_form, fun cs hdeep => ?_, nesting_of_tooDeep, value_of_enough_fuel,
    fun fuel depth c => Counted.restores_value fuel c depth, fun cs => Counted.restores_read cs 0⟩
  cases hread : read cs with
  | error e => exact ⟨e, rfl⟩
  | ok v => exact absurd (passes_of_read cs v hread).nesting_le (Nat.not_le.mpr hdeep)

def boxes : Nat → Form
  | 0 => .none
  | depth + 1 => .list (.last noBlanks (boxes depth) noBlanks)

def lineFeed : Blanks where
  val := ['\n']
  property := by
    intro c hc
    obtain rfl := List.mem_singleton.mp hc
    decide

set_option maxRecDepth 4000 in
/-- Sixty-four lists inside each other are read, one more is refused, and so is a token behind
them. -/
theorem reads_within_depth_boxes :
    ((boxes 64).depth ≤ 64 ∧ lineFeed.val ≠ [] ∧ Text.isBlank '1' = false ∧ 64 < (boxes 65).depth) ∧
    read ('\n' :: ((boxes 64).text ++ ['\n'])) = .ok (boxes 64).value ∧
    read ('\n' :: ((boxes 64).text ++ ['\n', '1'])) = .error (.trailing 134) ∧
    (∃ e, read ('\n' :: ((boxes 65).text ++ ['\n'])) = .error e) ∧
    nesting (List.replicate 64 '[') ≤ 64 ∧
    value 9 0 (Cursor.ofList ['[', '7']) = .error (.expectedSeparator ']' none) := by
  obtain ⟨hread, -, htrailing, hnesting, hdeep, htooDeep, henough, -, -⟩ := reads_within_depth
  have hfits : (boxes 64).depth ≤ 64 := by decide
  have hnested : 64 < nesting (lineFeed.val ++ ((boxes 65).text ++ lineFeed.val)) := by
    rw [hnesting (boxes 65) lineFeed lineFeed]
    decide
  refine ⟨⟨hfits, by decide, by decide, by decide⟩, ?_, ?_, ?_, ?_, ?_⟩
  · exact hread (boxes 64) lineFeed lineFeed hfits
  · exact htrailing (boxes 64) lineFeed lineFeed '1' [] hfits (by decide) (by decide)
  · exact hdeep _ hnested
  · exact (htooDeep (List.replicate 65 '[') 64 rfl).1
  · exact henough 0 (Cursor.ofList ['[', '7']) 9 (by decide)

end Subtitling.Catalog.Literal
