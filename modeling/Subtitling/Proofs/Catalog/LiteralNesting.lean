import Subtitling.Proofs.Catalog.BracketScan

/-!
The reader of literals and the depth of brackets. Whatever the reader takes leads a scan for
brackets through the same depths that the reader itself is at. So a text that is read never has
more brackets open than the reader allows, and where the reader complains about the depth stands
the first bracket too many.
-/

namespace Subtitling.Catalog.Literal

/-- A text leads a scan that is outside strings from one depth to another, within the limit. -/
def Passes (cs : List Char) (before after : Nat) : Prop :=
  ∀ deepest ≤ maxDepth, ∃ highest ≤ maxDepth,
    cs.foldl Scan.step ⟨.outside, before, deepest⟩ = ⟨.outside, after, highest⟩

theorem Passes.append {cs more : List Char} {before middle after : Nat}
    (h : Passes cs before middle) (hmore : Passes more middle after) :
    Passes (cs ++ more) before after := by
  intro deepest hdeepest
  obtain ⟨high, hhigh, hcs⟩ := h deepest hdeepest
  obtain ⟨highest, hhighest, hrest⟩ := hmore high hhigh
  exact ⟨highest, hhighest, by rw [List.foldl_append, hcs, hrest]⟩

theorem passes_opener (x : Char) (hx : x ∈ openers) (depth : Nat) (hdepth : depth < maxDepth) :
    Passes [x] depth (depth + 1) := by
  intro deepest hdeepest
  exact ⟨max deepest (depth + 1), by omega, step_opener x depth deepest hx⟩

theorem passes_closer (x : Char) (hx : x ∈ closers) (depth : Nat) : Passes [x] (depth + 1) depth :=
  fun deepest hdeepest => ⟨deepest, hdeepest, step_closer x depth deepest hx⟩

theorem Passes.nesting_le {cs : List Char} {after : Nat} (h : Passes cs 0 after) :
    nesting cs ≤ maxDepth := by
  obtain ⟨highest, hhighest, hscan⟩ := h 0 (Nat.zero_le _)
  rwa [nesting, Scan.start, hscan]

/-- A bracket that is opened at the limit goes beyond it. -/
theorem Passes.nesting_opener {cs : List Char} (h : Passes cs 0 maxDepth) (x : Char)
    (hx : x ∈ openers) : nesting (cs ++ [x]) = maxDepth + 1 := by
  obtain ⟨highest, hhighest, hscan⟩ := h 0 (Nat.zero_le _)
  rw [nesting, Scan.start, List.foldl_append, hscan, List.foldl_cons, List.foldl_nil,
    step_opener x maxDepth highest hx]
  exact Nat.max_eq_right (by omega)

def Takes (c later : Cursor) (taken : List Char) : Prop :=
  c.rest = taken ++ later.rest ∧ later.offset = c.offset + taken.length

theorem Takes.append {c middle later : Cursor} {taken more : List Char} (h : Takes c middle taken)
    (hmore : Takes middle later more) : Takes c later (taken ++ more) := by
  refine ⟨?_, ?_⟩
  · rw [h.1, hmore.1, List.append_assoc]
  · rw [hmore.2, h.2, List.length_append, Nat.add_assoc]

theorem takes_advance (c : Cursor) (taken : List Char) (h : taken <+: c.rest) :
    Takes c (c.advance taken.length) taken :=
  ⟨(List.prefix_iff_eq_append.mp h).symm, rfl⟩

theorem takes_head (c : Cursor) (x : Char) (hx : c.rest.head? = some x) :
    Takes c (c.advance 1) [x] := by
  obtain ⟨rest, hrest⟩ := List.head?_eq_some_iff.mp hx
  exact takes_advance c [x] (by simp [hrest])

theorem takes_next {c later : Cursor} {x : Char} (h : c.next? = some (x, later)) :
    Takes c later [x] := by
  rw [Cursor.next?] at h
  split at h
  · cases h
  · rename_i y rest hrest
    obtain ⟨rfl, rfl⟩ : y = x ∧ ⟨c.offset + 1, rest⟩ = later := by simpa using h
    exact ⟨hrest, rfl⟩

/-- The text from one cursor to another leads a scan from one depth to another. -/
def Crosses (c later : Cursor) (before after : Nat) : Prop :=
  ∃ taken, Takes c later taken ∧ Passes taken before after

theorem Crosses.trans {c middle later : Cursor} {before depth after : Nat}
    (h : Crosses c middle before depth) (hlater : Crosses middle later depth after) :
    Crosses c later before after := by
  obtain ⟨taken, htakes, hpasses⟩ := h
  obtain ⟨more, hmore, hthrough⟩ := hlater
  exact ⟨taken ++ more, htakes.append hmore, hpasses.append hthrough⟩

theorem crosses_opener (c : Cursor) (x : Char) (hx : x ∈ openers) (hhead : c.rest.head? = some x)
    (depth : Nat) (hdepth : depth < maxDepth) : Crosses c (c.advance 1) depth (depth + 1) :=
  ⟨[x], takes_head c x hhead, passes_opener x hx depth hdepth⟩

theorem crosses_closer (c : Cursor) (x : Char) (hx : x ∈ closers) (hhead : c.rest.head? = some x)
    (depth : Nat) : Crosses c (c.advance 1) (depth + 1) depth :=
  ⟨[x], takes_head c x hhead, passes_closer x hx depth⟩

/-- The text from one cursor to another leads a scan from one place to another without brackets that
count. -/
def Leads (c later : Cursor) (place next : Place) : Prop :=
  ∃ taken, Takes c later taken ∧ ∀ opened deepest,
    taken.foldl Scan.step ⟨place, opened, deepest⟩ = ⟨next, opened, deepest⟩

theorem leads_refl (c : Cursor) (place : Place) : Leads c c place place :=
  ⟨[], ⟨rfl, rfl⟩, fun _ _ => rfl⟩

theorem Leads.trans {c middle later : Cursor} {place between next : Place}
    (h : Leads c middle place between) (hlater : Leads middle later between next) :
    Leads c later place next := by
  obtain ⟨taken, htakes, hscan⟩ := h
  obtain ⟨more, hmore, hthrough⟩ := hlater
  refine ⟨taken ++ more, htakes.append hmore, fun opened deepest => ?_⟩
  rw [List.foldl_append, hscan, hthrough]

theorem Leads.crosses {c later : Cursor} (h : Leads c later .outside .outside) (depth : Nat) :
    Crosses c later depth depth := by
  obtain ⟨taken, htakes, hscan⟩ := h
  exact ⟨taken, htakes, fun deepest hdeepest => ⟨deepest, hdeepest, hscan depth deepest⟩⟩

theorem leads_of_ignored {c later : Cursor} {taken : List Char} (h : Takes c later taken)
    (place : Place) (hignored : ∀ x ∈ taken, place.Ignores x) : Leads c later place place :=
  ⟨taken, h, foldl_step_of_ignored place taken hignored⟩

theorem leads_separator (c : Cursor) (x : Char) (hx : x ∉ marks) (hhead : c.rest.head? = some x) :
    Leads c (c.advance 1) .outside .outside :=
  leads_of_ignored (takes_head c x hhead) .outside fun y hy => by rwa [List.mem_singleton.mp hy]

theorem leads_span (c : Cursor) (p : Char → Bool) (hp : ∀ x, p x = true → Place.outside.Ignores x) :
    Leads c (c.span p).2 .outside .outside :=
  leads_of_ignored (takes_advance c _ (List.takeWhile_prefix p)) .outside fun x hx =>
    hp x (List.mem_takeWhile_imp hx)

theorem leads_skipBlanks (c : Cursor) : Leads c c.skipBlanks .outside .outside :=
  leads_span c Text.isBlank ignores_of_isBlank

/-- At an offset stands a bracket that is opened at the limit, and the text before it is in
order. -/
def Blocked (c : Cursor) (before offset : Nat) : Prop :=
  ∃ here, Crosses c here before maxDepth ∧ here.offset = offset ∧
    ∃ x ∈ openers, here.rest.head? = some x

theorem Crosses.blocked {c middle : Cursor} {before depth offset : Nat}
    (h : Crosses c middle before depth) (hblocked : Blocked middle depth offset) :
    Blocked c before offset := by
  obtain ⟨here, hcrosses, hoffset, hopener⟩ := hblocked
  exact ⟨here, h.trans hcrosses, hoffset, hopener⟩

/-- A result leaves the cursor where it should be, or complains about the depth at an offset
where it should, or fails for another reason. -/
def Ends {α : Type} (place : Cursor → Prop) (deep : Nat → Prop) :
    Except Failure (α × Cursor) → Prop
  | .ok (_, later) => place later
  | .error (.tooDeep offset) => deep offset
  | .error _ => True

/-- Reading from a cursor leads a scan from one place to another, and complains about no depth. -/
def Walks {α : Type} (c : Cursor) (place next : Place) (r : Except Failure (α × Cursor)) : Prop :=
  Ends (Leads c · place next) (fun _ => False) r

/-- Reading from a cursor leads a scan from one depth to another, or up to a bracket too many. -/
def Reads {α : Type} (c : Cursor) (before after : Nat) (r : Except Failure (α × Cursor)) : Prop :=
  Ends (Crosses c · before after) (Blocked c before) r

section

variable {α β : Type} {r : Except Failure (α × Cursor)}
  {more : α × Cursor → Except Failure (β × Cursor)}

theorem Ends.mono {place other : Cursor → Prop} {deep deeper : Nat → Prop} (h : Ends place deep r)
    (hplace : ∀ later, place later → other later) (hdeep : ∀ offset, deep offset → deeper offset) :
    Ends other deeper r := by
  rcases r with e | ⟨a, later⟩
  · cases e with
    | tooDeep offset => exact hdeep offset h
    | _ => trivial
  · exact hplace later h

theorem Ends.bind {place other : Cursor → Prop} {deep : Nat → Prop} (h : Ends place deep r)
    (hmore : ∀ a later, place later → Ends other deep (more (a, later))) :
    Ends other deep (r >>= more) := by
  rcases r with e | ⟨a, later⟩
  · cases e with
    | tooDeep offset => exact h
    | _ => trivial
  · exact hmore a later h

variable {c middle : Cursor} {place between next : Place} {before depth after : Nat}

theorem Leads.walks (h : Leads c middle place between) (hr : Walks middle between next r) :
    Walks c place next r :=
  Ends.mono hr (fun _ hlater => h.trans hlater) fun _ => id

theorem walks_ok (a : α) (h : Leads c middle place next) : Walks c place next (.ok (a, middle)) := h

theorem Walks.bind (h : Walks c place between r)
    (hmore : ∀ a later, Walks later between next (more (a, later))) :
    Walks c place next (r >>= more) :=
  Ends.bind h fun a later hlater => hlater.walks (hmore a later)

theorem Walks.map (h : Walks c place next r) (f : α → β) :
    Walks c place next (do let (a, later) ← r; return (f a, later)) :=
  Ends.bind h fun _ _ hlater => hlater

theorem Crosses.reads (h : Crosses c middle before depth) (hr : Reads middle depth after r) :
    Reads c before after r :=
  Ends.mono hr (fun _ hlater => h.trans hlater) fun _ hblocked => h.blocked hblocked

theorem Leads.reads (h : Leads c middle .outside .outside) (hr : Reads middle before after r) :
    Reads c before after r :=
  (h.crosses before).reads hr

theorem Walks.reads (h : Walks c .outside .outside r) (depth : Nat) : Reads c depth depth r :=
  Ends.mono h (fun _ hlater => hlater.crosses depth) fun _ => False.elim

theorem reads_ok (a : α) (h : Crosses c middle before after) :
    Reads c before after (.ok (a, middle)) := h

theorem Reads.bind (h : Reads c before depth r)
    (hmore : ∀ a later, Reads later depth after (more (a, later))) :
    Reads c before after (r >>= more) :=
  Ends.bind h fun a later hlater => hlater.reads (hmore a later)

theorem Reads.map (h : Reads c before after r) (f : α → β) :
    Reads c before after (do let (a, later) ← r; return (f a, later)) :=
  Ends.bind h fun _ _ hlater => hlater

end

theorem digit_of_escapeCode (digits : List Char) (n : Nat) (h : escapeCode? digits = some n)
    (x : Char) (hx : x ∈ digits) : x = '+' ∨ (Text.hexValue? x).isSome := by
  have hread (cs : List Char) (hcs : (if cs.isEmpty then none else Text.hexNumber? cs) = some n) :
      ∀ y ∈ cs, (Text.hexValue? y).isSome := by
    split at hcs
    · cases hcs
    · exact Text.isSome_of_foldl_hexValue cs 0 n hcs
  rw [escapeCode?.eq_def] at h
  split at h
  · rename_i rest
    rcases List.mem_cons.mp hx with rfl | hx
    · exact .inl rfl
    · exact .inr (hread rest h x hx)
  · exact .inr (hread digits h x hx)

section

variable {quote : Char} (hquote : isQuote quote = true)

include hquote

/-- Digits that name a character leave the scan inside the string, as none of them is a quote or
a backslash. -/
theorem walks_hexChar (width : Nat) (c : Cursor) :
    Walks c (.inside quote) (.inside quote) (hexChar width c) := by
  rw [hexChar]
  split
  · trivial
  · rename_i hlength
    have hwidth : (c.rest.take width).length = width := by
      have := List.length_take_le width c.rest
      omega
    have htakes := takes_advance c _ (List.take_prefix width c.rest)
    rw [hwidth] at htakes
    cases hcode : escapeCode? (c.rest.take width) with
    | none => trivial
    | some n =>
      dsimp only
      split
      · exact walks_ok _ (leads_of_ignored htakes (.inside quote) fun x hx =>
          ignores_of_digit quote hquote x (digit_of_escapeCode _ n hcode x hx))
      · trivial

/-- What follows a backslash brings the scan back inside the string, however many characters the
escape has. -/
theorem walks_escape (c : Cursor) : Walks c (.escaped quote) (.inside quote) (escape c) := by
  rw [escape]
  cases hnext : c.next? with
  | none => trivial
  | some p =>
    obtain ⟨e, later⟩ := p
    have hfirst : Leads c later (.escaped quote) (.inside quote) :=
      ⟨[e], takes_next hnext, fun _ _ => rfl⟩
    have hhex (width : Nat) : Walks c (.escaped quote) (.inside quote) (hexChar width later) :=
      hfirst.walks (walks_hexChar hquote width later)
    dsimp only
    -- Four letters stand for a character, three announce digits, all others stand for themselves.
    iterate 4
      split
      · exact walks_ok _ hfirst
    iterate 3
      split
      · exact hhex _
    exact walks_ok _ hfirst

/-- The body of a string keeps the scan inside the string up to the quote that ends it, by
induction on the fuel. An escape takes the scan aside for one character, so that a quote behind a
backslash ends nothing. -/
theorem walks_stringBody (fuel : Nat) (c : Cursor) :
    Walks c (.inside quote) .outside (stringBody quote fuel c) := by
  induction fuel generalizing c with
  | zero => trivial
  | succ fuel ih =>
    rw [stringBody]
    cases hnext : c.next? with
    | none => trivial
    | some p =>
      obtain ⟨x, later⟩ := p
      have htakes := takes_next hnext
      dsimp only
      split
      · rename_i hend
        exact walks_ok _ ⟨[x], htakes, fun _ _ => by simp [Scan.step, hend]⟩
      · rename_i hend
        split
        · rename_i hslash
          subst hslash
          have hback : Leads c later (.inside quote) (.escaped quote) :=
            ⟨_, htakes, fun opened deepest => step_backslash opened deepest quote hquote⟩
          refine Walks.bind (hback.walks (walks_escape hquote later)) fun y after => ?_
          exact (ih after).map _
        · rename_i hslash
          have hplain : Leads c later (.inside quote) (.inside quote) :=
            ⟨[x], htakes, step_of_ignored (.inside quote) x ⟨hend, hslash⟩⟩
          exact (hplain.walks (ih later)).map _

end

theorem walks_string (fuel : Nat) (c : Cursor) (hquote : c.rest.head?.any isQuote = true) :
    Walks c .outside .outside (string fuel c) := by
  rw [string]
  cases hnext : c.next? with
  | none => trivial
  | some p =>
    obtain ⟨quote, later⟩ := p
    have htakes := takes_next hnext
    have hquote : isQuote quote = true := by
      rw [htakes.1] at hquote
      simpa using hquote
    have hopen : Leads c later .outside (.inside quote) :=
      ⟨[quote], htakes, fun opened deepest => step_quote quote opened deepest hquote⟩
    exact (hopen.walks (walks_stringBody hquote fuel later)).map
      fun cs => Json.string (String.ofList cs)

theorem walks_number (c : Cursor) : Walks c .outside .outside (number c) := by
  rw [number]
  dsimp only
  split
  · exact walks_ok _ (leads_span c isNumberChar ignores_of_isNumberChar)
  · trivial

theorem walks_word (fuel : Nat) (c : Cursor) : Walks c .outside .outside (word fuel c) := by
  have hspan := leads_span c isWordChar ignores_of_isWordChar
  rw [word_eq fuel c _ _ rfl]
  split
  · exact walks_ok _ hspan
  split
  · exact walks_ok _ hspan
  split
  · exact walks_ok _ hspan
  split
  · rename_i hmarked
    exact hspan.walks (walks_string fuel _ ((Bool.and_eq_true _ _).mp hmarked).2)
  · trivial

mutual

/-- What a value is read from leads the scan from one depth back to the same depth. Where the
reader complains about the depth, the scan has reached it at the bracket that is complained of.
-/
theorem reads_value (fuel depth : Nat) (c : Cursor) (hdepth : depth ≤ maxDepth) :
    Reads c depth depth (value fuel depth c) := by
  cases fuel with
  | zero => trivial
  | succ fuel =>
    rw [value_succ]
    cases hrest : c.skipBlanks.rest with
    | nil => trivial
    | cons x rest =>
      have hhead : c.skipBlanks.rest.head? = some x := by rw [hrest]; rfl
      refine (leads_skipBlanks c).reads ?_
      dsimp only
      split
      · rename_i hopen
        have hopener : x ∈ openers := by simpa [openers, or_assoc] using hopen
        split
        · rename_i hdeep
          obtain rfl : depth = maxDepth := by omega
          exact ⟨_, (leads_refl _ .outside).crosses _, rfl, x, hopener, hhead⟩
        · rename_i hroom
          have hroom : depth < maxDepth := by omega
          have hinside := crosses_opener c.skipBlanks x hopener hhead depth hroom
          split
          · exact (hinside.reads (reads_items ']' (by decide) fuel depth _ hroom)).map _
          split
          · exact (hinside.reads (reads_items ')' (by decide) fuel depth _ hroom)).map _
          · exact (hinside.reads (reads_fields fuel depth _ hroom)).map _
      split
      · rename_i hquote
        exact (walks_string fuel _ (by rw [hhead]; exact hquote)).reads depth
      split
      · exact (walks_number _).reads depth
      split
      · exact (walks_word fuel _).reads depth
      · trivial

/-- What items are read from leads the scan out of the bracket that they stand in. The last of
them is followed by the bracket that closes it. -/
theorem reads_items (close : Char) (hclose : close ∈ closers) (fuel depth : Nat) (c : Cursor)
    (hdepth : depth < maxDepth) : Reads c (depth + 1) depth (items close fuel (depth + 1) c) := by
  cases fuel with
  | zero => trivial
  | succ fuel =>
    rw [items_succ]
    refine (leads_skipBlanks c).reads ?_
    dsimp only
    split
    · rename_i hhead
      exact reads_ok _ (crosses_closer _ close hclose hhead depth)
    refine (reads_value fuel (depth + 1) _ hdepth).bind fun item later => ?_
    refine (leads_skipBlanks later).reads ?_
    dsimp only
    cases hrest : later.skipBlanks.rest with
    | nil => trivial
    | cons x rest =>
      have hhead : later.skipBlanks.rest.head? = some x := by rw [hrest]; rfl
      dsimp only
      split
      · rename_i hcomma
        have hnext := leads_separator _ ',' (by decide) (hcomma ▸ hhead)
        exact (hnext.reads (reads_items close hclose fuel depth _ hdepth)).map _
      split
      · rename_i hend
        exact reads_ok _ (crosses_closer _ close hclose (hend ▸ hhead) depth)
      · trivial

/-- What fields are read from leads the scan out of the brace that they stand in. Key and value
each lead it back to the depth they began in, and colons and commas mean nothing to it. -/
theorem reads_fields (fuel depth : Nat) (c : Cursor) (hdepth : depth < maxDepth) :
    Reads c (depth + 1) depth (fields fuel (depth + 1) c) := by
  cases fuel with
  | zero => trivial
  | succ fuel =>
    rw [fields_succ]
    refine (leads_skipBlanks c).reads ?_
    dsimp only
    split
    · rename_i hhead
      exact reads_ok _ (crosses_closer _ '\x7d' (by decide) hhead depth)
    refine (reads_value fuel (depth + 1) _ hdepth).bind fun key middle => ?_
    refine (leads_skipBlanks middle).reads ?_
    dsimp only
    split
    · rename_i hcolon
      refine (leads_separator _ ':' (by decide) hcolon).reads ?_
      refine (reads_value fuel (depth + 1) _ hdepth).bind fun item later => ?_
      refine (leads_skipBlanks later).reads ?_
      dsimp only
      cases hrest : later.skipBlanks.rest with
      | nil => trivial
      | cons x rest =>
        have hhead : later.skipBlanks.rest.head? = some x := by rw [hrest]; rfl
        dsimp only
        split
        · rename_i hcomma
          have hnext := leads_separator _ ',' (by decide) (hcomma ▸ hhead)
          exact (hnext.reads (reads_fields fuel depth _ hdepth)).map _
        split
        · rename_i hend
          exact reads_ok _ (crosses_closer _ '\x7d' (by decide) (hend ▸ hhead) depth)
        · trivial
    · trivial

end

end Subtitling.Catalog.Literal
