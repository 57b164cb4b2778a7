import Subtitling.Catalog.Literal

/-!
The counter of open brackets. A bracket compares it with the limit, adds one to it before what it
holds is read, and takes one from it afterwards, so that every step of the reader leaves it where
it was, also one that fails. What a step comes to is then told by how many brackets are open
around it, and the steps follow each other as if that number were handed on to them.
-/

namespace Subtitling.Catalog.Literal

namespace Counted

section

variable {α β : Type} {depth : Nat}

/-- Wherever it is taken, the step leaves as many brackets open as there were. -/
def Restores (step : Counted α) : Prop := ∀ depth, step.run.run depth = (step.result depth, depth)

theorem restores_pure (a : α) : Restores (pure a) := fun _ => rfl

theorem restores_throw (e : Failure) : Restores (throw e : Counted α) := fun _ => rfl

theorem restores_liftExcept (r : Except Failure α) : Restores (liftExcept r) := by
  cases r with
  | error e => exact restores_throw e
  | ok a => exact restores_pure a

theorem result_liftExcept (r : Except Failure α) : (liftExcept r : Counted α).result depth = r := by
  cases r <;> rfl

theorem run_bind (step : Counted α) (next : α → Counted β) (depth : Nat) :
    (step >>= next).run.run depth =
      match step.run.run depth with
      | (.ok a, d) => (next a).run.run d
      | (.error e, d) => (.error e, d) := by
  simp only [ExceptT.run_bind, StateT.run_bind]
  rcases step.run.run depth with ⟨_ | a, d⟩ <;> rfl

theorem result_bind {step : Counted α} (hstep : Restores step) (next : α → Counted β) :
    (step >>= next).result depth = step.result depth >>= fun a => (next a).result depth := by
  rw [result, run_bind, hstep]
  cases step.result depth <;> rfl

theorem restores_bind {step : Counted α} {next : α → Counted β} (hstep : Restores step)
    (hnext : ∀ a, Restores (next a)) : Restores (step >>= next) := by
  intro depth
  rw [result_bind hstep, run_bind, hstep]
  cases step.result depth with
  | error e => rfl
  | ok a => exact hnext a depth

theorem restores_ite {p : Prop} [Decidable p] {step other : Counted α}
    (hstep : p → Restores step) (hother : ¬ p → Restores other) :
    Restores (if p then step else other) := by
  split
  · exact hstep ‹p›
  · exact hother ‹¬ p›

theorem result_ite {p : Prop} [Decidable p] (step other : Counted α) :
    (if p then step else other).result depth =
      if p then step.result depth else other.result depth := by
  split <;> rfl

theorem run_enclosed {step : Counted α} (hstep : Restores step) :
    (enclosed step).run.run depth = (step.result (depth + 1), depth) := by
  have hrun : (enclosed step).run.run depth =
      (liftExcept (step.run.run (depth + 1)).1 : Counted α).run.run
        ((step.run.run (depth + 1)).2 - 1) := rfl
  rw [hrun, hstep]
  cases step.result (depth + 1) <;> rfl

theorem run_nested {step : Counted α} (offset : Nat) (hstep : Restores step) :
    (nested offset step).run.run depth =
      (if maxDepth ≤ depth then .error (.tooDeep offset) else step.result (depth + 1), depth) := by
  have hrun : (nested offset step).run.run depth =
      (if maxDepth ≤ depth then throw (.tooDeep offset) else enclosed step : Counted α).run.run
        depth := rfl
  rw [hrun]
  split
  · rfl
  · exact run_enclosed hstep

theorem result_nested {step : Counted α} (offset : Nat) (hstep : Restores step) :
    (nested offset step).result depth =
      if maxDepth ≤ depth then .error (.tooDeep offset) else step.result (depth + 1) := by
  rw [result, run_nested offset hstep]

theorem restores_nested {step : Counted α} (offset : Nat) (hstep : Restores step) :
    Restores (nested offset step) := by
  intro depth
  rw [result_nested offset hstep, run_nested offset hstep]

end

mutual

/-- Whatever a value is, and also where reading it fails, the counter is left as it was found.
This is proved along with the same for items and fields, by induction on the fuel that they
share. -/
theorem restores_value (fuel : Nat) (c : Cursor) : Restores (value fuel c) := by
  cases fuel with
  | zero => exact restores_throw _
  | succ fuel =>
    rw [value]
    cases c.skipBlanks.rest with
    | nil => exact restores_throw _
    | cons x rest =>
      refine restores_ite (fun _ => ?_) fun _ => ?_
      · exact restores_nested _ (restores_bind (restores_items ']' fuel _) fun _ => restores_pure _)
      refine restores_ite (fun _ => ?_) fun _ => ?_
      · exact restores_nested _ (restores_bind (restores_items ')' fuel _) fun _ => restores_pure _)
      refine restores_ite (fun _ => ?_) fun _ => ?_
      · exact restores_nested _ (restores_bind (restores_fields fuel _) fun _ => restores_pure _)
      refine restores_ite (fun _ => restores_liftExcept _) fun _ => ?_
      refine restores_ite (fun _ => restores_liftExcept _) fun _ => ?_
      exact restores_ite (fun _ => restores_liftExcept _) fun _ => restores_throw _

theorem restores_items (close : Char) (fuel : Nat) (c : Cursor) :
    Restores (items close fuel c) := by
  cases fuel with
  | zero => exact restores_throw _
  | succ fuel =>
    rw [items]
    refine restores_ite (fun _ => restores_pure _) fun _ => ?_
    refine restores_bind (restores_value fuel _) fun ⟨item, c⟩ => ?_
    dsimp only
    cases c.skipBlanks.rest with
    | nil => exact restores_throw _
    | cons x rest =>
      refine restores_ite (fun _ => ?_) fun _ => ?_
      · exact restores_bind (restores_items close fuel _) fun _ => restores_pure _
      · exact restores_ite (fun _ => restores_pure _) fun _ => restores_throw _

/-- The fields of a dict leave the counter as they found it, since each key and each value does
and nothing else in them touches it. -/
theorem restores_fields (fuel : Nat) (c : Cursor) : Restores (fields fuel c) := by
  cases fuel with
  | zero => exact restores_throw _
  | succ fuel =>
    rw [fields]
    refine restores_ite (fun _ => restores_pure _) fun _ => ?_
    refine restores_bind (restores_value fuel _) fun ⟨key, c⟩ => ?_
    dsimp only
    refine restores_ite (fun _ => ?_) fun _ => restores_throw _
    refine restores_bind (restores_value fuel _) fun ⟨item, c⟩ => ?_
    dsimp only
    cases c.skipBlanks.rest with
    | nil => exact restores_throw _
    | cons x rest =>
      refine restores_ite (fun _ => ?_) fun _ => ?_
      · exact restores_bind (restores_fields fuel _) fun _ => restores_pure _
      · exact restores_ite (fun _ => restores_pure _) fun _ => restores_throw _

end

theorem restores_read (cs : List Char) : Restores (read cs) := by
  rw [read]
  refine restores_bind (restores_value _ _) fun ⟨result, c⟩ => ?_
  exact restores_ite (fun _ => restores_pure _) fun _ => restores_throw _

end Counted

open Counted (result_bind result_ite result_liftExcept result_nested restores_bind restores_pure
  restores_value
  restores_items restores_fields)

/-- What is left to do of a value inside `depth` brackets when one step of fuel is taken. The
reader keeps this number in a state; here it is a number like any other, which brackets raise for
what they hold. -/
theorem value_succ (fuel depth : Nat) (c : Cursor) :
    value (fuel + 1) depth c =
      match c.skipBlanks.rest with
      | [] => .error .unexpectedEnd
      | x :: _ =>
        if x = '[' || x = '(' || x = '\x7b' then
          if maxDepth ≤ depth then .error (.tooDeep c.skipBlanks.offset)
          else if x = '[' then do
            let (items, c) ← items ']' fuel (depth + 1) (c.skipBlanks.advance 1)
            return (.array items, c)
          else if x = '(' then do
            let (items, c) ← items ')' fuel (depth + 1) (c.skipBlanks.advance 1)
            return (.array items, c)
          else do
            let (fields, c) ← fields fuel (depth + 1) (c.skipBlanks.advance 1)
            return (.ofFields fields, c)
        else if isQuote x then string fuel c.skipBlanks
        else if x = '-' || x = '+' || x.isDigit then number c.skipBlanks
        else if x.isAlpha then word fuel c.skipBlanks
        else .error (.unexpectedCharacter x c.skipBlanks.offset) := by
  have hitems (close : Char) (offset : Nat) (c : Cursor) :
      (Counted.nested offset do
        let (items, c) ← Counted.items close fuel c
        return (Json.array items, c)).result depth =
      if maxDepth ≤ depth then .error (.tooDeep offset) else do
        let (items, c) ← items close fuel (depth + 1) c
        return (.array items, c) := by
    rw [result_nested _ (restores_bind (restores_items close fuel c) fun _ => restores_pure _),
      result_bind (restores_items close fuel c)]
    rfl
  have hfields (offset : Nat) (c : Cursor) :
      (Counted.nested offset do
        let (fields, c) ← Counted.fields fuel c
        return (Json.ofFields fields, c)).result depth =
      if maxDepth ≤ depth then .error (.tooDeep offset) else do
        let (fields, c) ← fields fuel (depth + 1) c
        return (.ofFields fields, c) := by
    rw [result_nested _ (restores_bind (restores_fields fuel c) fun _ => restores_pure _),
      result_bind (restores_fields fuel c)]
    rfl
  rw [value, Counted.value]
  dsimp only
  cases hrest : c.skipBlanks.rest with
  | nil => rfl
  | cons x rest =>
    by_cases hopen : x = '[' ∨ x = '(' ∨ x = '\x7b'
    · rcases hopen with rfl | rfl | rfl
      · exact hitems ']' _ _
      · exact hitems ')' _ _
      · exact hfields _ _
    · obtain ⟨hlist, htuple, hdict⟩ : x ≠ '[' ∧ x ≠ '(' ∧ x ≠ '\x7b' := by
        simpa only [not_or] using hopen
      simp only [hlist, htuple, hdict, decide_false, Bool.or_self, Bool.false_eq_true, if_false,
        result_ite, result_liftExcept]
      rfl

/-- One more step of the items of a list. The bracket that closes it is looked for first;
otherwise there is an item, and a comma or that bracket behind it. -/
theorem items_succ (close : Char) (fuel depth : Nat) (c : Cursor) :
    items close (fuel + 1) depth c =
      if c.skipBlanks.rest.head? = some close then .ok ([], c.skipBlanks.advance 1)
      else (do
        let (item, c) ← value fuel depth c.skipBlanks
        let c := c.skipBlanks
        match c.rest with
        | [] => .error (.expectedSeparator close none)
        | x :: _ =>
          if x = ',' then do
            let (rest, c) ← items close fuel depth (c.advance 1)
            return (item :: rest, c)
          else if x = close then return ([item], c.advance 1)
          else .error (.expectedSeparator close (some x))) := by
  rw [items, Counted.items]
  dsimp only
  rw [result_ite]
  split
  · rfl
  rw [result_bind (restores_value fuel _)]
  congr 1
  funext ⟨item, c⟩
  dsimp only
  cases c.skipBlanks.rest with
  | nil => rfl
  | cons x rest =>
    rw [result_ite, result_ite, result_bind (restores_items close fuel _)]
    rfl

/-- One more step of the fields of a dict. The brace that closes it is looked for first;
otherwise there is a key, a colon and a value, and what follows decides whether there is another
field. -/
theorem fields_succ (fuel depth : Nat) (c : Cursor) :
    fields (fuel + 1) depth c =
      if c.skipBlanks.rest.head? = some '\x7d' then .ok ([], c.skipBlanks.advance 1)
      else (do
        let (key, c) ← value fuel depth c.skipBlanks
        let key := keyText key
        let c := c.skipBlanks
        if c.rest.head? = some ':' then do
          let (item, c) ← value fuel depth (c.advance 1)
          let c := c.skipBlanks
          match c.rest with
          | [] => .error (.expectedSeparator '\x7d' none)
          | x :: _ =>
            if x = ',' then do
              let (rest, c) ← fields fuel depth (c.advance 1)
              return ((key, item) :: rest, c)
            else if x = '\x7d' then return ([(key, item)], c.advance 1)
            else .error (.expectedSeparator '\x7d' (some x))
        else .error (.expectedColon key)) := by
  rw [fields, Counted.fields]
  dsimp only
  rw [result_ite]
  split
  · rfl
  rw [result_bind (restores_value fuel _)]
  congr 1
  funext ⟨key, c⟩
  dsimp only
  rw [result_ite]
  split
  · rw [result_bind (restores_value fuel _)]
    congr 1
    funext ⟨item, c⟩
    dsimp only
    cases c.skipBlanks.rest with
    | nil => rfl
    | cons x rest =>
      rw [result_ite, result_ite, result_bind (restores_fields fuel _)]
      rfl
  · rfl

theorem read_eq (cs : List Char) : read cs = (do
    let (result, c) ← value (2 * cs.length + 2) 0 (Cursor.ofList cs)
    let c := c.skipBlanks
    if c.rest.isEmpty then return result else .error (.trailing c.offset)) := by
  rw [read, Counted.read, result_bind (restores_value _ _)]
  congr 1
  funext ⟨result, c⟩
  exact result_ite _ _

end Subtitling.Catalog.Literal
