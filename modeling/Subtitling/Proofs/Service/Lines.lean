import Mathlib.Data.List.Forall2
import Subtitling.Service.Lines

/-!
Which values are lists of translated lines. A record is readable exactly when it carries a position
of 64 bits and a text, and a list is readable exactly when every record in it is; the lines are then
those of the records, one for each and in their order.
-/

namespace Subtitling.Service

open Subtitle (Line)

/-- The record has the position and the text of a line, whatever else it has. -/
structure Carries (record : Json) (line : Line) : Prop where
  position : record.get? "position" = some (Json.ofInt line.position)
  lower : -(Nat.pow 2 63 : Int) ≤ line.position
  upper : line.position < Nat.pow 2 63
  text : record.get? "line" = some (.string line.text)

/-- A value is taken for a number of 64 bits just where it is that whole number as it was
written; a binary number is never one, though it may be whole. -/
theorem asWord_eq_some_iff (value : Json) (n : Int) :
    value.asWord? = some n ↔ value = Json.ofInt n ∧ -(Nat.pow 2 63 : Int) ≤ n ∧
      n < Nat.pow 2 63 := by
  constructor
  · intro h
    cases value with
    | number m =>
      cases m with
      | int k =>
        simp only [Json.asWord?] at h
        split at h
        · rename_i hk
          obtain rfl := Option.some.inj h
          exact ⟨rfl, hk⟩
        · cases h
      | real x => cases h
    | null => cases h
    | bool b => cases h
    | string s => cases h
    | array items => cases h
    | object fields => cases h
  · rintro ⟨rfl, hn⟩
    simp only [Json.asWord?, Json.ofInt, if_pos hn]

theorem asString_eq_some_iff (value : Json) (s : String) :
    value.asString? = some s ↔ value = .string s := by
  cases value <;> simp [Json.asString?]

theorem readLine_eq_some_iff (record : Json) (line : Line) :
    readLine? record = some line ↔ Carries record line := by
  constructor
  · intro h
    simp only [readLine?, bind, Option.bind_eq_some_iff, pure, Option.some.injEq] at h
    obtain ⟨position, ⟨value, hvalue, hposition⟩, text, ⟨written, hwritten, htext⟩, rfl⟩ := h
    obtain ⟨rfl, hlower, hupper⟩ := (asWord_eq_some_iff value position).mp hposition
    obtain rfl := (asString_eq_some_iff written text).mp htext
    exact ⟨hvalue, hlower, hupper, hwritten⟩
  · rintro ⟨hposition, hlower, hupper, htext⟩
    have hword : (Json.ofInt line.position).asWord? = some line.position :=
      (asWord_eq_some_iff _ _).mpr ⟨rfl, hlower, hupper⟩
    simp [readLine?, hposition, htext, hword, Json.asString?]

theorem readRecord_eq_ok_iff (record : Json) (line : Line) :
    readRecord record = .ok line ↔ Carries record line := by
  rw [← readLine_eq_some_iff, readRecord]
  cases readLine? record <;> simp

/-- Every record gives one line, and one bad record makes the whole list unreadable. The order is
kept, and no record is left out for want of a text. -/
theorem readRecords_eq_ok_iff (records : List Json) (lines : List Line) :
    readRecords records = .ok lines ↔ List.Forall₂ Carries records lines := by
  induction records generalizing lines with
  | nil => simp [readRecords, eq_comm]
  | cons record rest ih =>
    rw [List.forall₂_cons_left_iff]
    constructor
    · intro h
      simp only [readRecords] at h
      cases hrecord : readRecord record with
      | error e => rw [hrecord] at h; cases h
      | ok line =>
        cases hrest : readRecords rest with
        | error e => rw [hrecord, hrest] at h; cases h
        | ok more =>
          rw [hrecord, hrest] at h
          obtain rfl := Except.ok.inj h
          exact ⟨line, more, (readRecord_eq_ok_iff record line).mp hrecord,
            (ih more).mp hrest, rfl⟩
    · rintro ⟨line, more, hline, hmore, rfl⟩
      have hrecord := (readRecord_eq_ok_iff record line).mpr hline
      have hrest := (ih more).mpr hmore
      simp only [readRecords, hrecord, hrest]
      rfl

theorem readLines_eq_ok_iff (value : Json) (lines : List Line) :
    readLines value = .ok lines ↔
      ∃ records, value = .array records ∧ List.Forall₂ Carries records lines := by
  cases value with
  | array records => simp [readLines, readRecords_eq_ok_iff]
  | null => simp [readLines]
  | bool b => simp [readLines]
  | number n => simp [readLines]
  | string s => simp [readLines]
  | object fields => simp [readLines]

/-- Records fail in one way only, which is that one of them cannot be read. -/
theorem readRecords_error (records : List Json) (e : Error) (h : readRecords records = .error e) :
    ∃ detail, e = .malformed detail := by
  induction records with
  | nil => cases h
  | cons record rest ih =>
    simp only [readRecords] at h
    cases hrecord : readRecord record with
    | error failure =>
      rw [hrecord] at h
      obtain rfl := Except.error.inj h
      simp only [readRecord] at hrecord
      split at hrecord
      · cases hrecord
      · exact ⟨_, (Except.error.inj hrecord).symm⟩
    | ok line =>
      cases hrest : readRecords rest with
      | error failure =>
        rw [hrecord, hrest] at h
        obtain rfl := Except.error.inj h
        exact ih hrest
      | ok lines =>
        rw [hrecord, hrest] at h
        cases h

theorem readLines_error (value : Json) (e : Error) (h : readLines value = .error e) :
    ∃ detail, e = .malformed detail := by
  cases value with
  | array records => exact readRecords_error records e h
  | null => exact ⟨_, (Except.error.inj h).symm⟩
  | bool b => exact ⟨_, (Except.error.inj h).symm⟩
  | number n => exact ⟨_, (Except.error.inj h).symm⟩
  | string s => exact ⟨_, (Except.error.inj h).symm⟩
  | object fields => exact ⟨_, (Except.error.inj h).symm⟩

end Subtitling.Service
