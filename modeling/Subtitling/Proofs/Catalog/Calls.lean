import Mathlib.Data.List.Induction
import Mathlib.Data.List.Range
import Subtitling.Catalog.Connection

/-!
What a catalog answers after any calls on it. An episode or a movie reads back as the record that
was last put in under its id, and the history reads back as the entries that were added, with the
newest first and under ids that grow. Each of the three tables has its own calls, and what it
answers depends on those alone. The one call that can be refused is an addition to a history that
has used up its ids.
-/

namespace Subtitling.Catalog

theorem parse_name (kind : Media.Kind) : Media.Kind.parse? kind.name = some kind := by
  cases kind <;> decide +kernel

/-- The row of an entry reads back as the entry under its id. -/
theorem Entry.read_row (e : Entry) (id : Nat) : (e.row id).read = .ok (id, e) := by
  simp [Row.read, Row.entry, Entry.row, parse_name, Action.ofCode_code, Except.map]

/-- A row takes over all of a record with its id. -/
theorem Episode.takeOver_eq (e new : Episode) (h : e.id = new.id) : e.takeOver new = new := by
  rw [takeOver, h]

theorem Movie.takeOver_eq (m new : Movie) (h : m.id = new.id) : m.takeOver new = new := by
  rw [takeOver, h]

/-- Under its id a record is found once it was put in, and under others what was found before.
The condition says that a record takes over all of the row that has its id, so that nothing of
the old one shows. -/
theorem Store.find_put {α : Type} (key : α → Int) (update : α → α → α) (record : α) (rows : List α)
    (hupdate : ∀ r, key r = key record → update r record = record) (id : Int) :
    (put key update record rows).find? (fun r => decide (key r = id)) =
      ((some record).filter fun r => decide (key r = id)).or
        (rows.find? fun r => decide (key r = id)) := by
  induction rows with
  | nil => by_cases hid : key record = id <;> simp [put, Option.filter, hid]
  | cons r rest ih =>
    rw [put]
    split
    · rename_i hkey
      rw [hupdate r hkey, List.find?_cons, List.find?_cons, hkey]
      by_cases hid : key record = id <;> simp [Option.filter, hid]
    · rename_i hkey
      rw [List.find?_cons, List.find?_cons, ih]
      by_cases hid : key record = id
      · have hother : key r ≠ id := fun heq => hkey (heq.trans hid.symm)
        simp [Option.filter, hid, hother]
      · simp [Option.filter, hid]

inductive Call
  | putEpisode (e : Episode)
  | putMovie (m : Movie)
  | addEntry (e : Entry)

def Call.episode? : Call → Option Episode
  | .putEpisode e => some e
  | _ => none

def Call.movie? : Call → Option Movie
  | .putMovie m => some m
  | _ => none

def Call.entry? : Call → Option Entry
  | .addEntry e => some e
  | _ => none

/-- The record that some calls put in last under an id. -/
def lastUnder {α : Type} (key : α → Int) (id : Int) (records : List α) : Option α :=
  (records.filter fun r => decide (key r = id)).getLast?

/-- A later call decides if it puts in a record under the id. -/
theorem lastUnder_append_singleton {α : Type} (key : α → Int) (id : Int) (record? : Call → Option α)
    (calls : List Call) (call : Call) :
    lastUnder key id ((calls ++ [call]).filterMap record?) =
      ((record? call).filter fun r => decide (key r = id)).or
        (lastUnder key id (calls.filterMap record?)) := by
  rw [List.filterMap_append, lastUnder, List.filter_append]
  cases hcall : record? call with
  | none => simp [hcall, lastUnder]
  | some r => by_cases h : key r = id <;> simp [hcall, h, lastUnder, Option.filter]

/-- The entries that calls add to an empty history: the first ones, as many as there are ids. -/
def added (calls : List Call) : List Entry := (calls.filterMap Call.entry?).take Store.maxId

/-- Entries with the ids that they get in an empty history, newest first. -/
def numbered (entries : List Entry) :
    List (Nat × Entry) := ((entries.zipIdx 1).map Prod.swap).reverse

theorem numbered_append_singleton (entries : List Entry) (e : Entry) :
    numbered (entries ++ [e]) = (entries.length + 1, e) :: numbered entries := by
  simp [numbered, List.zipIdx_append, Nat.add_comm]

theorem length_numbered (entries : List Entry) : (numbered entries).length = entries.length := by
  simp [numbered]

theorem map_snd_numbered (entries : List Entry) :
    (numbered entries).map Prod.snd = entries.reverse := by
  rw [numbered, List.map_reverse, List.map_map]
  congr 1
  have hswap : Prod.snd ∘ Prod.swap = (Prod.fst : Entry × Nat → Entry) := rfl
  rw [hswap, List.zipIdx_map_fst]

/-- Newer entries have greater ids. -/
theorem pairwise_fst_numbered (entries : List Entry) :
    ((numbered entries).map Prod.fst).Pairwise (· > ·) := by
  induction entries using List.reverseRecOn with
  | nil => simp [numbered]
  | append_singleton before e ih =>
    rw [numbered_append_singleton, List.map_cons, List.pairwise_cons]
    refine ⟨fun id hid => ?_, ih⟩
    simp only [numbered, List.map_reverse, List.map_map, List.mem_reverse, List.mem_map] at hid
    obtain ⟨⟨entry, n⟩, hmem, rfl⟩ := hid
    have hbound := (List.mem_zipIdx hmem).2.1
    simp only [Function.comp_apply, Prod.swap_prod_mk]
    omega

namespace Store

/-- What a call makes of the tables. Without an id left, an entry is not added. -/
def perform (s : Store) : Call → Store
  | .putEpisode e => s.putEpisode e
  | .putMovie m => s.putMovie m
  | .addEntry e => if s.isFull then s else s.addEntry e

def performAll (s : Store) (calls : List Call) : Store := calls.foldl perform s

theorem performAll_append_singleton (s : Store) (calls : List Call) (call : Call) :
    s.performAll (calls ++ [call]) = (s.performAll calls).perform call :=
  List.foldl_concat perform s call calls

theorem episode_perform (s : Store) (call : Call) (id : Int) : (s.perform call).episode? id =
    ((call.episode?).filter fun e => decide (e.id = id)).or (s.episode? id) := by
  cases call with
  | putEpisode e =>
    exact find_put Episode.id Episode.takeOver e s.episodes (fun r => r.takeOver_eq e) id
  | putMovie m => rfl
  | addEntry e =>
    rw [perform]
    split <;> rfl

theorem movie_perform (s : Store) (call : Call) (id : Int) : (s.perform call).movie? id =
    ((call.movie?).filter fun m => decide (m.id = id)).or (s.movie? id) := by
  cases call with
  | putEpisode e => rfl
  | putMovie m => exact find_put Movie.id Movie.takeOver m s.movies (fun r => r.takeOver_eq m) id
  | addEntry e =>
    rw [perform]
    split <;> rfl

theorem episode_performAll (calls : List Call) (id : Int) :
    (empty.performAll calls).episode? id =
      lastUnder Episode.id id (calls.filterMap Call.episode?) := by
  induction calls using List.reverseRecOn with
  | nil => rfl
  | append_singleton before call ih =>
    rw [performAll_append_singleton, episode_perform, ih, lastUnder_append_singleton]

theorem movie_performAll (calls : List Call) (id : Int) :
    (empty.performAll calls).movie? id = lastUnder Movie.id id (calls.filterMap Call.movie?) := by
  induction calls using List.reverseRecOn with
  | nil => rfl
  | append_singleton before call ih =>
    rw [performAll_append_singleton, movie_perform, ih, lastUnder_append_singleton]

/-- The history holds some entries, under the ids that they got one after the other. -/
def Holds (s : Store) (entries : List Entry) : Prop :=
  s.history = (numbered entries).map fun record => record.2.row record.1

theorem Holds.nextId {s : Store} {entries : List Entry} (h : s.Holds entries) :
    s.nextId = entries.length + 1 := by
  rw [Holds] at h
  induction entries using List.reverseRecOn with
  | nil =>
    have hempty : s.history = [] := h
    rw [Store.nextId, hempty]
    rfl
  | append_singleton before e _ =>
    rw [numbered_append_singleton, List.map_cons] at h
    rw [Store.nextId, h, List.length_append]
    rfl

theorem Holds.addEntry {s : Store} {entries : List Entry} (h : s.Holds entries) (e : Entry) :
    (s.addEntry e).Holds (entries ++ [e]) := by
  rw [Holds, numbered_append_singleton, List.map_cons, Store.addEntry, addRow, h.nextId]
  exact congrArg (List.cons _) h

/-- There is an id left as long as not all have been given to entries. -/
theorem Holds.isFull_iff {s : Store} {entries : List Entry} (h : s.Holds entries) :
    s.isFull = true ↔ maxId ≤ entries.length := by
  rw [isFull, h.nextId, decide_eq_true_eq, Nat.lt_succ_iff]

/-- Calls on the other tables add no entry. -/
theorem added_append_of_none (calls more : List Call) (h : ∀ call ∈ more, call.entry? = none) :
    added (calls ++ more) = added calls := by
  rw [added, added, List.filterMap_append, List.filterMap_eq_nil_iff.mpr h, List.append_nil]

/-- The history after any calls, by induction from the last call on. Its rows are the entries
that were added, numbered from one, until no id is left; from there on an addition changes
nothing. -/
theorem holds_performAll (calls : List Call) : (empty.performAll calls).Holds (added calls) := by
  induction calls using List.reverseRecOn with
  | nil => rfl
  | append_singleton before call ih =>
    rw [performAll_append_singleton]
    cases call with
    | putEpisode e =>
      rw [added_append_of_none before [.putEpisode e] (by simp [Call.entry?])]
      exact ih
    | putMovie m =>
      rw [added_append_of_none before [.putMovie m] (by simp [Call.entry?])]
      exact ih
    | addEntry e =>
      have hfull := ih.isFull_iff
      have hadded : added (before ++ [.addEntry e]) =
          added before ++ [e].take (maxId - (before.filterMap Call.entry?).length) := by
        simp [added, List.filterMap_append, Call.entry?, List.take_append]
      have hlength : (added before).length = min maxId (before.filterMap Call.entry?).length :=
        List.length_take
      rw [perform, hadded]
      split
      · rename_i hno
        have hnone : maxId - (before.filterMap Call.entry?).length = 0 := by
          have hle := hfull.mp hno
          omega
        rwa [hnone, List.take_zero, List.append_nil]
      · rename_i hyes
        have hsome : 1 ≤ maxId - (before.filterMap Call.entry?).length := by
          have hlt := mt hfull.mpr hyes
          omega
        rw [List.take_of_length_le hsome]
        exact ih.addEntry e

theorem mapM_read (records : List (Nat × Entry)) :
    (records.map fun record => record.2.row record.1).mapM Row.read = .ok records := by
  induction records with
  | nil => rfl
  | cons record rest ih =>
    rw [List.map_cons, List.mapM_cons, Entry.read_row, ih]
    rfl

end Store

namespace Connection

/-- A count of 64 bits keeps its value if 63 bits hold it, and is below zero otherwise. -/
theorem signedCount_eq (n : Nat) (h : n < Nat.pow 2 64) :
    signedCount n = if n ≤ Store.maxId then (n : Int) else (n : Int) - Nat.pow 2 64 := by
  have hpow : Nat.pow 2 64 = 18446744073709551616 := rfl
  have hmax : Store.maxId = 9223372036854775807 := rfl
  have hcount : signedCount n = (n : Int).bmod (Nat.pow 2 64) := rfl
  rw [hpow] at h hcount
  rw [hcount, hmax, hpow, Int.bmod, Int.emod_eq_of_lt (by omega) (by omega)]
  split <;> split <;> omega

/-- No history is longer than a limit that is taken for a number below zero. -/
theorem newestRows_signedCount (s : Store) (limit : Nat) (hlimit : limit < Nat.pow 2 64)
    (hlength : s.history.length ≤ Store.maxId) :
    s.newestRows (signedCount limit) = s.history.take limit := by
  have hpow : Nat.pow 2 64 = 18446744073709551616 := rfl
  rw [signedCount_eq limit hlimit, Store.newestRows]
  split
  · rename_i hsmall
    rw [if_neg (by omega), Int.toNat_natCast]
  · rename_i hlarge
    rw [if_pos (by omega), List.take_of_length_le (by omega)]

/-- All tables are there, and they can be changed. -/
structure IsWhole (c : Connection) : Prop where
  tables : c.tables = Schema.allTables
  refusal : c.refusal = none

theorem isWhole_fresh : fresh.IsWhole := ⟨rfl, rfl⟩

/-- What a call makes of a catalog, or why it is refused. -/
def answer (c : Connection) : Call → Except Fault Connection
  | .putEpisode e => c.putEpisode e
  | .putMovie m => c.putMovie m
  | .addEntry e => (c.addEntry e).map Prod.snd

/-- The catalog after a call. A call that is refused leaves it as it was. -/
def after (c : Connection) (call : Call) : Connection := (c.answer call).toOption.getD c

def afterAll (c : Connection) (calls : List Call) : Connection := calls.foldl after c

section
variable {c : Connection} (h : c.IsWhole)
include h

theorem IsWhole.query_eq {α : Type} (table : String) (htable : table ∈ Schema.allTables)
    (read : Store → α) : c.query table read = .ok (read c.store) := by
  have hall : ∀ table ∈ Schema.allTables, fresh.hasTable table = true := by decide
  have hthere : c.hasTable table = true := by
    rw [hasTable, h.tables]
    exact hall table htable
  rw [query, if_pos hthere]

theorem IsWhole.change_eq (table : String) (htable : table ∈ Schema.allTables) (f : Store → Store) :
    c.change table f = .ok { c with store := f c.store } := by
  rw [change, h.query_eq table htable, h.refusal]
  rfl

/-- Every call does what it is for, but for an addition when there is no id left. -/
theorem IsWhole.answer_eq (call : Call) : c.answer call =
    if call.entry?.isSome && c.store.isFull then .error .full
    else .ok { c with store := c.store.perform call } := by
  cases call with
  | putEpisode e => exact h.change_eq "episodes" (by decide) _
  | putMovie m => exact h.change_eq "movies" (by decide) _
  | addEntry e =>
    have hchange := h.change_eq "history" (by decide) fun s => s.addRow e.row
    simp only [answer, addEntry, addRow, hchange, Call.entry?, Store.perform]
    cases c.store.isFull <;> rfl

theorem IsWhole.after_eq (call : Call) :
    c.after call = { c with store := c.store.perform call } := by
  rw [after, h.answer_eq]
  split
  · rename_i hrefused
    cases call with
    | putEpisode e => simp [Call.entry?] at hrefused
    | putMovie m => simp [Call.entry?] at hrefused
    | addEntry e =>
      have hfull : c.store.isFull = true := by simpa [Call.entry?] using hrefused
      simp only [Store.perform, hfull, if_true]
      rfl
  · rfl

end

theorem IsWhole.afterAll_eq {c : Connection} (h : c.IsWhole) (calls : List Call) :
    c.afterAll calls = { c with store := c.store.performAll calls } := by
  induction calls generalizing c with
  | nil => rfl
  | cons call rest ih =>
    have hnext : (c.after call).IsWhole := by
      rw [h.after_eq]
      exact ⟨h.tables, h.refusal⟩
    have hrest := ih hnext
    rw [h.after_eq] at hrest
    rw [afterAll, List.foldl_cons, ← afterAll, h.after_eq, hrest]
    rfl

theorem isWhole_afterAll_fresh (calls : List Call) : (fresh.afterAll calls).IsWhole := by
  rw [isWhole_fresh.afterAll_eq]
  exact ⟨rfl, rfl⟩

theorem store_afterAll_fresh (calls : List Call) :
    (fresh.afterAll calls).store = Store.empty.performAll calls := by
  rw [isWhole_fresh.afterAll_eq]
  rfl

theorem newest_afterAll_fresh (calls : List Call) (limit : Nat) (hlimit : limit < Nat.pow 2 64) :
    (fresh.afterAll calls).newest limit = .ok (.ok ((numbered (added calls)).take limit)) := by
  have hholds : (Store.empty.performAll calls).history = _ := Store.holds_performAll calls
  have hlength : (Store.empty.performAll calls).history.length ≤ Store.maxId := by
    rw [hholds, List.length_map, length_numbered]
    exact List.length_take_le _ _
  rw [newest, (isWhole_afterAll_fresh calls).query_eq "history" (by decide), store_afterAll_fresh,
    Store.newest, newestRows_signedCount _ limit hlimit hlength, hholds, ← List.map_take,
    Store.mapM_read]

theorem episode_afterAll_fresh (calls : List Call) (id : Int) : (fresh.afterAll calls).episode? id =
    .ok (lastUnder Episode.id id (calls.filterMap Call.episode?)) := by
  rw [episode?, (isWhole_afterAll_fresh calls).query_eq "episodes" (by decide),
    store_afterAll_fresh, Store.episode_performAll]

theorem movie_afterAll_fresh (calls : List Call) (id : Int) : (fresh.afterAll calls).movie? id =
    .ok (lastUnder Movie.id id (calls.filterMap Call.movie?)) := by
  rw [movie?, (isWhole_afterAll_fresh calls).query_eq "movies" (by decide), store_afterAll_fresh,
    Store.movie_performAll]

/-- Only an addition can be refused, and only once as many entries were added as there are ids. -/
theorem answer_afterAll_fresh (calls : List Call) (call : Call) :
    (fresh.afterAll calls).answer call = .ok (fresh.afterAll (calls ++ [call])) ∨
      (fresh.afterAll calls).answer call = .error .full ∧
        call.entry?.isSome ∧ (added calls).length = Store.maxId := by
  have hwhole := isWhole_afterAll_fresh calls
  have hmost : (added calls).length ≤ Store.maxId := List.length_take_le _ _
  have hnext : fresh.afterAll (calls ++ [call]) = (fresh.afterAll calls).after call :=
    List.foldl_concat after fresh call calls
  rw [hnext, hwhole.after_eq, hwhole.answer_eq]
  split
  · rename_i hrefused
    rw [Bool.and_eq_true, store_afterAll_fresh,
      (Store.holds_performAll calls).isFull_iff] at hrefused
    exact .inr ⟨rfl, hrefused.1, Nat.le_antisymm hmost hrefused.2⟩
  · exact .inl rfl

/-- Whatever calls were made on a new catalog, a listing succeeds and holds the entries that were
added last, newest first and under falling ids, as many as were asked for or as there are; an id
leads to the record that was put in under it last. Calls on the other tables change none of these
answers, and every call succeeds but for additions past the last id. -/
theorem calls_read_back (calls : List Call) :
    (∀ limit < Nat.pow 2 64, ∃ listed, (fresh.afterAll calls).newest limit = .ok (.ok listed) ∧
      listed.length = min limit (added calls).length ∧
      listed.map Prod.snd = (added calls).reverse.take limit ∧
      (listed.map Prod.fst).Pairwise (· > ·)) ∧
    (∀ id, (fresh.afterAll calls).episode? id =
      .ok (lastUnder Episode.id id (calls.filterMap Call.episode?))) ∧
    (∀ id, (fresh.afterAll calls).movie? id =
      .ok (lastUnder Movie.id id (calls.filterMap Call.movie?))) ∧
    (∀ more : List Call,
      ((∀ call ∈ more, call.entry? = none) → ∀ limit < Nat.pow 2 64,
        (fresh.afterAll (calls ++ more)).newest limit = (fresh.afterAll calls).newest limit) ∧
      ((∀ call ∈ more, call.episode? = none) → ∀ id,
        (fresh.afterAll (calls ++ more)).episode? id = (fresh.afterAll calls).episode? id) ∧
      ((∀ call ∈ more, call.movie? = none) → ∀ id,
        (fresh.afterAll (calls ++ more)).movie? id = (fresh.afterAll calls).movie? id)) ∧
    ∀ call, (fresh.afterAll calls).answer call = .ok (fresh.afterAll (calls ++ [call])) ∨
      (fresh.afterAll calls).answer call = .error .full ∧
        call.entry?.isSome ∧ (added calls).length = Store.maxId := by
  refine ⟨fun limit hlimit => ?_, episode_afterAll_fresh calls, movie_afterAll_fresh calls,
    fun more => ⟨fun hnone limit hlimit => ?_, fun hnone id => ?_, fun hnone id => ?_⟩,
    answer_afterAll_fresh calls⟩
  · refine ⟨(numbered (added calls)).take limit, newest_afterAll_fresh calls limit hlimit, ?_, ?_,
      ?_⟩
    · rw [List.length_take, length_numbered]
    · rw [List.map_take, map_snd_numbered]
    · rw [List.map_take]
      exact (pairwise_fst_numbered _).sublist (List.take_sublist _ _)
  · rw [newest_afterAll_fresh _ limit hlimit, newest_afterAll_fresh _ limit hlimit,
      Store.added_append_of_none calls more hnone]
  · rw [episode_afterAll_fresh, episode_afterAll_fresh, List.filterMap_append,
      List.filterMap_eq_nil_iff.mpr hnone, List.append_nil]
  · rw [movie_afterAll_fresh, movie_afterAll_fresh, List.filterMap_append,
      List.filterMap_eq_nil_iff.mpr hnone, List.append_nil]

theorem calls_read_back_greatest_limit :
    ∃ listed, (fresh.afterAll [
        .addEntry ⟨.movie, ⟨none, none, some 7⟩, .downloaded, "fr", "", "", "found", "a.mkv",
          "a.srt", "1"⟩,
        .putMovie ⟨7, "Heat", "a.mkv", none⟩,
        .addEntry ⟨.movie, ⟨none, none, some 7⟩, .translated, "en", "fr", "en", "", "a.mkv",
          "b.srt", "2"⟩]).newest
          18446744073709551615 = .ok (.ok listed) ∧
      listed.map Prod.snd = [
        ⟨.movie, ⟨none, none, some 7⟩, .translated, "en", "fr", "en", "", "a.mkv", "b.srt", "2"⟩,
        ⟨.movie, ⟨none, none, some 7⟩, .downloaded, "fr", "", "", "found", "a.mkv", "a.srt",
          "1"⟩] := by
  obtain ⟨listed, hlisted, -, hentries, -⟩ := (calls_read_back _).1 18446744073709551615 (by decide)
  exact ⟨listed, hlisted, hentries⟩

end Connection

end Subtitling.Catalog
