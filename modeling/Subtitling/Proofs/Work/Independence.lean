import Mathlib.Data.List.Pairwise
import Subtitling.Proofs.Catalog.Rows
import Subtitling.Proofs.Work.Deed

/-!
Units that keep out of each other's way. What a unit does can be told from the tree as it was
before any of them ran, as long as no other writes where it writes or reads, and the backend
answers the same at any time. So such units leave the same files and the same rows in whatever
order they are worked on, also when parts of the work on one come between parts of the work on
another.
-/

namespace Subtitling.Work

open Files (Apart Beside Change Clear Lasting Location View)

/-- Where the first of two units writes is neither where the second does nor where the path that
it reads ends, nor above or inside one of these. -/
def WorkUnit.Spares (look : View) (u v : WorkUnit) : Prop :=
  ∃ place other, look.denoted u.destination = .ok place ∧ look.denoted v.destination = .ok other ∧
    Apart other place ∧ Clear look place v.sourcePath

instance (look : View) (u v : WorkUnit) : Decidable (u.Spares look v) :=
  match hu : look.denoted u.destination, hv : look.denoted v.destination with
  | .ok place, .ok other =>
    decidable_of_iff (Apart other place ∧ Clear look place v.sourcePath) <| by
      rw [WorkUnit.Spares, hu, hv]
      simp
  | .error _, _ => .isFalse <| by
      rw [WorkUnit.Spares, hu]
      simp
  | .ok _, .error _ => .isFalse <| by
      rw [WorkUnit.Spares, hv]
      simp

/-- Each of the units writes at a place of its own, and none is in the way of another. -/
structure Separate (look : View) (us : List WorkUnit) : Prop where
  denoted : ∀ u ∈ us, ∃ place, look.denoted u.destination = .ok place
  spares : us.Pairwise fun u v => u.Spares look v ∧ v.Spares look u

instance (look : View) (us : List WorkUnit) : Decidable (Separate look us) :=
  decidable_of_iff ((∀ u ∈ us, (look.denoted u.destination).isOk = true) ∧
    us.Pairwise fun u v => u.Spares look v ∧ v.Spares look u) <| by
      have hdenoted (path : String) :
          (look.denoted path).isOk = true ↔ ∃ place, look.denoted path = .ok place := by
        cases look.denoted path <;> simp [Except.isOk, Except.toBool]
      simp only [hdenoted]
      exact ⟨fun h => ⟨h.1, h.2⟩, fun h => ⟨h.denoted, h.spares⟩⟩

section

variable {look : View} {us vs : List WorkUnit}

theorem Separate.perm (hus : Separate look us) (h : us.Perm vs) : Separate look vs where
  denoted v hv := hus.denoted v (h.mem_iff.mpr hv)
  spares := (h.pairwise_iff fun hspares => hspares.symm).mp hus.spares

theorem Separate.sublist (hus : Separate look us) (h : vs.Sublist us) : Separate look vs where
  denoted v hv := hus.denoted v (h.subset hv)
  spares := hus.spares.sublist h

theorem WorkUnit.Spares.apart {u v : WorkUnit} (h : u.Spares look v) :
    Apart (v.place look) (u.place look) := by
  obtain ⟨place, other, hplace, hother, hapart, -⟩ := h
  rwa [u.place_eq look place hplace, v.place_eq look other hother]

end

section

variable (around : Surroundings) (answer : Answering) (files : Files.Tree)

def after (us : List WorkUnit) : View :=
  us.foldl (fun look u => (u.deed around answer files).change.apply look) files.lookup

def entries (us : List WorkUnit) : List Catalog.Entry :=
  us.flatMap fun u => (u.deed around answer files).added

variable {files} (us : List WorkUnit) (hus : Separate files.lookup us)
include hus

/-- What was there lasts, everything still lies in a directory, and what lies apart from all the
places of the units is as it was. -/
theorem after_spec (hfiles : View.Grounded files.lookup) :
    View.Grounded (after around answer files us) ∧
      Lasting files.lookup (after around answer files us) ∧
      ∀ place, (∀ u ∈ us, Apart place (u.place files.lookup)) →
        Beside place files.lookup (after around answer files us) := by
  -- From the back, as the last unit is the one that changes the tree that the others left.
  induction us using List.reverseRecOn with
  | nil => exact ⟨hfiles, Lasting.refl _, fun place _ => Beside.refl place _⟩
  | append_singleton us u ih =>
    obtain ⟨hgrounded, hlasting, hbeside⟩ := ih (hus.sublist (List.sublist_append_left us [u]))
    have hafter : after around answer files (us ++ [u]) =
        (u.deed around answer files).change.apply (after around answer files us) := by
      rw [after, List.foldl_append]
      rfl
    obtain ⟨hat, hfree⟩ := u.change_deed around answer files
    obtain ⟨place, hdenoted⟩ := hus.denoted u (by simp)
    rw [u.place_eq _ place hdenoted] at hat
    have hown : Beside place files.lookup (after around answer files us) := by
      apply hbeside
      intro v hv
      have hspares := ((List.pairwise_append.mp hus.spares).2.2 v hv u (by simp)).1
      exact u.place_eq _ place hdenoted ▸ hspares.apart
    -- What a unit does is told from the first tree, so that it takes no directory's place has to be
    -- carried over to the tree that it is done in.
    have hfreeNow : (u.deed around answer files).change.IsFree (after around answer files us) := by
      cases hchange : (u.deed around answer files).change with
      | nothing => trivial
      | directories at' => trivial
      | file at' content =>
        rw [hchange] at hat hfree
        obtain rfl : at' = place := hat
        rw [Change.IsFree, hown.same]
        exact hfree
    have hagain := Files.denoted_of_beside hfiles hlasting u.destination place hown hdenoted
    obtain ⟨-, -, name, parent, -, -, -, -, -, rfl, hinside⟩ := Files.exists_name _ hgrounded
      u.destination place u.endsInName_destination hagain
    rw [hafter]
    refine ⟨hgrounded.apply _ _ hat hfreeNow ?_, hlasting.trans (Change.lasting _ _ hfreeNow), ?_⟩
    · rw [List.dropLast_concat]
      exact hinside
    · intro other hother
      have hbefore := hbeside other fun v hv => hother v (by simp [hv])
      exact hbefore.apply _ hat (u.place_eq _ _ hdenoted ▸ hother u (by simp))

/-- The order of the units makes no difference to the tree. -/
theorem after_perm (vs : List WorkUnit) (h : us.Perm vs) :
    after around answer files us = after around answer files vs := by
  apply h.foldl_eq'
  intro u hu v hv look
  by_cases huv : u = v
  · rw [huv]
  · have hsymm : Std.Symm fun u v : WorkUnit =>
        u.Spares files.lookup v ∧ v.Spares files.lookup u := ⟨fun _ _ hspares => hspares.symm⟩
    have hspares := hus.spares.forall hu hv huv
    exact Change.apply_comm _ _ _ _ (v.change_deed around answer files).1
      (u.change_deed around answer files).1 hspares.1.apart look

end

/-- A world in which just the units `us` have written and just the units `vs` have come to their
ends, and nothing else has been done, since it was in another state. -/
structure Worked (around : Surroundings) (answer : Answering) (start : World)
    (us vs : List WorkUnit) (w : World) : Prop where
  files : w.files.lookup = after around answer start.files us
  store : w.store = (entries around answer start.files vs).foldl Catalog.Store.addEntry start.store
  uncancelled : w.session.cancelled = false

section

variable {around : Surroundings} {answer : Answering} {start w : World} {us vs : List WorkUnit}

theorem worked_start (h : start.session.cancelled = false) :
    Worked around answer start [] [] start :=
  ⟨rfl, rfl, h⟩

/-- For a unit that keeps out of the way of those that have written, the tree is as it was. They
changed only places apart from where it reads and writes, and directories that it would have made
itself. -/
theorem Worked.undisturbed (hw : Worked around answer start us vs w)
    (hstart : View.Grounded start.files.lookup) (u : WorkUnit)
    (hus : Separate start.files.lookup (us ++ [u])) : u.Undisturbed start.files w := by
  obtain ⟨hgrounded, hlasting, hbeside⟩ := after_spec around answer us
    (hus.sublist (List.sublist_append_left us [u])) hstart
  rw [← hw.files] at hgrounded hlasting hbeside
  have hspares (v : WorkUnit) (hv : v ∈ us) : v.Spares start.files.lookup u :=
    ((List.pairwise_append.mp hus.spares).2.2 v hv u (by simp)).1
  obtain ⟨place, hdenoted⟩ := hus.denoted u (by simp)
  have hplace := u.place_eq _ place hdenoted
  have hown : Beside place start.files.lookup w.files.lookup :=
    hbeside place fun v hv => hplace ▸ (hspares v hv).apart
  refine ⟨hgrounded, ?_,
    hplace ▸ Files.denoted_of_beside hstart hlasting u.destination place hown hdenoted,
    hplace ▸ hown.same⟩
  apply Files.read_of_beside start.files w.files hstart hgrounded hlasting u.sourcePath
  intro other hother
  apply hbeside
  intro v hv
  obtain ⟨writes, _, hwrites, -, -, hclear⟩ := hspares v hv
  rw [v.place_eq _ writes hwrites]
  exact hclear other hother

/-- One part of the work on one more unit. It goes on as it would have done at the start. Once it
has written it is among those that wrote, and once it has ended among those that ran. -/
theorem Worked.advance (hw : Worked around answer start us vs w) (hsteady : around.Steady answer)
    (hstart : View.Grounded start.files.lookup) (u : WorkUnit) (part : WorkUnit.Part)
    (howes : u.Owes around answer start.files part)
    (hus : part.isWritten = false → Separate start.files.lookup (us ++ [u]))
    (result : WorkUnit.Part ⊕ Except Error String) (later : World)
    (h : u.advance around part w = (result, later)) :
    (∀ next, result = .inl next → part.isWritten = false ∧
      u.Owes around answer start.files next ∧
      Worked around answer start (if next.isWritten then us ++ [u] else us) vs later) ∧
    ∀ ending, result = .inr ending → ending = (u.deed around answer start.files).result ∧
      Worked around answer start (if part.isWritten then us else us ++ [u]) (vs ++ [u]) later := by
  have hfollows := u.follows_advance hsteady start.files w hw.uncancelled part howes
    fun hpart => hw.undisturbed hstart u (hus hpart)
  have hmore : after around answer start.files (us ++ [u]) =
      (u.deed around answer start.files).change.apply w.files.lookup := by
    rw [hw.files, after, after, List.foldl_append]
    rfl
  rw [h] at hfollows
  cases hfollows with
  | passes next later owes before changed store uncancelled =>
    refine ⟨?_, nofun⟩
    rintro _ ⟨⟩
    refine ⟨before, owes, ?_, store.trans hw.store, uncancelled⟩
    rw [changed]
    split
    · exact hmore.symm
    · exact hw.files
  | ends ending later told changed store uncancelled =>
    refine ⟨nofun, ?_⟩
    rintro _ ⟨⟩
    refine ⟨told, ?_, ?_, uncancelled⟩
    · rw [changed]
      split
      · exact hw.files
      · exact hmore.symm
    · rw [store, hw.store, entries, entries, List.flatMap_append, List.foldl_append,
        List.flatMap_singleton]

/-- The work on one more unit from some part on, with no other turn between. The parts are taken
one by one, and each keeps what the next one needs. -/
theorem Worked.completes (hsteady : around.Steady answer)
    (hstart : View.Grounded start.files.lookup) (u : WorkUnit)
    (hus : Separate start.files.lookup (us ++ [u])) (part : WorkUnit.Part)
    (ending : Except Error String × World) (h : u.Completes around part w ending)
    (howes : u.Owes around answer start.files part)
    (hw : Worked around answer start (if part.isWritten then us ++ [u] else us) vs w) :
    ending.1 = (u.deed around answer start.files).result ∧
      Worked around answer start (us ++ [u]) (vs ++ [u]) ending.2 := by
  -- By induction on the parts that are left, as each starts from what the one before has left.
  induction h with
  | @ends part w later result hends =>
    cases hwritten : part.isWritten with
    | true =>
      simp only [hwritten, if_true] at hw
      obtain ⟨-, hlast⟩ := hw.advance hsteady hstart u part howes (by simp [hwritten]) _ _ hends
      simpa [hwritten] using hlast result rfl
    | false =>
      simp only [hwritten, Bool.false_eq_true, if_false] at hw
      obtain ⟨-, hlast⟩ := hw.advance hsteady hstart u part howes (fun _ => hus) _ _ hends
      simpa [hwritten] using hlast result rfl
  | @passes part next w later ending hpasses rest ih =>
    cases hwritten : part.isWritten with
    | true =>
      simp only [hwritten, if_true] at hw
      obtain ⟨hgoes, -⟩ := hw.advance hsteady hstart u part howes (by simp [hwritten]) _ _ hpasses
      cases hwritten.symm.trans (hgoes next rfl).1
    | false =>
      simp only [hwritten, Bool.false_eq_true, if_false] at hw
      obtain ⟨hgoes, -⟩ := hw.advance hsteady hstart u part howes (fun _ => hus) _ _ hpasses
      obtain ⟨-, howesNext, hnext⟩ := hgoes next rfl
      exact ih howesNext hnext

/-- One more unit does what it would have done at the start. -/
theorem Worked.run (hw : Worked around answer start us vs w) (hsteady : around.Steady answer)
    (hstart : View.Grounded start.files.lookup) (u : WorkUnit)
    (hus : Separate start.files.lookup (us ++ [u])) :
    (u.run around w).1 = (u.deed around answer start.files).result ∧
      Worked around answer start (us ++ [u]) (vs ++ [u]) (u.run around w).2 :=
  Worked.completes hsteady hstart u hus .begun _ (u.completes_run around w) trivial hw

/-- Worlds in which the same units have been worked on have the same files, and the same rows
under the same numbers but for which has which. -/
theorem Worked.agree {other : World} {us' vs' : List WorkUnit}
    (hw : Worked around answer start us vs w) (hother : Worked around answer start us' vs' other)
    (hwrote : us.Perm us') (hended : vs.Perm vs') (hus : Separate start.files.lookup us) :
    w.files.lookup = other.files.lookup ∧
      (w.store.history.map Catalog.Row.withoutId).Perm
        (other.store.history.map Catalog.Row.withoutId) ∧
      w.store.history.map Catalog.Row.id = other.store.history.map Catalog.Row.id := by
  rw [hw.files, hother.files, hw.store, hother.store]
  have hentries :
      (entries around answer start.files vs).Perm (entries around answer start.files vs') :=
    hended.flatMap_right _
  exact ⟨after_perm around answer us hus us' hwrote, start.store.history_of_perm _ _ hentries⟩

end

end Subtitling.Work
