import Subtitling.Proofs.Files.Change

/-!
Places that lie apart. A write to one place makes directories that others may need too, and puts
a file where no other looks, so paths to places apart from it denote what they did and read as
they did, and writes to places that lie apart come to the same in whatever order.
-/

namespace Subtitling.Files

/-- Neither of two places is the other or lies in it. -/
def Apart (place other : Location) : Prop := ¬ place <+: other ∧ ¬ other <+: place

instance (place other : Location) : Decidable (Apart place other) :=
  inferInstanceAs (Decidable (¬ place <+: other ∧ ¬ other <+: place))

theorem Apart.symm {place other : Location} (h : Apart place other) :
    Apart other place := ⟨h.2, h.1⟩

theorem Apart.ne {place other : Location} (h : Apart place other) : place ≠ other := by
  rintro rfl
  exact h.1 (List.prefix_refl place)

/-- A change that a write to a place can be. -/
def Change.At (place : Location) : Change → Prop
  | .nothing => True
  | .directories changed => changed = place
  | .file changed _ => changed = place

/-- A change that takes the place of no directory. -/
def Change.IsFree (look : View) : Change → Prop
  | .file place _ => look place ≠ some .directory
  | _ => True

theorem writeChange_at (faults : Faults) (place : Location) (content : List UInt8)
    (blocked : Bool) :
    (writeChange faults place content blocked).At place := by
  rw [writeChange]
  split
  · trivial
  · rfl
  · split <;> rfl

theorem writeChange_isFree (faults : Faults) (look : View) (place : Location)
    (content : List UInt8) :
    (writeChange faults place content (look place = some .directory)).IsFree look := by
  rw [writeChange]
  split
  · trivial
  · trivial
  · split
    · trivial
    · rename_i hblocked
      simpa [Change.IsFree] using hblocked

/-- Directories stay, and files stay files. -/
structure Lasting (look later : View) : Prop where
  directories : ∀ other, look other = some .directory → later other = some .directory
  files : ∀ other content, look other = some (.file content) →
    ∃ held, later other = some (.file held)

theorem Lasting.refl (look : View) : Lasting look look :=
  ⟨fun _ h => h, fun _ content h => ⟨content, h⟩⟩

theorem Lasting.trans {look middle later : View} (h : Lasting look middle)
    (hmore : Lasting middle later) :
    Lasting look later := by
  refine ⟨fun other hother => hmore.directories other (h.directories other hother),
    fun other content hother => ?_⟩
  obtain ⟨held, hheld⟩ := h.files other content hother
  exact hmore.files other held hheld

theorem lasting_withDirectories (look : View) (place : Location) :
    Lasting look (look.withDirectories place) := by
  refine ⟨fun other hother => ?_, fun other content hother => ⟨content, ?_⟩⟩ <;>
    rw [View.withDirectories, if_neg (by simp [hother]), hother]

theorem Change.lasting (c : Change) (look : View) (hfree : c.IsFree look) :
    Lasting look (c.apply look) := by
  cases c with
  | nothing => exact Lasting.refl look
  | directories place => exact lasting_withDirectories look place.dropLast
  | file place content =>
    have hmade := lasting_withDirectories look place.dropLast
    refine ⟨fun other hother => ?_, fun other held hother => ?_⟩
    · have hne : other ≠ place := by
        rintro rfl
        exact hfree hother
      rw [apply, View.put_of_ne _ _ _ _ hne, hmade.directories other hother]
    · by_cases heq : other = place
      · exact ⟨content, by rw [heq, apply, View.put_self]⟩
      · rw [apply, View.put_of_ne _ _ _ _ heq]
        exact hmade.files other held hother

/-- What is at a place is what was, and no file has come in the way to it. -/
structure Beside (place : Location) (look later : View) : Prop where
  way : ∀ other, other <+: place → look other = none → ∀ content, later other ≠ some (.file content)
  same : later place = look place

theorem Beside.refl (place : Location) (look : View) : Beside place look look where
  way other _ hmissing content := by simp [hmissing]
  same := rfl

theorem prefix_of_dropLast (place other : Location) (h : other <+: place.dropLast) :
    other <+: place :=
  h.trans (List.dropLast_prefix place)

/-- A change at a place apart leaves another as it is. Directories are only made where nothing
was, and a file is only put at the place of the change, which is not above the other. -/
theorem Beside.apply {place changed : Location} {look later : View} (h : Beside place look later)
    (c : Change) (hat : c.At changed) (hapart : Apart place changed) :
    Beside place look (c.apply later) := by
  have hnot : ¬ place <+: changed.dropLast :=
    fun hin => hapart.1 (prefix_of_dropLast changed place hin)
  have hmade : Beside place look (later.withDirectories changed.dropLast) := by
    refine ⟨fun other hother hmissing content => ?_, ?_⟩
    · rw [View.withDirectories]
      split
      · simp
      · exact h.way other hother hmissing content
    · rw [View.withDirectories, if_neg (by simp [hnot]), h.same]
  cases c with
  | nothing => exact h
  | directories at' =>
    obtain rfl : at' = changed := hat
    exact hmade
  | file at' written =>
    obtain rfl : at' = changed := hat
    refine ⟨fun other hother hmissing content => ?_, ?_⟩
    · have hne : other ≠ at' := by
        rintro rfl
        exact hapart.2 hother
      rw [Change.apply, View.put_of_ne _ _ _ _ hne]
      exact hmade.way other hother hmissing content
    · rw [Change.apply, View.put_of_ne _ _ _ _ hapart.ne, hmade.same]

/-- After a change too everything lies in a directory. The directories on the way to it are made,
and no file stands there in the way. -/
theorem View.Grounded.apply {look : View} (hlook : look.Grounded) (c : Change) (place : Location)
    (hat : c.At place) (hfree : c.IsFree look)
    (hinside : ∀ other, other <+: place.dropLast → ∀ content, look other ≠ some (.file content)) :
    View.Grounded (c.apply look) := by
  have hmade := hlook.withDirectories place.dropLast hinside
  cases c with
  | nothing => exact hlook
  | directories at' =>
    obtain rfl : at' = place := hat
    exact hmade
  | file at' content =>
    obtain rfl : at' = place := hat
    have hne : at' ≠ [] := by
      rintro rfl
      exact hfree (hlook.above [] (by decide))
    have hsame : look.withDirectories at'.dropLast at' = look at' := by
      have hchild := look.withDirectories_child at'.dropLast (at'.getLast hne)
      rwa [List.dropLast_concat_getLast hne] at hchild
    have hkept (other : Location) (hother :
      look.withDirectories at'.dropLast other = some .directory) :
        Change.apply (.file at' content) look other = some .directory := by
      have hother' : other ≠ at' := by
        rintro rfl
        exact hfree (hsame ▸ hother)
      rw [Change.apply, View.put_of_ne _ _ _ _ hother', hother]
    refine ⟨fun other hother => hkept other (hmade.above other hother), fun other name hthere => ?_⟩
    apply hkept
    by_cases heq : other ++ [name] = at'
    · rw [← heq, List.dropLast_concat] at hinside ⊢
      exact View.withDirectories_self other (hinside other (List.prefix_refl other))
    · rw [Change.apply, View.put_of_ne _ _ _ _ heq] at hthere
      exact hmade.inside other name hthere

section
variable (look : View) (place other : Location) (content written : List UInt8)

theorem withDirectories_comm :
    (look.withDirectories place).withDirectories other =
      (look.withDirectories other).withDirectories place := by
  funext spot
  simp only [View.withDirectories]
  by_cases hmissing : look spot = none
  · by_cases hplace : spot <+: place <;> by_cases hother : spot <+: other <;>
      simp [hmissing, hplace, hother]
  · simp [hmissing]

theorem put_withDirectories :
    (look.put place content).withDirectories other =
      (look.withDirectories other).put place content := by
  funext spot
  by_cases hspot : spot = place
  · subst hspot
    simp [View.withDirectories, View.put_self]
  · simp [View.withDirectories, View.put_of_ne _ _ _ _ hspot]

theorem put_comm (h : place ≠ other) :
    (look.put place content).put other written = (look.put other written).put place content := by
  funext spot
  by_cases hspot : spot = place
  · subst hspot
    rw [View.put_self, View.put_of_ne _ _ _ _ h, View.put_self]
  · rw [View.put_of_ne _ _ _ _ hspot]
    by_cases hother : spot = other
    · subst hother
      rw [View.put_self, View.put_self]
    · rw [View.put_of_ne _ _ _ _ hother, View.put_of_ne _ _ _ _ hother,
        View.put_of_ne _ _ _ _ hspot]

end

/-- Changes at places that lie apart come to the same in either order. Directories that both need
are made by whichever comes first, and the files are put at different places, neither of which
lies in the other. -/
theorem Change.apply_comm (c d : Change) (place other : Location) (hc : c.At place)
    (hd : d.At other) (hapart : Apart place other) (look : View) :
    c.apply (d.apply look) = d.apply (c.apply look) := by
  cases c with
  | nothing => rfl
  | directories at' =>
    obtain rfl : at' = place := hc
    cases d with
    | nothing => rfl
    | directories there =>
      obtain rfl : there = other := hd
      exact withDirectories_comm look _ _
    | file there written =>
      obtain rfl : there = other := hd
      rw [apply, apply, apply, apply, put_withDirectories, withDirectories_comm]
  | file at' content =>
    obtain rfl : at' = place := hc
    cases d with
    | nothing => rfl
    | directories there =>
      obtain rfl : there = other := hd
      rw [apply, apply, apply, apply, put_withDirectories, withDirectories_comm]
    | file there written =>
      obtain rfl : there = other := hd
      rw [apply, apply, apply, apply, put_withDirectories, put_withDirectories,
        withDirectories_comm, put_comm _ _ _ _ _ hapart.ne]

theorem denoted_of_beside {look later : View} (hlook : look.Grounded)
    (hlasting : Lasting look later) (path : String) (place : Location)
    (hbeside : Beside place look later) (h : look.denoted path = .ok place) :
    later.denoted path = .ok place := by
  rw [View.denoted] at h ⊢
  cases hstart : Tree.startPieces path with
  | error e =>
    rw [hstart] at h
    cases h
  | ok found =>
    rw [hstart] at h
    exact View.lead_of_view hlook found.1 place found.2 hlasting.directories hbeside.way h

/-- Pieces end where they did, if what is there stays and, should they end anywhere, the end does
too. -/
theorem follow_of_beside {look later : View} (hlook : look.Grounded) (hlasting : Lasting look later)
    (start : Location) (pieces : List String)
    (h : ∀ place, look.follow start pieces = .ok place → Beside place look later) :
    later.follow start pieces = look.follow start pieces := by
  induction pieces generalizing start with
  | nil => rfl
  | cons piece rest ih =>
    cases hstart : look start with
    | none =>
      obtain ⟨place, hplace, hunder, -⟩ := View.follow_of_missing hlook start (piece :: rest) hstart
      have hbeside := h place hplace
      cases hwrong : piece = ".." || Tree.isTooLong piece with
      | true =>
        have hend : look.follow start (piece :: rest) = .ok start := by
          simp only [View.follow, hstart, hwrong, if_true]
        obtain rfl := Except.ok.inj (hend.symm.trans hplace)
        have hnow := hbeside.same.trans hstart
        rw [hend]
        simp only [View.follow, hnow, hwrong, if_true]
      | false =>
        obtain ⟨next, hnext, -⟩ := View.pieceLeads_of_right start piece hwrong
        have hgoing : look.follow start (piece :: rest) = look.follow next rest := by
          simp only [View.follow, hstart, hwrong, hnext, bind, Except.bind, Bool.false_eq_true,
            if_false]
        rw [hgoing, ← ih next (hgoing ▸ h)]
        cases hnow : later start with
        | none =>
          simp only [View.follow, hnow, hwrong, hnext, bind, Except.bind, Bool.false_eq_true,
            if_false]
        | some entry =>
          cases entry with
          | directory => simp only [View.follow, hnow, hnext, bind, Except.bind]
          | file content => exact absurd hnow (hbeside.way start hunder hstart content)
    | some entry =>
      cases entry with
      | directory =>
        have hnow := hlasting.directories start hstart
        cases hnext : Tree.pieceLeads start piece with
        | error e => simp only [View.follow, hstart, hnow, hnext, bind, Except.bind]
        | ok next =>
          have hgoing : look.follow start (piece :: rest) = look.follow next rest := by
            simp only [View.follow, hstart, hnext, bind, Except.bind]
          rw [hgoing, ← ih next (hgoing ▸ h)]
          simp only [View.follow, hnow, hnext, bind, Except.bind]
      | file content =>
        obtain ⟨held, hheld⟩ := hlasting.files start content hstart
        simp only [View.follow, hstart, hheld]

/-- Writing to a place is not seen where this path is read: the path ends apart from the place,
if it ends anywhere. -/
def Clear (look : View) (place : Location) (path : String) : Prop :=
  ∀ other, look.followed path = .ok other → Apart other place

instance (look : View) (place : Location) (path : String) : Decidable (Clear look place path) :=
  match h : look.followed path with
  | .ok other => decidable_of_iff (Apart other place) <| by
      rw [Clear, h]
      simp
  | .error e => .isTrue <| by
      rw [Clear, h]
      simp

/-- What is read at a path stays, if what is where it ends does. The path ends at the same place
as before, even where directories on the way to it have been made meanwhile. -/
theorem read_of_beside (t later : Tree) (hlook : View.Grounded t.lookup)
    (hlater : View.Grounded later.lookup) (hlasting : Lasting t.lookup later.lookup) (path : String)
    (h : ∀ place, View.followed t.lookup path = .ok place → Beside place t.lookup later.lookup) :
    later.read path = t.read path := by
  have hends : View.followed later.lookup path = View.followed t.lookup path := by
    rw [View.followed] at h
    rw [View.followed, View.followed]
    cases hstart : Tree.startPieces path with
    | error e => rfl
    | ok found =>
      rw [hstart] at h
      exact follow_of_beside hlook hlasting found.1 found.2 h
  have hfind : later.find path = t.find path := by
    rw [later.find_eq hlater, t.find_eq hlook, hends]
    cases hplace : View.followed t.lookup path with
    | error e => rfl
    | ok place =>
      have hsame := (h place hplace).same
      simp only [bind, Except.bind, Tree.entryAt, hsame]
  rw [Tree.read, Tree.read, hfind]

end Subtitling.Files
