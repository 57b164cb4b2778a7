import Mathlib.Data.List.Nodup
import Subtitling.Language.Detection

/-!
Tallies in any order. A tally has one entry for each key, and that tells how often the key was
met. No two entries are equal where they are compared, so the greatest of them is the same
whichever is looked at first.
-/

namespace Subtitling.Language.Tally

variable {t u : Tally} {keys : List String} {e f : String × Nat}

/-- Each key that was met has one entry, with the number of times. -/
structure Tells (t : Tally) (keys : List String) : Prop where
  nodup : (t.map Prod.fst).Nodup
  mem_iff : ∀ key n, (key, n) ∈ t ↔ key ∈ keys ∧ n = keys.count key

theorem Tells.perm (h : t.Tells keys) (hperm : u.Perm t) : u.Tells keys where
  nodup := (hperm.map Prod.fst).nodup_iff.mpr h.nodup
  mem_iff key n := hperm.mem_iff.trans (h.mem_iff key n)

/-- A key is counted in its entry, or else in a new one at the end. -/
theorem add_cases (t : Tally) (key : String) :
    (∃ front n back, t = front ++ (key, n) :: back ∧ t.add key = front ++ (key, n + 1) :: back) ∨
      (∀ n, (key, n) ∉ t) ∧ t.add key = t ++ [(key, 1)] := by
  induction t with
  | nil => exact .inr ⟨fun n => List.not_mem_nil, rfl⟩
  | cons e rest ih =>
    obtain ⟨k, m⟩ := e
    rw [add]
    split
    · rename_i heq
      exact .inl ⟨[], m, rest, by rw [heq]; rfl, by rw [heq]; rfl⟩
    · rename_i hne
      rcases ih with ⟨front, n, back, hrest, hadd⟩ | ⟨hnew, hadd⟩
      · exact .inl ⟨(k, m) :: front, n, back, by rw [hrest]; rfl, by rw [hadd]; rfl⟩
      · refine .inr ⟨fun n hmem => ?_, by rw [hadd]; rfl⟩
        rcases List.mem_cons.mp hmem with heq | hrest
        · exact hne (congrArg Prod.fst heq).symm
        · exact hnew n hrest

theorem nodup_keys_add (h : (t.map Prod.fst).Nodup) (key : String) :
    ((t.add key).map Prod.fst).Nodup := by
  rcases add_cases t key with ⟨front, n, back, ht, hadd⟩ | ⟨hnew, hadd⟩
  · rw [hadd]
    rw [ht] at h
    simpa using h
  · rw [hadd, List.map_append, List.nodup_append]
    refine ⟨h, by simp, ?_⟩
    intro k hk other hother heq
    obtain ⟨⟨_, n⟩, hmem, rfl⟩ := List.mem_map.mp hk
    obtain rfl : other = key := by simpa using hother
    exact hnew n (heq ▸ hmem)

/-- No other entry has the key of one that stands in the middle. -/
theorem not_mem_around {front back : Tally} {key : String} {n : Nat}
    (h : ((front ++ (key, n) :: back).map Prod.fst).Nodup) (m : Nat) :
    (key, m) ∉ front ∧ (key, m) ∉ back := by
  rw [List.map_append, List.map_cons, List.nodup_middle, List.nodup_cons, List.mem_append,
    not_or] at h
  exact ⟨fun hmem => h.1.1 (List.mem_map.mpr ⟨(key, m), hmem, rfl⟩),
    fun hmem => h.1.2 (List.mem_map.mpr ⟨(key, m), hmem, rfl⟩)⟩

/-- What a tally says of each key when one key has been met once more. -/
theorem Tells.mem_add (h : t.Tells keys) (key k : String) (m : Nat) :
    (k, m) ∈ t.add key ↔ if k = key then m = keys.count key + 1 else (k, m) ∈ t := by
  rcases add_cases t key with ⟨front, n, back, ht, hadd⟩ | ⟨hnew, hadd⟩
  · have hmet : (key, n) ∈ t := by simp [ht]
    obtain rfl := ((h.mem_iff key n).mp hmet).2
    have hothers := not_mem_around (ht ▸ h.nodup) m
    rw [hadd, ht, List.mem_append, List.mem_append, List.mem_cons, List.mem_cons, Prod.mk.injEq,
      Prod.mk.injEq]
    split
    · rename_i hk
      subst hk
      simp [hothers]
    · rename_i hk
      simp [hk]
  · have hcount : keys.count key = 0 := by
      rw [List.count_eq_zero]
      exact fun hkey => hnew _ ((h.mem_iff key _).mpr ⟨hkey, rfl⟩)
    rw [hadd, hcount, List.mem_append, List.mem_singleton, Prod.mk.injEq]
    split
    · rename_i hk
      simp [hk, hnew m]
    · rename_i hk
      simp [hk]

theorem Tells.add (h : t.Tells keys) (key : String) : (t.add key).Tells (keys ++ [key]) where
  nodup := nodup_keys_add h.nodup key
  mem_iff k m := by
    rw [h.mem_add, List.count_append, List.count_singleton, List.mem_append, List.mem_singleton]
    split
    · rename_i hk
      simp [hk]
    · rename_i hk
      simp [hk, h.mem_iff, Ne.symm hk]

theorem tells_foldl_add (keys : List String) {before : List String} (h : t.Tells before) :
    (keys.foldl add t).Tells (before ++ keys) := by
  induction keys generalizing t before with
  | nil => rwa [List.append_nil]
  | cons key rest ih =>
    rw [List.append_cons]
    exact ih (h.add key)

theorem tells_nil : Tells [] [] := ⟨List.nodup_nil, by simp⟩

theorem tells_ofKeys (keys : List String) : (ofKeys keys).Tells keys :=
  tells_foldl_add keys tells_nil

theorem tells_arrange (order : Order) (keys : List String) :
    (order.arrange (ofKeys keys)).Tells keys :=
  (tells_ofKeys keys).perm (order.perm _)

theorem met_ofKeys (keys : List String) (key : String) :
    (ofKeys keys).met key = keys.count key := by
  have htells := tells_ofKeys keys
  rw [met]
  cases hlookup : (ofKeys keys).lookup key with
  | none =>
    have hnew := List.lookup_eq_none_iff.mp hlookup
    refine (List.count_eq_zero.mpr fun hkey => ?_).symm
    have hmem := (htells.mem_iff key _).mpr ⟨hkey, rfl⟩
    simpa using hnew _ hmem
  | some n =>
    obtain ⟨front, back, heq, -⟩ := List.lookup_eq_some_iff.mp hlookup
    have hmem : (key, n) ∈ ofKeys keys := by simp [heq]
    exact ((htells.mem_iff key n).mp hmem).2

theorem atMost_iff : atMost e f = true ↔ e.2 < f.2 ∨ e.2 = f.2 ∧ f.1 ≤ e.1 := by
  simp [atMost]

theorem le_of_atMost (h : atMost e f = true) : e.2 ≤ f.2 := by
  rw [atMost_iff] at h
  omega

theorem atMost_refl (e : String × Nat) : atMost e e = true :=
  atMost_iff.mpr (.inr ⟨rfl, String.le_refl e.1⟩)

theorem atMost_trans {g : String × Nat} (hef : atMost e f = true) (hfg : atMost f g = true) :
    atMost e g = true := by
  rw [atMost_iff] at *
  rcases hef with hef | ⟨hef, hkeys⟩ <;> rcases hfg with hfg | ⟨hfg, hkeys'⟩
  · exact .inl (Nat.lt_trans hef hfg)
  · exact .inl (hfg ▸ hef)
  · exact .inl (hef ▸ hfg)
  · exact .inr ⟨hef.trans hfg, String.le_trans hkeys' hkeys⟩

theorem atMost_total (e f : String × Nat) : atMost e f = true ∨ atMost f e = true := by
  rw [atMost_iff, atMost_iff]
  rcases Nat.lt_trichotomy e.2 f.2 with hlt | heq | hgt
  · exact .inl (.inl hlt)
  · rcases String.le_total e.1 f.1 with hle | hle
    · exact .inr (.inr ⟨heq.symm, hle⟩)
    · exact .inl (.inr ⟨heq, hle⟩)
  · exact .inr (.inl hgt)

theorem atMost_antisymm (hef : atMost e f = true) (hfe : atMost f e = true) : e = f := by
  rw [atMost_iff] at *
  have hcounts : e.2 = f.2 := by omega
  refine Prod.ext ?_ hcounts
  rcases hef with hlt | ⟨-, hle⟩
  · omega
  · rcases hfe with hlt | ⟨-, hle'⟩
    · omega
    · exact String.le_antisymm hle' hle

/-- An entry that no other stands above. -/
def Tops (e : String × Nat) (t : Tally) : Prop := e ∈ t ∧ ∀ f ∈ t, atMost f e = true

theorem Tops.unique (he : Tops e t) (hf : Tops f t) : e = f :=
  atMost_antisymm (hf.2 e he.1) (he.2 f hf.1)

/-- The entry that is kept while the others are gone through stands above all of them, by
induction on those that are left. -/
theorem tops_foldl (e : String × Nat) (rest : Tally) :
    Tops (rest.foldl (fun best f => if atMost best f then f else best) e) (e :: rest) := by
  induction rest generalizing e with
  | nil => exact ⟨by simp, by simp [atMost_refl]⟩
  | cons f more ih =>
    rw [List.foldl_cons]
    split
    · rename_i hle
      obtain ⟨hmem, hall⟩ := ih f
      refine ⟨List.mem_cons_of_mem e hmem, fun g hg => ?_⟩
      rcases List.mem_cons.mp hg with rfl | hg
      · exact atMost_trans hle (hall f (by simp))
      · exact hall g hg
    · rename_i hnot
      have hle : atMost f e = true := (atMost_total f e).resolve_right hnot
      obtain ⟨hmem, hall⟩ := ih e
      refine ⟨(List.cons_sublist_cons.mpr (List.sublist_cons_self f more)).mem hmem, fun g hg => ?_⟩
      rcases List.mem_cons.mp hg with rfl | hg
      · exact hall g (by simp)
      · rcases List.mem_cons.mp hg with rfl | hg
        · exact atMost_trans hle (hall e (by simp))
        · exact hall g (by simp [hg])

theorem greatest?_eq_some_iff : t.greatest? = some e ↔ Tops e t := by
  cases t with
  | nil => exact ⟨nofun, fun h => absurd h.1 List.not_mem_nil⟩
  | cons f rest =>
    rw [greatest?, Option.some.injEq]
    exact ⟨fun h => h ▸ tops_foldl f rest, (tops_foldl f rest).unique⟩

theorem ranked_perm (t : Tally) : t.ranked.Perm t := List.mergeSort_perm t _

/-- Nothing stands above the first of the ranking, and of the others nothing above the second. -/
theorem pairwise_ranked (t : Tally) : t.ranked.Pairwise fun e f => atMost f e = true := by
  rw [ranked]
  apply List.pairwise_mergeSort
  · exact fun e f g hfe hgf => atMost_trans hgf hfe
  · intro e f
    simpa using atMost_total f e

/-- If the second of the ranking does not count as much as the first, no key was met as often as the
first. -/
theorem Tells.count_lt_of_ranked (h : t.Tells keys) {key : String} {n : Nat} {rest : Tally}
    (heq : t.ranked = (key, n) :: rest)
    (hsecond : (rest.head?.any fun next => next.2 == n) = false) :
    ∀ other ∈ keys, other ≠ key → keys.count other < n := by
  intro other hother hne
  have hranked := h.perm (ranked_perm t)
  have hsorted := pairwise_ranked t
  rw [heq] at hranked hsorted
  have hmem : (other, keys.count other) ∈ rest := by
    have hentry := (hranked.mem_iff other _).mpr ⟨hother, rfl⟩
    exact (List.mem_cons.mp hentry).resolve_left fun hfirst => hne (congrArg Prod.fst hfirst)
  cases rest with
  | nil => cases hmem
  | cons next more =>
    rw [List.pairwise_cons, List.pairwise_cons] at hsorted
    have hnext : next.2 ≠ n := by simpa using hsecond
    have hbelow : next.2 ≤ n := le_of_atMost (hsorted.1 next (by simp))
    rcases List.mem_cons.mp hmem with rfl | hmore
    · exact Nat.lt_of_le_of_ne hbelow hnext
    · have hlast : keys.count other ≤ next.2 := le_of_atMost (hsorted.2.1 _ hmore)
      omega

/-- A key that was met more often than every other is the first of the ranking, and the second
does not count as much. -/
theorem Tells.exists_ranked_of_count_lt (h : t.Tells keys) {key : String} (hkey : key ∈ keys)
    (hothers : ∀ other ∈ keys, other ≠ key → keys.count other < keys.count key) :
    ∃ rest, t.ranked = (key, keys.count key) :: rest ∧
      (rest.head?.any fun next => next.2 == keys.count key) = false := by
  have hranked := h.perm (ranked_perm t)
  have hsorted := pairwise_ranked t
  have hentry := (hranked.mem_iff key _).mpr ⟨hkey, rfl⟩
  cases heq : t.ranked with
  | nil =>
    rw [heq] at hentry
    cases hentry
  | cons top rest =>
    obtain ⟨first, hits⟩ := top
    rw [heq] at hranked hsorted hentry
    obtain ⟨hfirst, rfl⟩ := (hranked.mem_iff first hits).mp (by simp)
    obtain rfl : first = key := by
      by_contra hne
      have hrest :=
        (List.mem_cons.mp hentry).resolve_left fun htop => hne (congrArg Prod.fst htop).symm
      have hbelow := le_of_atMost ((List.pairwise_cons.mp hsorted).1 _ hrest)
      exact absurd (hothers first hfirst hne) (Nat.not_lt.mpr hbelow)
    refine ⟨rest, rfl, ?_⟩
    cases rest with
    | nil => rfl
    | cons next more =>
      obtain ⟨second, count⟩ := next
      obtain ⟨hsecond, rfl⟩ := (hranked.mem_iff second count).mp (by simp)
      have hne : second ≠ first := by
        rintro rfl
        have honce := hranked.nodup
        simp at honce
      exact beq_false_of_ne (Nat.ne_of_lt (hothers second hsecond hne))

end Subtitling.Language.Tally
