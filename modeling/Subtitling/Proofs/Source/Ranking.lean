import Mathlib.Data.Bool.Basic
import Mathlib.Data.Prod.Lex
import Subtitling.Source.Candidate

/-!
The least candidate. A rank is a row of faults with the place in the list behind them, read from the
front, so no two places have one rank. A search through the list in the order of its weights finds
the least of all that qualify, also where others were left out before the sorting.
-/

namespace Subtitling.Source

/-- The element of least rank among those that qualify, with its place in the list. -/
structure IsBest {α ρ : Type} [LE ρ] (rank : Nat → α → ρ) (fits : α → Prop) (xs : List α) (i : Nat)
    (x : α) : Prop where
  get : xs[i]? = some x
  qualifies : fits x
  least : ∀ j y, xs[j]? = some y → fits y → rank i x ≤ rank j y

/-- The rank of a candidate among those of one language. -/
def exactRank (i : Nat) (c : Candidate) : Bool ×ₗ Bool ×ₗ Nat := toLex (c.forced, toLex (c.hi, i))

/-- The rank of a candidate among those of any language. -/
def fallbackRank (i : Nat) (c : Candidate) : Bool ×ₗ Bool ×ₗ Bool ×ₗ Nat :=
  toLex (c.forced, toLex (c.hi, toLex (!c.isCommonLanguage, i)))

/-- A weight, and among equals the place. -/
def placed {α : Type} (weight : α → Nat) (i : Nat) (x : α) : Nat ×ₗ Nat := toLex (weight x, i)

section
variable {α ρ σ : Type} {fits : α → Prop} {xs : List α} {i : Nat} {x : α}

theorem IsBest.mem [LE ρ] {rank : Nat → α → ρ} (h : IsBest rank fits xs i x) : x ∈ xs :=
  List.mem_of_getElem? h.get

theorem IsBest.unique [PartialOrder ρ] {rank : Nat → α → ρ} {j : Nat} {y : α}
    (hplace : rank i x = rank j y → i = j) (hx : IsBest rank fits xs i x)
    (hy : IsBest rank fits xs j y) : x = y := by
  have hle := hx.least j y hy.get hy.qualifies
  have hge := hy.least i x hx.get hx.qualifies
  obtain rfl := hplace (le_antisymm hle hge)
  exact Option.some.inj (hx.get.symm.trans hy.get)

/-- Two ranks that order all elements alike have the same best one. -/
theorem IsBest.of_rank_le [LE ρ] [LE σ] {rank : Nat → α → ρ} {other : Nat → α → σ}
    (horder : ∀ i x j y, rank i x ≤ rank j y → other i x ≤ other j y)
    (h : IsBest rank fits xs i x) : IsBest other fits xs i x := by
  refine ⟨h.get, h.qualifies, ?_⟩
  intro j y hy hfits
  exact horder i x j y (h.least j y hy hfits)

variable {β : Type} {weight : α → Nat}

theorem placed_le_of_zipIdxLE {j : Nat} {y : α}
    (h : List.zipIdxLE (fun x y => decide (weight x ≤ weight y)) (x, i) (y, j) = true) :
    placed weight i x ≤ placed weight j y := by
  rw [placed, placed, Prod.Lex.toLex_le_toLex]
  simp only [List.zipIdxLE] at h
  split at h
  · split at h
    · simp only [decide_eq_true_eq] at *
      omega
    · simp only [decide_eq_true_eq] at *
      omega
  · cases h

/-- Elements are sorted with their places, so that equals can be told apart. -/
theorem pairwise_mergeSort_zipIdx (weight : α → Nat) (xs : List α) :
    (xs.zipIdx.mergeSort (List.zipIdxLE fun x y => decide (weight x ≤ weight y))).Pairwise
      fun a b => placed weight a.2 a.1 ≤ placed weight b.2 b.1 := by
  have htrans (x y z : α) (hxy : decide (weight x ≤ weight y) = true)
      (hyz : decide (weight y ≤ weight z) = true) : decide (weight x ≤ weight z) = true := by
    simp only [decide_eq_true_eq] at hxy hyz ⊢
    omega
  have htotal (x y : α) : (decide (weight x ≤ weight y) || decide (weight y ≤ weight x)) =
    true := by
    simp only [Bool.or_eq_true, decide_eq_true_eq]
    omega
  have hpairs := List.pairwise_mergeSort (List.zipIdxLE_trans htrans) (List.zipIdxLE_total htotal)
    xs.zipIdx
  exact hpairs.imp placed_le_of_zipIdxLE

/-- The first hit in a list sorted by weight is the best of all hits in the list as it was. -/
theorem isBest_of_findSome_mergeSort (f : α → Option β) (b : β)
    (h : (xs.mergeSort fun x y => weight x ≤ weight y).findSome? f = some b) :
    ∃ i x, f x = some b ∧ IsBest (placed weight) (fun y => (f y).isSome) xs i x := by
  rw [← List.mergeSort_zipIdx, List.findSome?_map, List.findSome?_eq_some_iff] at h
  obtain ⟨before, ⟨x, i⟩, after, hsorted, hx, hbefore⟩ := h
  have hpairs := pairwise_mergeSort_zipIdx weight xs
  rw [hsorted] at hpairs
  have hmem (y : α) (j : Nat) : xs[j]? = some y ↔ (y, j) ∈ before ++ (x, i) :: after := by
    rw [← hsorted, List.mem_mergeSort, List.mem_zipIdx_iff_getElem?]
  refine ⟨i, x, hx, (hmem x i).mpr (by simp), by simpa using Option.isSome_of_mem hx, ?_⟩
  intro j y hy hhit
  rcases List.mem_append.mp ((hmem y j).mp hy) with hearlier | hlater
  · have hmiss : f y = none := hbefore (y, j) hearlier
    simp [hmiss] at hhit
  · rcases List.mem_cons.mp hlater with heq | hafter
    · obtain ⟨rfl, rfl⟩ := Prod.mk.inj heq
      exact le_refl _
    · exact (List.pairwise_cons.mp (List.pairwise_append.mp hpairs).2.1).1 (y, j) hafter

/-- The elements that are kept, with the places they had before. -/
def kept (p : α → Bool) (xs : List α) :
    List (α × Nat) := xs.zipIdx.filter fun labelled => p labelled.1

theorem map_fst_kept (p : α → Bool) : (kept p xs).map Prod.fst = xs.filter p := by
  have hmap := List.filter_map (f := Prod.fst) (p := p) (l := xs.zipIdx)
  rw [List.zipIdx_map_fst] at hmap
  exact hmap.symm

theorem mem_kept_iff (p : α → Bool) (y : α) (k : Nat) :
    (y, k) ∈ kept p xs ↔ xs[k]? = some y ∧ p y = true := by
  rw [kept, List.mem_filter, List.mem_zipIdx_iff_getElem?]

/-- What is kept stays in order. -/
theorem place_le_of_kept (p : α → Bool) {j k l : Nat} {y : α} (hij : i ≤ j)
    (hi : (kept p xs)[i]? = some (x, k)) (hj : (kept p xs)[j]? = some (y, l)) : k ≤ l := by
  have hrising : (kept p xs).Pairwise fun a b => a.2 < b.2 := by
    refine List.Pairwise.filter _ (List.pairwise_iff_getElem.mpr ?_)
    intro m n hm hn hlt
    simpa using hlt
  rcases Nat.lt_or_eq_of_le hij with hlt | rfl
  · obtain ⟨hiLength, hik⟩ := List.getElem?_eq_some_iff.mp hi
    obtain ⟨hjLength, hjl⟩ := List.getElem?_eq_some_iff.mp hj
    have hrise := List.pairwise_iff_getElem.mp hrising i j hiLength hjLength hlt
    rw [hik, hjl] at hrise
    exact Nat.le_of_lt hrise
  · rw [hi] at hj
    obtain ⟨-, rfl⟩ := Prod.mk.inj (Option.some.inj hj)
    exact Nat.le_refl k

/-- The best of the elements that are left when others are taken out. -/
theorem IsBest.of_filter {p : α → Bool}
    (h : IsBest (placed weight) fits (xs.filter p) i x) :
    ∃ k, IsBest (placed weight) (fun y => p y = true ∧ fits y) xs k x := by
  have hget := h.get
  rw [← map_fst_kept, List.getElem?_map, Option.map_eq_some_iff] at hget
  obtain ⟨⟨_, k⟩, hk, rfl⟩ := hget
  obtain ⟨hplace, hp⟩ := (mem_kept_iff p _ k).mp (List.mem_of_getElem? hk)
  refine ⟨k, hplace, ⟨hp, h.qualifies⟩, ?_⟩
  intro l y hy hfits
  obtain ⟨j, hj⟩ := List.mem_iff_getElem?.mp ((mem_kept_iff p y l).mpr ⟨hy, hfits.1⟩)
  have hfiltered : (xs.filter p)[j]? = some y := by
    rw [← map_fst_kept, List.getElem?_map, hj]
    rfl
  have hle := h.least j y hfiltered hfits.2
  simp only [placed, Prod.Lex.toLex_le_toLex] at hle ⊢
  rcases hle with hlighter | ⟨heq, hij⟩
  · exact .inl hlighter
  · exact .inr ⟨heq, place_le_of_kept p hij hk hj⟩

end

theorem bool_lt_iff (x y : Bool) : x < y ↔ x.toNat < y.toNat := by
  cases x <;> cases y <;> simp

theorem bool_eq_iff (x y : Bool) : x = y ↔ x.toNat = y.toNat := by
  cases x <;> cases y <;> simp

theorem exactRank_le_of_placed (i : Nat) (c : Candidate) (j : Nat) (d : Candidate)
    (h : placed (Candidate.weight ∘ Candidate.exactFaults) i c ≤
      placed (Candidate.weight ∘ Candidate.exactFaults) j d) : exactRank i c ≤ exactRank j d := by
  simp only [placed, Function.comp, Candidate.exactFaults, Candidate.weight, exactRank,
    Prod.Lex.toLex_le_toLex, List.foldl_cons, List.foldl_nil, bool_lt_iff, bool_eq_iff] at h ⊢
  have hc := c.hi.toNat_le
  have hd := d.hi.toNat_le
  omega

theorem fallbackRank_le_of_placed (i : Nat) (c : Candidate) (j : Nat) (d : Candidate)
    (h : placed (Candidate.weight ∘ Candidate.fallbackFaults) i c ≤
      placed (Candidate.weight ∘ Candidate.fallbackFaults) j d) :
    fallbackRank i c ≤ fallbackRank j d := by
  simp only [placed, Function.comp, Candidate.fallbackFaults, Candidate.weight, fallbackRank,
    Prod.Lex.toLex_le_toLex, List.foldl_cons, List.foldl_nil, bool_lt_iff, bool_eq_iff] at h ⊢
  have hchi := c.hi.toNat_le
  have hdhi := d.hi.toNat_le
  have hcother := (!c.isCommonLanguage).toNat_le
  have hdother := (!d.isCommonLanguage).toNat_le
  omega

theorem place_of_exactRank {i j : Nat} {c d : Candidate} (h : exactRank i c = exactRank j d) :
    i = j := by
  simp only [exactRank, EmbeddingLike.apply_eq_iff_eq, Prod.mk.injEq] at h
  exact h.2.2

theorem place_of_fallbackRank {i j : Nat} {c d : Candidate}
    (h : fallbackRank i c = fallbackRank j d) : i = j := by
  simp only [fallbackRank, EmbeddingLike.apply_eq_iff_eq, Prod.mk.injEq] at h
  exact h.2.2.2

end Subtitling.Source
