import Subtitling.Proofs.Source.Ranking
import Subtitling.Proofs.Source.Scan
import Subtitling.Source.Resolution

/-!
Which subtitle is chosen. A candidate counts where its file lies, at its mapped path or else as
it is stored. The choice is the best candidate of the wished language, else the best of any
language, else the first file of the scan, and a search finds nothing exactly when there is none
of these.
-/

namespace Subtitling.Source.Resolver

open Files

section
variable (r : Resolver) (t : Tree) (kind : Media.Kind)

/-- Where the file of a candidate lies: at its mapped path, or else at the path that is stored. -/
def LiesAt (c : Candidate) (path : String) : Prop :=
  let mapped := r.mappings.map kind c.path
  t.exists? mapped = true ∧ path = mapped ∨
    t.exists? mapped = false ∧ t.exists? c.path = true ∧ path = c.path

def IsLocatable (c : Candidate) : Prop := ∃ path, r.LiesAt t kind c path

inductive Choice (candidates : List Candidate) (language video : String) :
    Except NotFound Resolution → Prop
  | exact {i : Nat} {c : Candidate} {path : String}
      (best : IsBest exactRank (fun c => c.language = Language.fold language ∧
        r.IsLocatable t kind c)
        candidates i c)
      (place : r.LiesAt t kind c path) :
      Choice candidates language video (.ok ⟨path, c.language, .exact⟩)
  | fallback {i : Nat} {c : Candidate} {path : String}
      (foreign : ∀ d ∈ candidates, d.language = Language.fold language → ¬ r.IsLocatable t kind d)
      (best : IsBest fallbackRank (r.IsLocatable t kind) candidates i c)
      (place : r.LiesAt t kind c path) :
      Choice candidates language video (.ok ⟨path, c.language, .fallback⟩)
  | filesystem {first : Found} {rest : List Found}
      (missing : ∀ d ∈ candidates, ¬ r.IsLocatable t kind d)
      (found : scan r.detector t video = first :: rest) :
      Choice candidates language video
        (.ok ⟨first.path, if (first :: rest).any Found.isEnglish then "en" else first.language,
          .filesystem⟩)
  | nothing
      (missing : ∀ d ∈ candidates, ¬ r.IsLocatable t kind d)
      (bare : NothingAround t video) :
      Choice candidates language video (.error ⟨Language.fold language, video⟩)

theorem locate_eq_some_iff (c : Candidate) (path : String) :
    r.locate t kind c.path = some path ↔ r.LiesAt t kind c path := by
  simp only [locate, LiesAt]
  cases hmapped : t.exists? (r.mappings.map kind c.path) with
  | true => simpa using eq_comm
  | false =>
    cases hstored : t.exists? c.path with
    | true => simpa using eq_comm
    | false => simp

theorem LiesAt.unique {c : Candidate} {path other : String} (h : r.LiesAt t kind c path)
    (hother : r.LiesAt t kind c other) : path = other :=
  Option.some.inj (((r.locate_eq_some_iff t kind c path).mpr h).symm.trans
    ((r.locate_eq_some_iff t kind c other).mpr hother))

/-- What a pass makes of one candidate. -/
def offer (pass : Pass) (c : Candidate) : Option Resolution :=
  (r.locate t kind c.path).map fun path => ⟨path, c.language, pass⟩

theorem offer_eq_some_iff (pass : Pass) (c : Candidate) (found : Resolution) :
    r.offer t kind pass c = some found ↔
      ∃ path, r.LiesAt t kind c path ∧ found = ⟨path, c.language, pass⟩ := by
  simp only [offer, Option.map_eq_some_iff, locate_eq_some_iff]
  constructor
  · rintro ⟨path, hplace, rfl⟩
    exact ⟨path, hplace, rfl⟩
  · rintro ⟨path, hplace, rfl⟩
    exact ⟨path, hplace, rfl⟩

theorem isSome_offer_iff (pass : Pass) (c : Candidate) :
    (r.offer t kind pass c).isSome = true ↔ r.IsLocatable t kind c := by
  simp only [offer, Option.isSome_map, Option.isSome_iff_exists, locate_eq_some_iff, IsLocatable]

theorem offer_eq_none_iff (pass : Pass) (c : Candidate) :
    r.offer t kind pass c = none ↔ ¬ r.IsLocatable t kind c := by
  rw [← r.isSome_offer_iff t kind pass c, Bool.not_eq_true, Option.isSome_eq_false_iff,
    Option.isNone_iff_eq_none]

variable (candidates : List Candidate)

theorem exactPass_eq_some (requested : String) (found : Resolution)
    (h : r.exactPass t kind candidates requested = some found) :
    ∃ i c path, IsBest exactRank (fun c => c.language = requested ∧ r.IsLocatable t kind c)
      candidates i c ∧ r.LiesAt t kind c path ∧ found = ⟨path, c.language, .exact⟩ := by
  obtain ⟨i, c, hoffer, hbest⟩ := isBest_of_findSome_mergeSort (r.offer t kind .exact) found h
  obtain ⟨k, hbest⟩ := hbest.of_filter
  obtain ⟨path, hplace, rfl⟩ := (r.offer_eq_some_iff t kind .exact c found).mp hoffer
  have hranked := hbest.of_rank_le exactRank_le_of_placed
  simp only [beq_iff_eq, isSome_offer_iff] at hranked
  exact ⟨k, c, path, hranked, hplace, rfl⟩

theorem exactPass_eq_none (requested : String) (h : r.exactPass t kind candidates requested = none)
    (d : Candidate) (hd : d ∈ candidates) (hlanguage : d.language = requested) :
    ¬ r.IsLocatable t kind d := by
  rw [← r.offer_eq_none_iff t kind .exact d]
  refine List.findSome?_eq_none_iff.mp h d ?_
  rw [Candidate.sortBy, List.mem_mergeSort, List.mem_filter]
  exact ⟨hd, by simpa using hlanguage⟩

theorem fallbackPass_eq_some (found : Resolution)
    (h : r.fallbackPass t kind candidates = some found) :
    ∃ i c path, IsBest fallbackRank (r.IsLocatable t kind) candidates i c ∧
      r.LiesAt t kind c path ∧ found = ⟨path, c.language, .fallback⟩ := by
  obtain ⟨i, c, hoffer, hbest⟩ := isBest_of_findSome_mergeSort (r.offer t kind .fallback) found h
  obtain ⟨path, hplace, rfl⟩ := (r.offer_eq_some_iff t kind .fallback c found).mp hoffer
  have hranked := hbest.of_rank_le fallbackRank_le_of_placed
  simp only [isSome_offer_iff] at hranked
  exact ⟨i, c, path, hranked, hplace, rfl⟩

theorem fallbackPass_eq_none (h : r.fallbackPass t kind candidates = none) (d : Candidate)
    (hd : d ∈ candidates) : ¬ r.IsLocatable t kind d := by
  rw [← r.offer_eq_none_iff t kind .fallback d]
  exact List.findSome?_eq_none_iff.mp h d (List.mem_mergeSort.mpr hd)

variable (language video : String)

theorem filesystemPass_cons (first : Found) (rest : List Found)
    (h : scan r.detector t video = first :: rest) :
    r.filesystemPass t video = some ⟨first.path,
      if (first :: rest).any Found.isEnglish then "en" else first.language, .filesystem⟩ := by
  have hhead := isEnglish_head_scan r.detector t video first rest h
  rw [h] at hhead
  rw [← hhead, filesystemPass, h]
  cases henglish : first.isEnglish with
  | true => simp [henglish]
  | false =>
    have hnone : (first :: rest).find? Found.isEnglish = none := by
      rw [List.find?_eq_none]
      rw [henglish] at hhead
      simpa using hhead.symm
    simp [hnone]

/-- What a search comes to is a choice. The passes are made one after the other, and a later one
is made only where those before it found no file. -/
theorem choice_resolve :
    r.Choice t kind candidates language video (r.resolve t candidates language video kind) := by
  rw [resolve]
  cases hexact : r.exactPass t kind candidates (Language.fold language) with
  | some found =>
    obtain ⟨i, c, path, hbest, hplace, rfl⟩ := r.exactPass_eq_some t kind candidates _ found hexact
    exact .exact hbest hplace
  | none =>
    have hforeign := r.exactPass_eq_none t kind candidates _ hexact
    cases hfallback : r.fallbackPass t kind candidates with
    | some found =>
      obtain ⟨i, c, path, hbest, hplace, rfl⟩ :=
        r.fallbackPass_eq_some t kind candidates found hfallback
      exact .fallback hforeign hbest hplace
    | none =>
      have hmissing := r.fallbackPass_eq_none t kind candidates hfallback
      cases hscan : scan r.detector t video with
      | nil =>
        have hnothing : r.filesystemPass t video = none := by simp [filesystemPass, hscan]
        rw [hnothing]
        exact .nothing hmissing ((scan_eq_nil_iff r.detector t video).mp hscan)
      | cons first rest =>
        rw [r.filesystemPass_cons t video first rest hscan]
        exact .filesystem hmissing hscan

/-- No two results are right for one search. Each pass has one best candidate at most, and a pass
counts only where those before it found nothing. -/
theorem Choice.unique {result other : Except NotFound Resolution}
    (h : r.Choice t kind candidates language video result)
    (hother : r.Choice t kind candidates language video other) : result = other := by
  -- Where two results come from different passes, one of them denies what the other has found.
  cases h with
  | exact best place =>
    cases hother with
    | exact best' place' =>
      obtain rfl := best.unique place_of_exactRank best'
      rw [place.unique r t kind place']
    | fallback foreign _ _ => exact absurd best.qualifies.2 (foreign _ best.mem best.qualifies.1)
    | filesystem missing _ => exact absurd best.qualifies.2 (missing _ best.mem)
    | nothing missing _ => exact absurd best.qualifies.2 (missing _ best.mem)
  | fallback foreign best place =>
    cases hother with
    | exact best' _ => exact absurd best'.qualifies.2 (foreign _ best'.mem best'.qualifies.1)
    | fallback _ best' place' =>
      obtain rfl := best.unique place_of_fallbackRank best'
      rw [place.unique r t kind place']
    | filesystem missing _ => exact absurd best.qualifies (missing _ best.mem)
    | nothing missing _ => exact absurd best.qualifies (missing _ best.mem)
  | filesystem missing found =>
    cases hother with
    | exact best' _ => exact absurd best'.qualifies.2 (missing _ best'.mem)
    | fallback _ best' _ => exact absurd best'.qualifies (missing _ best'.mem)
    | filesystem _ found' =>
      obtain ⟨rfl, rfl⟩ := List.cons.inj (found.symm.trans found')
      rfl
    | nothing _ bare =>
      rw [(scan_eq_nil_iff r.detector t video).mpr bare] at found
      cases found
  | nothing missing bare =>
    cases hother with
    | exact best' _ => exact absurd best'.qualifies.2 (missing _ best'.mem)
    | fallback _ best' _ => exact absurd best'.qualifies (missing _ best'.mem)
    | filesystem _ found =>
      rw [(scan_eq_nil_iff r.detector t video).mpr bare] at found
      cases found
    | nothing _ _ => rfl

/-- A search ends in one way only: with the best candidate of the wished language whose file is
there, else with the best of any language, else with the first file of the scan, else with
nothing. -/
theorem resolve_eq_iff (result : Except NotFound Resolution) :
    r.resolve t candidates language video kind = result ↔
      r.Choice t kind candidates language video result := by
  constructor
  · intro h
    rw [← h]
    exact r.choice_resolve t kind candidates language video
  · intro h
    exact (r.choice_resolve t kind candidates language video).unique r t kind candidates language
      video h

end

end Subtitling.Source.Resolver
