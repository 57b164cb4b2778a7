import Subtitling.Batch.Run
import Subtitling.Proofs.Language.Tag
import Subtitling.Proofs.Source.Resolution

/-!
A language goes by one code from the catalog to the request. Tags, candidates, requests and
searches all fold the codes that they are given, some of them for the third time; since a folded
code stays as it is, a subtitle is missed by none of the comparisons between them, and one in the
language that was asked for leaves the request as it was.
-/

namespace Subtitling.Batch

open Files (Tree)
open Subtitling.Language (IsCode fold leadingCode)
open Source (Candidate Resolver Resolution)

theorem ofTag?_eq_some_iff (tag path : String) (c : Candidate) :
    Candidate.ofTag? tag path = some c ↔ path ≠ "" ∧
      c = ⟨leadingCode tag, path, (Language.Tag.parse tag).hi, (Language.Tag.parse tag).forced,
        .database⟩ := by
  have hcode := Language.isCode_leadingCode tag
  have hne : (leadingCode tag).isEmpty = false := by simpa using hcode.ne_empty
  rw [Candidate.ofTag?, Candidate.make?, Language.code_parse, hcode.fold_eq]
  simp only [hne, Bool.false_eq_true, if_false]
  by_cases hpath : path = ""
  · simp [hpath]
  · have hsome : path.isEmpty = false := by simpa using hpath
    rw [hsome, if_neg Bool.false_ne_true, Option.some.injEq]
    exact ⟨fun h => ⟨hpath, h.symm⟩, fun h => h.2.symm⟩

/-- A candidate that a column holds has the path and the language of its element. -/
theorem exists_ofTag?_of_mem_decodeColumn (raw : Option String) (c : Candidate)
    (h : c ∈ Catalog.decodeColumn raw) :
    ∃ tag path d, Candidate.ofTag? tag path = some d ∧ c.path = d.path ∧
      c.language = d.language := by
  obtain ⟨item, -, hitem⟩ := List.mem_filterMap.mp h
  unfold Catalog.candidate? at hitem
  split at hitem
  · exact ⟨_, _, c, hitem, rfl, rfl⟩
  · simp only [Option.bind_eq_bind, Option.bind_eq_some_iff] at hitem
    obtain ⟨tag, -, path, -, d, hd, hc⟩ := hitem
    obtain rfl := Option.some.inj hc
    exact ⟨tag, path, d, hd, rfl, rfl⟩
  · cases hitem

theorem isCode_of_mem_decodeColumn (raw : Option String) (c : Candidate)
    (h : c ∈ Catalog.decodeColumn raw) : c.path ≠ "" ∧ IsCode c.language := by
  obtain ⟨tag, path, d, hd, hpath, hlanguage⟩ := exists_ofTag?_of_mem_decodeColumn raw c h
  obtain ⟨hne, rfl⟩ := (ofTag?_eq_some_iff tag path d).mp hd
  dsimp only at hpath hlanguage
  rw [hpath, hlanguage]
  exact ⟨hne, Language.isCode_leadingCode tag⟩

section
variable (r : Resolver) (t : Tree) (kind : Media.Kind) (requested : String) (c : Candidate)

theorem isSome_exactPass_of_mem (candidates : List Candidate) (hmem : c ∈ candidates)
    (hlanguage : c.language = requested) (hplace : r.IsLocatable t kind c) :
    (r.exactPass t kind candidates requested).isSome = true := by
  cases hpass : r.exactPass t kind candidates requested with
  | some found => rfl
  | none =>
    exact absurd hplace (r.exactPass_eq_none t kind candidates requested hpass c hmem hlanguage)

theorem isSome_exactPass_singleton_iff : (r.exactPass t kind [c] requested).isSome = true ↔
    c.language = requested ∧ r.IsLocatable t kind c := by
  constructor
  · intro h
    obtain ⟨found, hfound⟩ := Option.isSome_iff_exists.mp h
    obtain ⟨i, d, path, hbest, -, -⟩ := r.exactPass_eq_some t kind [c] requested found hfound
    obtain rfl := List.mem_singleton.mp hbest.mem
    exact hbest.qualifies
  · rintro ⟨hlanguage, hplace⟩
    exact isSome_exactPass_of_mem r t kind requested c [c] (by simp) hlanguage hplace

theorem exactPass_append_cons_of_ne (before after : List Candidate) (h : c.language ≠ requested) :
    r.exactPass t kind (before ++ c :: after) requested =
      r.exactPass t kind (before ++ after) requested := by
  have hout : (c.language == requested) = false := by simpa using h
  simp only [Resolver.exactPass, List.filter_append, List.filter_cons, hout, Bool.false_eq_true,
    if_false]

end

theorem source_of_exact (r : Resolver) (t : Tree) (candidates : List Candidate)
    (language video : String) (kind : Media.Kind) (found : Resolution)
    (h : r.resolve t candidates language video kind = .ok found) (hexact : found.pass = .exact) :
    found.language = fold language := by
  have hchoice := r.choice_resolve t kind candidates language video
  rw [h] at hchoice
  cases hchoice with
  | exact best place => exact best.qualifies.1
  | fallback foreign best place => cases hexact
  | filesystem missing scanned => cases hexact

theorem withSource_of_exact (request : Request) (language : String)
    (hsource : request.source = fold language) : request.withSource request.source = request := by
  rw [Request.withSource, hsource, Language.fold_fold, ← hsource]

/-- Every candidate that a column holds has a path and a code. One that was made from a tag
counts for the exact pass if the code in front of the tag is the one that is asked for, and is
passed over otherwise; what the pass finds leaves a request in its own language; and a tag is
read as it is shown. -/
theorem codes_keep_one_form :
    (∀ raw, ∀ c ∈ Catalog.decodeColumn raw, c.path ≠ "" ∧ IsCode c.language) ∧
    (∀ tag path c, Candidate.ofTag? tag path = some c →
      ∀ (r : Resolver) (t : Tree) (kind : Media.Kind) (language : String),
        ((r.exactPass t kind [c] (fold language)).isSome = true ↔
          leadingCode tag = fold language ∧ r.IsLocatable t kind c) ∧
        ∀ before after,
          (leadingCode tag = fold language → r.IsLocatable t kind c →
            (r.exactPass t kind (before ++ c :: after) (fold language)).isSome = true) ∧
          (leadingCode tag ≠ fold language →
            r.exactPass t kind (before ++ c :: after) (fold language) =
              r.exactPass t kind (before ++ after) (fold language))) ∧
    (∀ (setup : Setup) (w : Work.World) (item : Catalog.Item) (video : String) (ref : Media.Ref)
      (language target : String) (forced hi : Bool) (found : Resolution),
      let request := Request.make ref language target forced hi none
      setup.resolver.resolve w.files item.subtitles request.source video request.kind = .ok found →
        found.pass = .exact → chooseSource setup w request item video = .ok (found.path, request)) ∧
    ∀ tag, Language.Tag.parse (Language.Tag.parse tag).display = Language.Tag.parse tag := by
  refine ⟨isCode_of_mem_decodeColumn, ?_, ?_, ?_⟩
  · intro tag path c hc r t kind language
    have hlanguage : c.language = leadingCode tag := by
      rw [((ofTag?_eq_some_iff tag path c).mp hc).2]
    rw [← hlanguage]
    refine ⟨isSome_exactPass_singleton_iff r t kind _ c, fun before after => ⟨?_, ?_⟩⟩
    · exact isSome_exactPass_of_mem r t kind _ c _ (by simp)
    · exact exactPass_append_cons_of_ne r t kind _ c before after
  · intro setup w item video ref language target forced hi found request hfound hexact
    have hlanguage := source_of_exact setup.resolver _ _ _ _ _ found hfound hexact
    have hsource : found.language = request.source :=
      hlanguage.trans (Language.fold_fold language)
    rw [chooseSource]
    simp only [hfound]
    rw [hsource, withSource_of_exact request language rfl]
    rfl
  · intro tag
    have hcode : IsCode (Language.Tag.parse tag).code := by
      rw [Language.code_parse]
      exact Language.isCode_leadingCode tag
    exact Language.parse_display _ hcode (Language.not_hi_and_forced tag)

/-- A code in capitals with a sigma at its end, which has a form of its own there, is asked for
in other capitals. -/
theorem codes_keep_one_form_greek :
    let tag := " ΟΔΟΣ :HI"
    let c : Candidate := ⟨"οδος", "v/a.srt", true, false, .database⟩
    let r : Resolver := ⟨.identity, Language.Detector.standard⟩
    let t : Tree := ⟨[(["v"], .directory), (["v", "a.srt"], .file [])]⟩
    let setup : Setup := ⟨r, ⟨"", "m", ⟨0⟩, 1, .disabled⟩⟩
    let w := Work.World.start t ⟨[], [], []⟩ false
    let item : Catalog.Item := ⟨.movie, 7, "Film", "v/Film.mkv", [c]⟩
    let request := Request.make (.movie 7) "οδοΣ " "fr" false false none
    c ∈ Catalog.decodeColumn (some "[[\" ΟΔΟΣ :HI\", \"v/a.srt\", 12]]") ∧
      (c.path ≠ "" ∧ IsCode c.language) ∧
      Candidate.ofTag? tag "v/a.srt" = some c ∧
      leadingCode tag = fold "οδοΣ " ∧ r.IsLocatable t .movie c ∧
      (r.exactPass t .movie [c] (fold "οδοΣ ")).isSome = true ∧
      leadingCode tag ≠ fold "fr" ∧
      (∀ before after, r.exactPass t .movie (before ++ c :: after) (fold "fr") =
        r.exactPass t .movie (before ++ after) (fold "fr")) ∧
      chooseSource setup w request item "v/Film.mkv" = .ok ("v/a.srt", request) := by
  intro tag c r t setup w item request
  have hmem : c ∈ Catalog.decodeColumn (some "[[\" ΟΔΟΣ :HI\", \"v/a.srt\", 12]]") := by
    decide +kernel
  have hc : Candidate.ofTag? tag "v/a.srt" = some c := by decide +kernel
  have hcode : leadingCode tag = fold "οδοΣ " := by decide +kernel
  have hother : leadingCode tag ≠ fold "fr" := by decide +kernel
  have hplace : r.IsLocatable t .movie c :=
    ⟨"v/a.srt", .inl ⟨by decide +kernel, by decide +kernel⟩⟩
  have hfound : setup.resolver.resolve w.files item.subtitles request.source "v/Film.mkv"
    request.kind =
      .ok ⟨"v/a.srt", "οδος", .exact⟩ := by decide +kernel
  exact ⟨hmem, codes_keep_one_form.1 _ c hmem, hc, hcode, hplace,
    (codes_keep_one_form.2.1 tag "v/a.srt" c hc r t .movie "οδοΣ ").1.mpr ⟨hcode, hplace⟩,
    hother, fun before after =>
      ((codes_keep_one_form.2.1 tag "v/a.srt" c hc r t .movie "fr").2 before after).2 hother,
    codes_keep_one_form.2.2.1 setup w item "v/Film.mkv" (.movie 7) "οδοΣ " "fr" false false _ hfound
      rfl⟩

end Subtitling.Batch
