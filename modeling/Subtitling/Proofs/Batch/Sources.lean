import Subtitling.Proofs.Batch.Accounts
import Subtitling.Proofs.Work.Effects

/-!
What becomes of the subtitle that an item is translated from. Nothing keeps an item from reading
the very file that its translation goes to: the item may name it, and each pass of a search may
find it. Such a file is replaced by its translation, and every other source stays as it is.
-/

namespace Subtitling.Batch

open Work (Surroundings World WorkUnit)

section

variable (setup : Setup) (around : Surroundings)

/-- Working on an item leaves its source with the content that it had, unless the item writes a
translation and its destination leads to the source itself; then the source holds what was
written. Where the destination leads is told afterwards, since directories on the way may have
been missing before. An item without a source leaves everything as it is. -/
theorem runItem_keeps_source (value : Json) (w : World) :
    (∀ e, prepare setup around value w = .error e → (runItem setup around value w).2 = w) ∧
      ∀ u, prepare setup around value w = .ok u →
        let left := (runItem setup around value w).2.files
        Prepared setup around value w u ∧
          (left.locate u.destination ≠ left.locate u.sourcePath →
            left.read u.sourcePath = w.files.read u.sourcePath) ∧
          (left.locate u.destination = left.locate u.sourcePath →
            left.read u.sourcePath =
              match u.produced? around w with
              | none => w.files.read u.sourcePath
              | some written => .ok written) := by
  constructor
  · intro e hunready
    rw [runItem_of_unready setup around value w e hunready]
  · intro u hready left
    have hleft : left = (u.run around w).2.files :=
      congrArg World.files (runItem_of_ready setup around value w u hready).2
    have hsource := u.read_source around w
    rw [← hleft] at hsource
    refine ⟨prepared_of_prepare setup around value w u hready, ?_, ?_⟩
    · intro hother
      rw [hsource]
      cases u.produced? around w with
      | none => rfl
      | some written => exact if_neg hother
    · intro hsame
      rw [hsource]
      cases u.produced? around w with
      | none => rfl
      | some written => exact if_pos hsame

end

/-- One item names the English subtitle of a film, which stays. The other names the French one in
a roundabout way, and it goes. -/
theorem runItem_keeps_source_film :
    let item (source : String) : Json :=
      .ofFields [("type", .string "movie"), ("movieId", .ofInt 7),
      ("sourceLanguage", .string "en"), ("targetLanguage", .string "fr"),
        ("subtitlePath", .string source)]
    let settings : Service.Settings := ⟨"", "m", ⟨0⟩, 1, .disabled⟩
    let unit (source : String) : WorkUnit :=
      ⟨.make (.movie 7) "en" "fr" false false (some source), source,
      ⟨.movie, 7, "Film", "v/Film.mkv", []⟩, settings⟩
    let setup : Setup := ⟨⟨.identity, Language.Detector.standard⟩, settings⟩
    let around : Surroundings :=
      ⟨fun task s => (.ok (task.texts.mapIdx fun i text => ⟨i, text ++ "!"⟩), s), fun _ => none,
        none, Files.Faults.none, "now"⟩
    let bytes := "1\n00:00:01,000 --> 00:00:02,000\nHello\n".toUTF8.toList
    let w := World.start ⟨[(["v"], .directory), (["v", "Film.en.srt"], .file bytes),
      (["v", "Film.fr.srt"], .file bytes)]⟩ ⟨[], [⟨7, "Film", "v/Film.mkv", none⟩], []⟩ false
    let left (source : String) := (runItem setup around (item source) w).2.files
    (left "v/Film.en.srt").read "v/Film.en.srt" = .ok bytes ∧
      ∃ written, (unit "v/../v/Film.fr.srt").produced? around w = some written ∧
        (left "v/../v/Film.fr.srt").read "v/../v/Film.fr.srt" = .ok written := by
  intro item settings unit setup around bytes w left
  have hready : ∀ source ∈ ["v/Film.en.srt", "v/../v/Film.fr.srt"],
      prepare setup around (item source) w = .ok (unit source) := by
    decide +kernel
  have hother : (left "v/Film.en.srt").locate (unit "v/Film.en.srt").destination ≠
      (left "v/Film.en.srt").locate "v/Film.en.srt" := by
    decide +kernel
  have hsame : (left "v/../v/Film.fr.srt").locate (unit "v/../v/Film.fr.srt").destination =
      (left "v/../v/Film.fr.srt").locate "v/../v/Film.fr.srt" := by
    decide +kernel
  have hwrites : ((unit "v/../v/Film.fr.srt").produced? around w).isSome = true := by decide +kernel
  obtain ⟨written, hproduced⟩ := Option.isSome_iff_exists.mp hwrites
  obtain ⟨-, hkept, -⟩ := (runItem_keeps_source setup around (item "v/Film.en.srt") w).2 _
    (hready _ (by simp))
  obtain ⟨-, -, hreplaced⟩ := (runItem_keeps_source setup around (item "v/../v/Film.fr.srt") w).2 _
    (hready _ (by simp))
  refine ⟨(hkept hother).trans (by decide +kernel), written, hproduced, ?_⟩
  have hread := hreplaced hsame
  rwa [hproduced] at hread

/-- A film has a subtitle in no language but the one that it is to be translated into. The search
finds it, and it is gone. -/
theorem source_is_replaced :
    let item : Json := .ofFields [("type", .string "movie"), ("movieId", .ofInt 7),
      ("sourceLanguage", .string "en"), ("targetLanguage", .string "fr")]
    let setup : Setup := ⟨⟨.identity, Language.Detector.standard⟩, ⟨"", "m", ⟨0⟩, 1, .disabled⟩⟩
    let around : Surroundings :=
      ⟨fun task s => (.ok (task.texts.mapIdx fun i text => ⟨i, "[fr] " ++ text⟩), s), fun _ => none,
        none, Files.Faults.none, "now"⟩
    let bytes := "1\n00:00:01,000 --> 00:00:02,000\nBonjour\n".toUTF8.toList
    let w := World.start ⟨[(["v"], .directory), (["v", "Film.fr.srt"], .file bytes)]⟩
      ⟨[], [⟨7, "Film", "v/Film.mkv", none⟩], []⟩ false
    (prepare setup around item w).map (fun u => (u.sourcePath, u.destination)) =
        .ok ("v/Film.fr.srt", "v/Film.fr.srt") ∧
      w.files.read "v/Film.fr.srt" = .ok bytes ∧
      (runItem setup around item w).2.files.read "v/Film.fr.srt" ≠ .ok bytes := by
  decide +kernel

end Subtitling.Batch
