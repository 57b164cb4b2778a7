import Subtitling.Batch.Run
import Subtitling.Proofs.Batch.Requests
import Subtitling.Proofs.Work.Independence

/-!
Items made ready. An item that names the subtitle to read needs nothing of a world but the item
of the catalog that it is for, so what is worked on meanwhile makes no difference to it.
-/

namespace Subtitling.Batch

open Work (Answering Outcome Queue Surroundings Worked World WorkUnit)

def NamesSource (value : Json) : Prop := (present (Item.ofJson value).subtitlePath).isSome = true

instance : DecidablePred NamesSource := fun value =>
  inferInstanceAs (Decidable ((present (Item.ofJson value).subtitlePath).isSome = true))

theorem sourcePath_request (item : Item) (raw : String) (request : Request)
    (h : item.request raw = .ok request) : request.sourcePath = present item.subtitlePath := by
  obtain ⟨type, source, target, media, -, -, -, -, rfl⟩ := (request_eq_ok_iff item raw request).mp h
  rfl

section

variable (setup : Setup) (around : Surroundings) (value : Json) (w other : World)

/-- What is worked on before an item that names its source makes no difference to it, as long as the
catalog stays as it is. -/
theorem prepare_of_catalog (hvalue : NamesSource value)
    (hcatalog : ∀ ref, w.store.item? ref = other.store.item? ref) :
    prepare setup around value w = prepare setup around value other := by
  have hmedia (ref : Media.Ref) : findMedia around w ref = findMedia around other ref := by
    simp only [findMedia, World.lookup, hcatalog]
  rw [prepare, prepare]
  cases hrequest : (Item.ofJson value).request value.compact with
  | error e => rfl
  | ok request =>
    obtain ⟨path, hpath⟩ := Option.isSome_iff_exists.mp hvalue
    have hsource := sourcePath_request _ _ _ hrequest
    rw [hpath] at hsource
    have hchosen (media : Catalog.Item) (video : String) :
        chooseSource setup w request media video =
          chooseSource setup other request media video := by
      simp only [chooseSource, hsource]
    simp only [Except.mapError, bind, Except.bind, hmedia, hchosen]

/-- What an item is made ready from: a request, the item of the catalog that it is for, and a
subtitle. This is the one that the item names, in the language that it asks for, or else the one
that a search finds, in that one's language. -/
inductive Prepared : WorkUnit → Prop
  | named {request : Request} {media : Catalog.Item} {path : String}
      (asked : (Item.ofJson value).request value.compact = .ok request)
      (known : findMedia around w request.media = .ok media)
        (names : request.sourcePath = some path) :
      Prepared ⟨request, path,
        { media with videoPath := setup.resolver.mappings.map request.kind media.videoPath },
        setup.settings⟩
  | searched {request : Request} {media : Catalog.Item} {found : Source.Resolution}
      (asked : (Item.ofJson value).request value.compact = .ok request)
      (known : findMedia around w request.media = .ok media) (names : request.sourcePath = none)
      (finds : setup.resolver.resolve w.files media.subtitles request.source
        (setup.resolver.mappings.map request.kind media.videoPath) request.kind = .ok found) :
      Prepared ⟨request.withSource found.language, found.path,
        { media with videoPath := setup.resolver.mappings.map request.kind media.videoPath },
        setup.settings⟩

/-- Every check of the way is passed where an item is made ready. The request, the film and the
source are those that the checks found, so they can be read off the unit. -/
theorem prepared_of_prepare (u : WorkUnit) (h : prepare setup around value w = .ok u) :
    Prepared setup around value w u := by
  rw [prepare] at h
  cases hrequest : (Item.ofJson value).request value.compact with
  | error e =>
    rw [hrequest] at h
    cases h
  | ok request =>
    cases hmedia : findMedia around w request.media with
    | error e =>
      simp only [hrequest, hmedia, Except.mapError, bind, Except.bind] at h
      cases h
    | ok media =>
      simp only [hrequest, hmedia, Except.mapError, bind, Except.bind, chooseSource] at h
      cases hpath : request.sourcePath with
      | some path =>
        rw [hpath] at h
        obtain rfl := Except.ok.inj h
        exact .named hrequest hmedia hpath
      | none =>
        rw [hpath] at h
        cases hfound : setup.resolver.resolve w.files media.subtitles request.source
            (setup.resolver.mappings.map request.kind media.videoPath) request.kind with
        | error e =>
          simp only [hfound] at h
          cases h
        | ok found =>
          simp only [hfound] at h
          obtain rfl := Except.ok.inj h
          exact .searched hrequest hmedia hpath hfound

end

section

variable (setup : Setup) (around : Surroundings) (answer : Answering) (start : World)

def units (items : List Json) : List WorkUnit :=
  items.filterMap fun value => (prepare setup around value start).toOption

def handing (value : Json) : Except ItemError Unit :=
  (prepare setup around value start).map fun _ => ()

def working (value : Json) : Except ItemError Unit :=
  match prepare setup around value start with
  | .error e => .error e
  | .ok u =>
    match (u.deed around answer start.files).result with
    | .error e => .error (.work e)
    | .ok _ => .ok ()

def outcome (u : WorkUnit) : Outcome := Queue.outcomeOf u (u.deed around answer start.files).result

theorem units_append (items more : List Json) :
    units setup around start (items ++ more) =
      units setup around start items ++ units setup around start more :=
  List.filterMap_append

theorem units_of_ready (value : Json) (u : WorkUnit)
    (h : prepare setup around value start = .ok u) :
    units setup around start [value] = [u] := by
  simp [units, h, Except.toOption]

theorem units_of_failed (value : Json) (e : ItemError)
    (h : prepare setup around value start = .error e) :
    units setup around start [value] = [] := by
  simp [units, h, Except.toOption]

end

theorem prepare_of_worked (setup : Setup) {around : Surroundings} {answer : Answering}
    {start w : World} {us vs : List WorkUnit} (hw : Worked around answer start us vs w)
    (value : Json) (hvalue : NamesSource value) :
    prepare setup around value w = prepare setup around value start := by
  apply prepare_of_catalog _ _ _ _ _ hvalue
  intro ref
  rw [hw.store, Catalog.Store.item_addEntries]

section

variable {α : Type} (outcome : α → Except ItemError Unit) (values : List α) (r : Result)

def Result.count : Result := values.foldl (fun r value => r.add (outcome value)) r

/-- Why an item was skipped, if it was. -/
def failure? : Except ItemError Unit → Option String
  | .ok () => none
  | .error e => some e.message

theorem queued_count :
    (r.count outcome values).queued =
      r.queued + values.countP fun value => (outcome value).isOk := by
  induction values generalizing r with
  | nil => rfl
  | cons value rest ih =>
    have hrest := ih (r.add (outcome value))
    rw [Result.count, List.foldl_cons, ← Result.count, hrest, List.countP_cons]
    cases outcome value with
    | ok _ => simp [Result.add, Result.recordQueued, Except.isOk, Except.toBool]; omega
    | error e => simp [Result.add, Result.recordSkipped, Except.isOk, Except.toBool]

theorem errors_count :
    (r.count outcome values).errors = r.errors ++ values.filterMap fun value =>
      failure? (outcome value) := by
  induction values generalizing r with
  | nil => exact (List.append_nil _).symm
  | cons value rest ih =>
    have hrest := ih (r.add (outcome value))
    rw [Result.count, List.foldl_cons, ← Result.count, hrest, List.filterMap_cons]
    cases outcome value with
    | ok _ => rfl
    | error e => simp [Result.add, Result.recordSkipped, failure?]

theorem skipped_count :
    (r.count outcome values).skipped =
      r.skipped + values.countP fun value => !(outcome value).isOk := by
  induction values generalizing r with
  | nil => rfl
  | cons value rest ih =>
    have hrest := ih (r.add (outcome value))
    rw [Result.count, List.foldl_cons, ← Result.count, hrest, List.countP_cons]
    cases outcome value with
    | ok _ => simp [Result.add, Result.recordQueued, Except.isOk, Except.toBool]
    | error e => simp [Result.add, Result.recordSkipped, Except.isOk, Except.toBool]; omega

end

end Subtitling.Batch
