import Subtitling.Proofs.Batch.Ids
import Subtitling.Proofs.Json.Fields

/-!
Fields that cannot be read. A value of the wrong type under a key of an item is as good as none,
with one exception: under the first key of an id it still stands in front of the second key, and
an id that could be read there is lost.
-/

namespace Subtitling

/-- The fields but those under a key. -/
def Json.without (key : String) (fields : List (String × Json)) : List (String × Json) :=
  fields.filter fun field => field.1 ≠ key

/-- Taking a key out of an object leaves what is under every other key. All fields of that key
go, so it does not matter that an object could list one twice. -/
theorem Json.get_without (key other : String) (fields : List (String × Json)) :
    (Json.object (without key fields)).get? other =
      if other = key then none else (Json.object fields).get? other := by
  rw [get?, get?]
  induction fields with
  | nil => exact (ite_self none).symm
  | cons field rest ih =>
    obtain ⟨k, value⟩ := field
    rw [without] at ih ⊢
    by_cases hk : k = key
    · subst hk
      rw [List.filter_cons_of_neg (by simp), ih, lookup_cons_eq]
      split <;> rfl
    · rw [List.filter_cons_of_pos (by simpa using hk), lookup_cons_eq, lookup_cons_eq, ih]
      by_cases hother : other = k
      · rw [if_pos hother, if_neg (hother ▸ hk), if_pos hother]
      · rw [if_neg hother, if_neg hother]

namespace Batch

inductive KeyKind
  | text
  | id
  | flag
deriving DecidableEq

def itemKeys : List (String × KeyKind) :=
  [("type", .text), ("seriesId", .id), ("sonarrSeriesId", .id), ("episodeId", .id),
    ("sonarrEpisodeId", .id), ("movieId", .id), ("radarrId", .id), ("sourceLanguage", .text),
    ("targetLanguage", .text), ("subtitlePath", .text), ("forced", .flag), ("hi", .flag)]

def KeyKind.Holds : KeyKind → Json → Prop
  | .text, value => ∃ s, value = .string s
  | .id, value => ∃ n, ReadsAs value n
  | .flag, value => (∃ b, value = .bool b) ∨ (∃ x, value = .number x) ∨ ∃ s, value = .string s

theorem lookup_key (name : IdName) : itemKeys.lookup name.key = some .id := by
  cases name <;> rfl

theorem lookup_alias (name : IdName) : itemKeys.lookup name.alias = some .id := by
  cases name <;> rfl

theorem key_injective {name other : IdName} (h : name.key = other.key) : name = other := by
  revert h
  cases name <;> cases other <;> decide

theorem alias_ne_key (name other : IdName) : name.alias ≠ other.key := by
  cases name <;> cases other <;> decide

theorem firstField_cons (value : Json) (key : String) (keys : List String) :
    firstField value (key :: keys) =
      ((value.get? key).filter fun v => !v.isNull).or (firstField value keys) := by
  rw [firstField, firstField, List.filterMap_cons]
  cases value.get? key with
  | none => rfl
  | some v =>
    dsimp only
    rw [List.find?_cons, Option.filter_some]
    cases v.isNull <;> rfl

theorem textField_eq (value : Json) (key : String) :
    textField value key = (value.get? key).bind Json.asString? := by
  rw [textField, firstField_cons]
  cases value.get? key with
  | none => rfl
  | some v => cases v <;> rfl

theorem ReadsAs.isNull {value : Json} {n : Int} (h : ReadsAs value n) : value.isNull = false := by
  rcases h with ⟨⟨-⟩ | ⟨-⟩, -⟩ | - <;> rfl

/-- No id is missed because null is passed over. -/
theorem exists_filter_readsAs_iff (found : Option Json) (n : Int) :
    (∃ v, found.filter (fun v => !v.isNull) = some v ∧ ReadsAs v n) ↔
      ∃ v, found = some v ∧ ReadsAs v n := by
  simp only [Option.filter_eq_some_iff, and_assoc]
  constructor
  · rintro ⟨v, hv, -, hreads⟩
    exact ⟨v, hv, hreads⟩
  · rintro ⟨v, hv, hreads⟩
    exact ⟨v, hv, by simp [hreads.isNull], hreads⟩

/-- An id is read under its own key or, where that has nothing but null, under the other. -/
theorem id_ofJson_eq_some_iff (value : Json) (name : IdName) (n : Int) :
    (Item.ofJson value).id name = some n ↔ (∃ v, value.get? name.key = some v ∧ ReadsAs v n) ∨
      (∀ v, value.get? name.key = some v → v.isNull = true) ∧
        ∃ v, value.get? name.alias = some v ∧ ReadsAs v n := by
  have hlast : firstField value [] = none := rfl
  rw [id_ofJson, idField_eq_some_iff, firstField_cons, firstField_cons, hlast, Option.or_none,
    ← exists_filter_readsAs_iff (value.get? name.key),
      ← exists_filter_readsAs_iff (value.get? name.alias)]
  simp only [Option.or_eq_some_iff, or_and_right, exists_or, and_assoc, exists_and_left,
    Option.filter_eq_none_iff, Bool.not_eq_true', Bool.not_eq_false]

section

variable {fields : List (String × Json)} {key : String} {kind : KeyKind} {value : Json}
  (hvalue : (Json.object fields).get? key = some value) (hkind : itemKeys.lookup key = some kind)
  (hunreadable : ¬ kind.Holds value)

include hvalue hkind hunreadable

theorem textField_without (other : String) (hother : itemKeys.lookup other = some .text) :
    textField (.object (Json.without key fields)) other = textField (.object fields) other := by
  rw [textField_eq, textField_eq, Json.get_without]
  by_cases hkey : other = key
  · subst hkey
    obtain rfl := Option.some.inj (hkind.symm.trans hother)
    rw [if_pos rfl, hvalue]
    cases value with
    | string s => exact absurd ⟨s, rfl⟩ hunreadable
    | null | bool _ | number _ | array _ | object _ => rfl
  · rw [if_neg hkey]

theorem flagField_without (other : String) (hother : itemKeys.lookup other = some .flag) :
    flagField (.object (Json.without key fields)) other = flagField (.object fields) other := by
  rw [flagField, flagField, Json.get_without]
  by_cases hkey : other = key
  · subst hkey
    obtain rfl := Option.some.inj (hkind.symm.trans hother)
    rw [if_pos rfl, hvalue]
    cases value with
    | bool b => exact absurd (.inl ⟨b, rfl⟩) hunreadable
    | number x => exact absurd (.inr (.inl ⟨x, rfl⟩)) hunreadable
    | string s => exact absurd (.inr (.inr ⟨s, rfl⟩)) hunreadable
    | null | array _ | object _ => rfl
  · rw [if_neg hkey]

end

/-- A value stands in front of an id that could be read under the other key. -/
structure Hides (name : IdName) (value : Json) (fields : List (String × Json)) : Prop where
  isNull : value.isNull = false
  hidden : ∃ v n, (Json.object fields).get? name.alias = some v ∧ ReadsAs v n

section

variable {fields : List (String × Json)} {key : String} {value : Json}

theorem hides_iff (name : IdName) (hkey : key = name.key) : Hides name value fields ↔
    value.isNull = false ∧ ((Item.ofJson (.object (Json.without key fields))).id name).isSome =
      true := by
  subst hkey
  simp only [Option.isSome_iff_exists, id_ofJson_eq_some_iff, Json.get_without,
    if_neg (alias_ne_key name name)]
  constructor
  · rintro ⟨hnull, v, n, hv, hreads⟩
    exact ⟨hnull, n, .inr ⟨by simp, v, hv, hreads⟩⟩
  · rintro ⟨hnull, n, ⟨v, hv, -⟩ | ⟨-, v, hv, hreads⟩⟩
    · simp at hv
    · exact ⟨hnull, v, n, hv, hreads⟩

variable (hvalue : (Json.object fields).get? key = some value)
  (hunreadable : ∀ n, ¬ ReadsAs value n)

include hvalue hunreadable

theorem id_without_of_alias (name : IdName) (hkey : key = name.alias) :
    (Item.ofJson (.object fields)).id name =
      (Item.ofJson (.object (Json.without key fields))).id name := by
  subst hkey
  apply Option.ext
  intro n
  rw [id_ofJson_eq_some_iff, id_ofJson_eq_some_iff, Json.get_without, Json.get_without, if_pos rfl,
    if_neg (alias_ne_key name name).symm, hvalue]
  simp [hunreadable]

/-- Under the first key of an id, null lets through what is read without it, and all else reads
as none. -/
theorem id_eq_of_key (name : IdName) (hkey : key = name.key) :
    (Item.ofJson (.object fields)).id name =
    if value.isNull then (Item.ofJson (.object (Json.without key fields))).id name else none := by
  subst hkey
  apply Option.ext
  intro n
  rw [id_ofJson_eq_some_iff, hvalue]
  split
  · rename_i hnull
    rw [id_ofJson_eq_some_iff, Json.get_without, Json.get_without, if_pos rfl,
      if_neg (alias_ne_key name name)]
    simp [hunreadable, hnull]
  · rename_i hnull
    simp [hunreadable, hnull]

/-- The value makes no difference to the id just where it hides none. -/
theorem id_without_iff (name : IdName) (hkey : key = name.key) :
    (Item.ofJson (.object fields)).id name =
      (Item.ofJson (.object (Json.without key fields))).id name ↔
      ¬ Hides name value fields := by
  rw [id_eq_of_key hvalue hunreadable name hkey, hides_iff name hkey]
  cases hnull : value.isNull with
  | true => simp
  | false =>
    rw [if_neg Bool.false_ne_true, eq_comm]
    simp

end

def Item.withoutId (item : Item) : IdName → Item
  | .series => { item with seriesId := none }
  | .episode => { item with episodeId := none }
  | .movie => { item with movieId := none }

def Item.bare (item : Item) : Item :=
  { item with seriesId := none, episodeId := none, movieId := none }

theorem Item.eq_of_bare {item other : Item} (hbare : item.bare = other.bare)
    (hid : ∀ name, item.id name = other.id name) : item = other := by
  have hseries : item.seriesId = other.seriesId := hid .series
  have hepisode : item.episodeId = other.episodeId := hid .episode
  have hmovie : item.movieId = other.movieId := hid .movie
  cases item
  cases other
  simp_all [Item.bare]

theorem Item.bare_withoutId (item : Item) (name : IdName) :
    (item.withoutId name).bare = item.bare := by
  cases name <;> rfl

theorem Item.id_withoutId (item : Item) (name other : IdName) :
    (item.withoutId name).id other = if other = name then none else item.id other := by
  cases name <;> cases other <;> rfl

section

variable {fields : List (String × Json)} {key : String} {kind : KeyKind} {value : Json}
  (hvalue : (Json.object fields).get? key = some value) (hkind : itemKeys.lookup key = some kind)
  (hunreadable : ¬ kind.Holds value)

include hvalue hkind hunreadable

theorem bare_ofJson_without :
    (Item.ofJson (.object fields)).bare =
      (Item.ofJson (.object (Json.without key fields))).bare := by
  have htext (other : String) (h : itemKeys.lookup other = some .text) :=
    textField_without hvalue hkind hunreadable other h
  have hflag (other : String) (h : itemKeys.lookup other = some .flag) :=
    flagField_without hvalue hkind hunreadable other h
  simp only [Item.bare, Item.ofJson, htext "type" rfl, htext "sourceLanguage" rfl,
    htext "targetLanguage" rfl, htext "subtitlePath" rfl, hflag "forced" rfl, hflag "hi" rfl]

omit hvalue in
theorem not_readsAs (hid : itemKeys.lookup key = some .id) (n : Int) : ¬ ReadsAs value n := by
  obtain rfl := Option.some.inj (hkind.symm.trans hid)
  exact fun hreads => hunreadable ⟨n, hreads⟩

theorem id_ofJson_without (name : IdName) (h : key ≠ name.key) :
    (Item.ofJson (.object fields)).id name =
      (Item.ofJson (.object (Json.without key fields))).id name := by
  by_cases halias : key = name.alias
  · have hnot := not_readsAs hkind hunreadable (halias ▸ lookup_alias name)
    exact id_without_of_alias hvalue hnot name halias
  · apply Option.ext
    intro n
    rw [id_ofJson_eq_some_iff, id_ofJson_eq_some_iff, Json.get_without, Json.get_without,
      if_neg (Ne.symm h), if_neg (Ne.symm halias)]

end

/-- A value that cannot be read under its key makes an item no different from one without it,
unless it stands in front of an id under the other key: then the item is without that id. -/
theorem ofJson_without (fields : List (String × Json)) (key : String) (kind : KeyKind)
    (value : Json) (hvalue : (Json.object fields).get? key = some value)
    (hkind : itemKeys.lookup key = some kind) (hunreadable : ¬ kind.Holds value) :
    let item := Item.ofJson (.object fields)
    let rest := Item.ofJson (.object (Json.without key fields))
    (item = rest ↔ ∀ name : IdName, key = name.key → ¬ Hides name value fields) ∧
      (item = rest → ∀ raw other, (item.request raw).mapError InvalidItem.kind =
        (rest.request other).mapError InvalidItem.kind) ∧
      ∀ name : IdName, key = name.key → Hides name value fields → item = rest.withoutId name := by
  intro item rest
  have hbare : item.bare = rest.bare := bare_ofJson_without hvalue hkind hunreadable
  have hother (name : IdName) (h : key ≠ name.key) : item.id name = rest.id name :=
    id_ofJson_without hvalue hkind hunreadable name h
  have hnot (name : IdName) (hkey : key = name.key) :=
    not_readsAs hkind hunreadable (hkey ▸ lookup_key name)
  refine ⟨⟨fun heq name hkey => ?_, fun hhides => ?_⟩, fun heq raw other => ?_,
    fun name hkey hhides => ?_⟩
  · exact (id_without_iff hvalue (hnot name hkey) name hkey).mp
      (congrArg (fun i => Item.id i name) heq)
  · apply Item.eq_of_bare hbare
    intro name
    by_cases hkey : key = name.key
    · exact (id_without_iff hvalue (hnot name hkey) name hkey).mpr (hhides name hkey)
    · exact hother name hkey
  · rw [heq, request_mapError_kind]
  · apply Item.eq_of_bare (hbare.trans (rest.bare_withoutId name).symm)
    intro other
    rw [Item.id_withoutId]
    split
    · rename_i hname
      subst hname
      have hnull := hhides.isNull
      rw [id_eq_of_key hvalue (hnot other hkey) other hkey, hnull, if_neg Bool.false_ne_true]
    · rename_i hname
      exact hother other fun hkey' => hname (key_injective (hkey'.symm.trans hkey))

/-- A list is no flag and makes no difference. A word is no id, but it hides the one under the
other key. -/
theorem ofJson_without_film :
    let fields := Json.sortFields [("type", .string "movie"), ("movieId", .string "twelve"),
      ("radarrId", .ofInt 6), ("sourceLanguage", .string "en"), ("targetLanguage", .string "fr"),
      ("hi", .array [.bool true])]
    Item.ofJson (.object fields) = Item.ofJson (.object (Json.without "hi" fields)) ∧
      Item.ofJson (.object fields) = (Item.ofJson
        (.object (Json.without "movieId" fields))).withoutId .movie ∧
      (Item.ofJson (.object (Json.without "movieId" fields))).id .movie = some 6 := by
  intro fields
  have hflag : ¬ KeyKind.flag.Holds (.array [.bool true]) := by
    rintro (⟨_, h⟩ | ⟨_, h⟩ | ⟨_, h⟩) <;> cases h
  have hword : ¬ KeyKind.id.Holds (.string "twelve") := by
    rintro ⟨n, hreads⟩
    have hnone : Number.signed? (Text.trim "twelve".toList) = none := by decide
    rw [← signed_trim_eq_some_iff, hnone] at hreads
    cases hreads
  have hhides : Hides .movie (.string "twelve") fields :=
    ⟨rfl, .ofInt 6, 6, rfl, .denoted (.number rfl) ⟨by decide, by decide⟩⟩
  refine ⟨(ofJson_without fields "hi" .flag _ rfl rfl hflag).1.mpr ?_,
    (ofJson_without fields "movieId" .id _ rfl rfl hword).2.2 .movie rfl hhides, by decide +kernel⟩
  intro name hkey
  cases name <;> exact absurd hkey (by decide)

/-- With a word for one id of a film, no request is made; without the word, the other id is
taken. -/
theorem wrong_type_hides_id :
    let fields := Json.sortFields [("type", .string "movie"), ("movieId", .string "twelve"),
      ("radarrId", .ofInt 6), ("sourceLanguage", .string "en"), ("targetLanguage", .string "fr")]
    let item := Item.ofJson (.object fields)
    let rest := Item.ofJson (.object (Json.without "movieId" fields))
    item.movieId = none ∧ item.request "" = .error (.missingIds "movieId") ∧ rest.movieId = some 6 ∧
      rest.request "" = .ok (.make (.movie 6) "en" "fr" false false none) := by
  decide +kernel

end Batch

end Subtitling
