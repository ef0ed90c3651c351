import SelfCert.Proofs.DataUri

/-!
# Maps that are written as data URIs

A data URI is built from a map of data and type if the map has no other fields than an encoding and
a name. Whether it has is found by counting: the fields that are known are taken off the size of the
map. The tags of a map are all different, so no step goes below zero and what is left is the number
of the other fields (`DataUri.extraFields?_eq_some_length`). A map is built from exactly if there is
a data URI that expresses it (`DataUri.build?_eq_some_iff`), and there is one at most. Nothing but
the name is lost, and with a plain type the data URI is read back
(`built_data_uris_lose_only_names`).
-/

namespace SelfCert

namespace Json

theorem asString?_eq_some_iff {value : Json} {text : String} :
    value.asString? = some text ↔ value = .string text := by
  cases value <;> simp [asString?]

/-- The string under a key is what stands there, if it is a string. -/
theorem Object.string?_eq_some_iff {fields : Object} {key text : String} :
    fields.string? key = some text ↔ Table.get? key fields = some (.string text) := by
  simp [Object.string?, Option.bind_eq_some_iff, asString?_eq_some_iff]

end Json

namespace DataUri

variable {map : Json.Object} {uri : DataUri}

/-! ### Counting the fields of a map -/

/-- The keys of the parts of a data URI, and that of the name, which it does not keep. -/
def knownKeys : List String := ["data", "mime-type", "algorithm", "filename"]

/-- The fields of a map for which a data URI has no place. -/
def otherFields (map : Json.Object) : Json.Object :=
  map.filter fun field => field.1 ∉ knownKeys

/-- Taking off a part undoes adding it. -/
theorem takeOff?_eq_some_iff {part n rest : Nat} :
    takeOff? part n = some rest ↔ n = rest + part := by
  simp only [takeOff?, Option.ite_none_right_eq_some, Option.some.injEq]
  omega

/-- The count and the fields that are known make up the map. -/
theorem extraFields?_eq_some_iff {count : Nat} :
    extraFields? map = some count ↔
      map.length = count + (if Table.contains "algorithm" map then 1 else 0) +
        (if Table.contains "filename" map then 1 else 0) + 2 := by
  simp only [extraFields?, Option.bind_eq_bind, Option.bind_eq_some_iff, takeOff?_eq_some_iff]
  constructor
  · rintro ⟨_, hlength, _, rfl, rfl⟩
    exact hlength
  · intro hlength
    exact ⟨_, hlength, _, rfl, rfl⟩

/-- **What is counted are the fields for which a data URI has no place**, if there are data and a
type: no step of the count goes below zero then. -/
theorem extraFields?_eq_some_length (hsorted : Table.IsSorted map)
    (hdata : Table.contains "data" map) (hmime : Table.contains "mime-type" map) :
    extraFields? map = some (otherFields map).length := by
  have hnodup : knownKeys.Nodup := by decide
  have hlength := hsorted.length_eq hnodup
  rw [← otherFields] at hlength
  -- Of the four keys two are found, and the count asks for the other two.
  simp only [knownKeys, List.filter_cons, hdata, hmime, if_true, List.filter_nil] at hlength
  rw [extraFields?_eq_some_iff, hlength]
  split_ifs <;> simp only [List.length_cons, List.length_nil] <;> omega

/-- Nothing is left of the count exactly if there are no other fields. -/
theorem extraFields?_eq_some_zero_iff {data mime : Json} (hsorted : Table.IsSorted map)
    (hdata : Table.get? "data" map = some data) (hmime : Table.get? "mime-type" map = some mime) :
    extraFields? map = some 0 ↔ otherFields map = [] := by
  rw [extraFields?_eq_some_length hsorted (Table.contains_of_get?_eq_some hdata)
    (Table.contains_of_get?_eq_some hmime), Option.some_inj, List.length_eq_zero_iff]

/-- There are no other fields exactly if all keys are known. -/
theorem otherFields_eq_nil_iff :
    otherFields map = [] ↔ ∀ key, Table.contains key map → key ∈ knownKeys := by
  simp [otherFields, List.filter_eq_nil_iff, Table.contains_iff_mem_tags, Table.tags]

/-! ### Building -/

/-- Whether a map names an encoding: Base64 needs no field. -/
def NamesEncoding (map : Json.Object) (algorithm : String) : Prop :=
  Table.get? "algorithm" map = some (.string algorithm) ∨
    Table.get? "algorithm" map = none ∧ algorithm = "base64"

/-- Whether a data URI says what a map says: its parts stand in the map, and there are no other
fields than a name. -/
structure Expresses (uri : DataUri) (map : Json.Object) : Prop where
  data : Table.get? "data" map = some (.string uri.body)
  mimeType : ∃ mime, uri.mimeType = some mime ∧ Table.get? "mime-type" map = some (.string mime)
  algorithm : NamesEncoding map uri.algorithm
  others : otherFields map = []

/-- The encoding that is built with is the one that the map names. -/
theorem namesEncoding_iff {algorithm : String} :
    (match Table.get? "algorithm" map with
      | some value => value.asString?
      | none => some "base64") = some algorithm ↔ NamesEncoding map algorithm := by
  rw [NamesEncoding]
  cases Table.get? "algorithm" map with
  | none => simp [eq_comm]
  | some value => simp [Json.asString?_eq_some_iff]

/-- An encoding is named unless there is a field for it that is no string. -/
theorem exists_namesEncoding_iff :
    (∃ algorithm, NamesEncoding map algorithm) ↔
      ∀ value, Table.get? "algorithm" map = some value →
        ∃ algorithm, value = .string algorithm := by
  simp only [NamesEncoding]
  cases Table.get? "algorithm" map <;> simp

/-- A map is expressed by one data URI at most. -/
theorem Expresses.eq {other : DataUri} (h : uri.Expresses map) (hother : other.Expresses map) :
    uri = other := by
  obtain ⟨mimeType, algorithm, body⟩ := uri
  obtain ⟨mimeType', algorithm', body'⟩ := other
  obtain ⟨hdata, ⟨mime, rfl, hmime⟩, halgorithm, -⟩ := h
  obtain ⟨hdata', ⟨mime', rfl, hmime'⟩, halgorithm', -⟩ := hother
  obtain rfl : body = body' := by simpa using hdata.symm.trans hdata'
  obtain rfl : mime = mime' := by simpa using hmime.symm.trans hmime'
  obtain rfl : algorithm = algorithm' := by
    simpa using (namesEncoding_iff.mpr halgorithm).symm.trans (namesEncoding_iff.mpr halgorithm')
  rfl

/-- **The texts that are built from a map** are those of the data URIs that express it. -/
theorem build?_eq_some_iff (hsorted : Table.IsSorted map) {text : String} :
    build? map = some text ↔ ∃ uri : DataUri, uri.Expresses map ∧ uri.toString = text := by
  constructor
  · intro h
    unfold build? at h
    split at h
    · next data mime hdata hmime =>
      rw [Json.Object.string?_eq_some_iff] at hdata hmime
      split_ifs at h with hcount
      obtain ⟨algorithm, halgorithm, htext⟩ := Option.map_eq_some_iff.mp h
      rw [extraFields?_eq_some_zero_iff hsorted hdata hmime] at hcount
      exact ⟨⟨some mime, algorithm, data⟩,
        ⟨hdata, ⟨mime, rfl, hmime⟩, namesEncoding_iff.mp halgorithm, hcount⟩, htext⟩
    · cases h
  · rintro ⟨⟨mimeType, algorithm, data⟩, ⟨hdata, ⟨mime, rfl, hmime⟩, halgorithm, hothers⟩, rfl⟩
    have hcount := (extraFields?_eq_some_zero_iff hsorted hdata hmime).mpr hothers
    rw [build?, Json.Object.string?_eq_some_iff.mpr hdata,
      Json.Object.string?_eq_some_iff.mpr hmime]
    simp only
    rw [if_pos hcount]
    exact Option.map_eq_some_iff.mpr ⟨algorithm, namesEncoding_iff.mpr halgorithm, rfl⟩

/-- **Which maps are built from**: data and type are strings, the encoding is a string or missing,
and all keys are known. -/
theorem isSome_build?_iff (hsorted : Table.IsSorted map) :
    (build? map).isSome ↔
      (∃ data, Table.get? "data" map = some (.string data)) ∧
        (∃ mime, Table.get? "mime-type" map = some (.string mime)) ∧
        (∀ value, Table.get? "algorithm" map = some value →
          ∃ algorithm, value = .string algorithm) ∧
        ∀ key, Table.contains key map → key ∈ knownKeys := by
  rw [← exists_namesEncoding_iff, ← otherFields_eq_nil_iff, Option.isSome_iff_exists]
  simp only [build?_eq_some_iff hsorted]
  constructor
  · rintro ⟨-, uri, ⟨hdata, ⟨mime, -, hmime⟩, halgorithm, hothers⟩, rfl⟩
    exact ⟨⟨uri.body, hdata⟩, ⟨mime, hmime⟩, ⟨uri.algorithm, halgorithm⟩, hothers⟩
  · rintro ⟨⟨data, hdata⟩, ⟨mime, hmime⟩, ⟨algorithm, halgorithm⟩, hothers⟩
    exact ⟨_, ⟨some mime, algorithm, data⟩, ⟨hdata, ⟨mime, rfl, hmime⟩, halgorithm, hothers⟩, rfl⟩

/-- **Nothing but the name is lost**: every other field of the map is one of the data URI. -/
theorem Expresses.get?_toMap (h : uri.Expresses map) {key : String} {value : Json}
    (hne : key ≠ "filename") (hvalue : Table.get? key map = some value) :
    Table.get? key uri.toMap = some value := by
  obtain ⟨halgorithm, hdata⟩ := DataUri.get?_toMap uri
  have hkey : key ∈ knownKeys :=
    otherFields_eq_nil_iff.mp h.others key (Table.contains_of_get?_eq_some hvalue)
  simp only [knownKeys, List.mem_cons, List.not_mem_nil, or_false] at hkey
  rcases hkey with rfl | rfl | rfl | rfl
  · rw [hdata, ← h.data, hvalue]
  · obtain ⟨mime, hmime, hfield⟩ := h.mimeType
    rw [← hvalue, hfield, ← Json.Object.string?_eq_some_iff, (string?_toMap uri).2.2, hmime]
  · rcases h.algorithm with hnamed | ⟨hmissing, -⟩
    · rw [halgorithm, ← hnamed, hvalue]
    · rw [hmissing] at hvalue
      cases hvalue
  · exact absurd rfl hne

end DataUri

/-- **Building a data URI loses nothing but the name of the file.** In a map of data and type the
count of the extra fields does not go below zero in any step, and it is the number of the fields
under other keys than the four known ones. A text is built exactly if data and type are strings, the
encoding is a string or missing and there are no other fields. It is the text of a data URI that has
the type, the encoding, or else Base64, and the data of the map and keeps every field but the name;
and if the type is plain and no comma stands in the name of the encoding, it is read as this data
URI. -/
theorem built_data_uris_lose_only_names (map : Json.Object) (hsorted : Table.IsSorted map) :
    (Table.contains "data" map → Table.contains "mime-type" map →
        ∃ count, DataUri.extraFields? map = some count ∧
          count = (map.filter fun field =>
            field.1 ∉ ["data", "mime-type", "algorithm", "filename"]).length) ∧
      ((DataUri.build? map).isSome ↔
        (∃ data, Table.get? "data" map = some (.string data)) ∧
          (∃ mime, Table.get? "mime-type" map = some (.string mime)) ∧
          (∀ value, Table.get? "algorithm" map = some value →
            ∃ algorithm, value = .string algorithm) ∧
          ∀ key, Table.contains key map →
            key ∈ ["data", "mime-type", "algorithm", "filename"]) ∧
      ∀ text, DataUri.build? map = some text →
        ∃ mime algorithm data,
          Table.get? "mime-type" map = some (.string mime) ∧
          (Table.get? "algorithm" map = some (.string algorithm) ∨
            Table.get? "algorithm" map = none ∧ algorithm = "base64") ∧
          Table.get? "data" map = some (.string data) ∧
          text = "data:" ++ mime ++ ";" ++ algorithm ++ "," ++ data ∧
          (∀ key value, key ≠ "filename" → Table.get? key map = some value →
            Table.get? key (DataUri.toMap ⟨some mime, algorithm, data⟩) = some value) ∧
          (mime ≠ "" → ',' ∉ mime.toList → ';' ∉ mime.toList → ',' ∉ algorithm.toList →
            DataUri.parse? text = some ⟨some mime, algorithm, data⟩) := by
  refine ⟨fun hdata hmime => ?_, DataUri.isSome_build?_iff hsorted, fun text htext => ?_⟩
  · exact ⟨_, DataUri.extraFields?_eq_some_length hsorted hdata hmime, rfl⟩
  · obtain ⟨⟨mimeType, algorithm, data⟩, hexpresses, rfl⟩ :=
      (DataUri.build?_eq_some_iff hsorted).mp htext
    obtain ⟨mime, rfl, hmime⟩ := hexpresses.mimeType
    refine ⟨mime, algorithm, data, hmime, hexpresses.algorithm, hexpresses.data, rfl,
      fun key value hne => hexpresses.get?_toMap hne, fun hne hcomma hsemicolon halgorithm => ?_⟩
    exact DataUri.parse?_toString_some_iff.mpr ⟨⟨hne, hcomma, hsemicolon⟩, halgorithm⟩

/-- The statement for the map of a picture with a name, and for the same map with an address, for
which a data URI has no place. -/
theorem built_data_uris_lose_only_names_picture :
    let picture : Json.Object := [("data", .string "bW9reQ=="), ("filename", .string "a.png"),
      ("mime-type", .string "image/png")]
    let addressed := ("URL", .string "https://cdn.example.com/a.png") :: picture
    Table.IsSorted picture ∧ Table.IsSorted addressed ∧
      DataUri.extraFields? picture = some 0 ∧
      DataUri.build? picture = some "data:image/png;base64,bW9reQ==" ∧
      DataUri.parse? "data:image/png;base64,bW9reQ==" =
        some ⟨some "image/png", "base64", "bW9reQ=="⟩ ∧
      DataUri.extraFields? addressed = some 1 ∧ DataUri.build? addressed = none := by
  intro picture addressed
  have hpicture : Table.IsSorted picture := by decide
  have haddressed : Table.IsSorted addressed := by decide
  obtain ⟨hcount, -, hbuilt⟩ := built_data_uris_lose_only_names picture hpicture
  obtain ⟨hcount', hsome, -⟩ := built_data_uris_lose_only_names addressed haddressed
  obtain ⟨count, hextra, rfl⟩ := hcount (by decide) (by decide)
  obtain ⟨count, hextra', rfl⟩ := hcount' (by decide) (by decide)
  have htext : DataUri.build? picture = some "data:image/png;base64,bW9reQ==" := by decide
  obtain ⟨mime, algorithm, data, hmime, halgorithm, hdata, -, -, hread⟩ := hbuilt _ htext
  obtain rfl : "image/png" = mime := Json.string.inj (Option.some.inj hmime)
  obtain rfl : "bW9reQ==" = data := Json.string.inj (Option.some.inj hdata)
  obtain rfl : algorithm = "base64" := by
    rcases halgorithm with hnamed | ⟨-, hmissing⟩
    · cases hnamed
    · exact hmissing
  refine ⟨hpicture, haddressed, hextra, htext,
    hread (by decide) (by decide) (by decide) (by decide), hextra', ?_⟩
  rw [← Option.not_isSome_iff_eq_none, hsome]
  exact fun h => absurd (h.2.2.2 "URL" (by decide)) (by decide)

end SelfCert
