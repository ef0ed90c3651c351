import SelfCert.Proofs.DataWire
import SelfCert.Proofs.DocumentWire

/-!
# The text of a map stands for the map

Metas, documents, encoded data and files may be given as maps or as strings that hold the compact
JSON text of a map. Every reader takes a string of more than eight bytes for the map it holds
(`Json.embedded?_compact`). A shorter text has no room for a key of three letters
(`Json.get?_eq_none_of_short`), so that the map lacks what each reader asks for; and the text is
neither encoded data nor an address, because it ends with a brace and does not hold the mark of
addresses (`Json.occursIn_mark_compact`).
-/

namespace SelfCert

namespace Json

variable {levels : Nat} {fields : Object} {key : String} {value : Json}

/-! ### Fields inside the text of an object -/

theorem toList_compact_object (fields : Object) :
    (object fields).compact.toList = '\x7b' :: (fieldsText fields ++ ['\x7d']) := by
  rw [compact, String.toList_ofList, text, List.cons_append]

theorem getLast?_compact_object (fields : Object) :
    (object fields).compact.toList.getLast? = some '\x7d' := by
  rw [toList_compact_object, ← List.cons_append, List.getLast?_concat]

/-- **A text that is long enough holds its map.** -/
theorem embedded?_compact (h : IsPlain maxDepth (.object fields))
    (hsize : minEmbeddedSize < (object fields).compact.utf8ByteSize) :
    embedded? (object fields).compact = some fields := by
  have hhead : (object fields).compact.toList.head? = some '\x7b' := by
    rw [toList_compact_object, List.head?_cons]
  rw [embedded?, if_pos ⟨hsize, hhead, getLast?_compact_object fields⟩, parseObject?_compact h]

theorem IsPlain.of_mem (h : IsPlain levels (.object fields)) (hfield : (key, value) ∈ fields) :
    ∃ deeper, IsPlain deeper value := by
  cases h with
  | object sorted hfields => exact ⟨_, hfields _ hfield⟩

theorem length_quoted (s : String) :
    (quoted s).length = (s.toList.flatMap escape).length + 2 := by
  simp [quoted]

/-- Escaping does not make a text shorter. -/
theorem length_le_length_flatMap_escape (chars : List Char) :
    chars.length ≤ (chars.flatMap escape).length := by
  induction chars with
  | nil => exact Nat.le_refl _
  | cons c chars ih =>
    have hpos : 0 < (escape c).length := by
      unfold escape
      split_ifs <;> exact Nat.succ_pos _
    rw [List.flatMap_cons, List.length_append, List.length_cons]
    omega

/-- Each field stands in the text of all. -/
theorem field_isInfix_fieldsText (h : (key, value) ∈ fields) :
    quoted key ++ ':' :: value.text <:+: fieldsText fields := by
  induction fields with
  | nil => cases h
  | cons first rest ih =>
    obtain ⟨name, x⟩ := first
    cases rest with
    | nil =>
      cases List.mem_singleton.mp h
      rw [fieldsText]
    | cons second rest =>
      rw [fieldsText]
      rcases List.mem_cons.mp h with heq | h
      · cases heq
        exact (List.prefix_append _ _).isInfix
      · exact (ih h).trans ((List.suffix_cons _ _).trans (List.suffix_append _ _)).isInfix

/-- A field takes up its key, two quotes, a colon and at least one character of a value. -/
theorem length_key_add_le (h : IsPlain levels (.object fields)) (hfield : (key, value) ∈ fields) :
    key.toList.length + 4 ≤ (fieldsText fields).length := by
  obtain ⟨deeper, hvalue⟩ := h.of_mem hfield
  obtain ⟨c, rest, htext, -⟩ := hvalue.exists_startsValue
  have hkey := length_le_length_flatMap_escape key.toList
  have hinfix := (field_isInfix_fieldsText hfield).length_le
  rw [List.length_append, List.length_cons, length_quoted, htext, List.length_cons] at hinfix
  omega

/-! ### Texts that are too short -/

theorem embedded?_eq_none_of_short {text : String} (hsize : text.utf8ByteSize ≤ minEmbeddedSize) :
    embedded? text = none := by
  rw [embedded?, if_neg fun hall => absurd hall.1 (Nat.not_lt.mpr hsize)]

/-- Between the braces of a short text there is room for six characters. -/
theorem length_fieldsText_le (hsize : (object fields).compact.utf8ByteSize ≤ minEmbeddedSize) :
    (fieldsText fields).length ≤ 6 := by
  have hlength := (Text.length_le_utf8ByteSize (object fields).compact).trans hsize
  rw [toList_compact_object, List.length_cons, List.length_append, List.length_singleton,
    minEmbeddedSize] at hlength
  omega

/-- **A map with a short text has no key of three letters or more.** -/
theorem get?_eq_none_of_short (h : IsPlain maxDepth (.object fields))
    (hsize : (object fields).compact.utf8ByteSize ≤ minEmbeddedSize)
    (hkey : 3 ≤ key.toList.length) : Table.get? key fields = none := by
  by_contra hne
  obtain ⟨value, hvalue⟩ := Option.ne_none_iff_exists'.mp hne
  have hfield := length_key_add_le h (Table.mem_of_get?_eq_some hvalue)
  have hlength := length_fieldsText_le hsize
  omega

/-- The text of fields begins with a key in quotes, a colon and a value. -/
theorem exists_fieldsText_eq_cons {rest : Object}
    (h : IsPlain levels (.object ((key, value) :: rest))) :
    ∃ c tail, startsValue c ∧ fieldsText ((key, value) :: rest) =
      '"' :: (key.toList.flatMap escape ++ '"' :: ':' :: c :: tail) := by
  obtain ⟨deeper, hvalue⟩ := h.of_mem List.mem_cons_self
  obtain ⟨c, more, htext, hstarts⟩ := hvalue.exists_startsValue
  cases rest with
  | nil => exact ⟨c, more, hstarts, by simp [fieldsText, quoted, htext]⟩
  | cons second rest =>
    exact ⟨c, more ++ ',' :: fieldsText (second :: rest), hstarts,
      by simp [fieldsText, quoted, htext]⟩

/-- Two characters beside the ones that a field needs have no room for the mark of addresses. -/
theorem not_mark_isInfix_field {c : Char} (hstarts : startsValue c) {name tail : List Char}
    (hlength : name.length + tail.length ≤ 2) :
    ¬"://".toList <:+: '\x7b' :: '"' :: (name ++ '"' :: ':' :: c :: tail) := by
  have hc : c ∉ ['/', ':'] := notMem_of_startsValue hstarts (by decide)
  simp only [List.mem_cons, List.not_mem_nil, or_false, not_or] at hc
  have hsplit : '\x7b' :: '"' :: (name ++ '"' :: ':' :: c :: tail) =
      ['\x7b'] ++ '"' :: (name ++ '"' :: ':' :: c :: tail) := rfl
  rw [hsplit]
  intro hmark
  -- The mark holds no quotes, so it would stand inside the key or behind it.
  obtain hmark | hmark := Text.isInfix_or_isInfix (by decide) hmark
  · exact absurd hmark.length_le (by decide)
  obtain hmark | hmark := Text.isInfix_or_isInfix (by decide) hmark
  · have hname : 3 ≤ name.length := hmark.length_le
    omega
  -- Behind the key comes a colon, but then the value, which does not begin with a slash.
  rw [List.infix_cons_iff, List.infix_cons_iff] at hmark
  obtain hmark | hmark | hmark := hmark
  · exact hc.1 (List.cons_prefix_cons.mp (List.cons_prefix_cons.mp hmark).2).1.symm
  · exact hc.2 (List.cons_prefix_cons.mp hmark).1.symm
  · have htail : 3 ≤ tail.length := hmark.length_le
    omega

/-- **A short text does not hold the mark of addresses.** -/
theorem occursIn_mark_compact (h : IsPlain maxDepth (.object fields))
    (hsize : (object fields).compact.utf8ByteSize ≤ minEmbeddedSize) :
    Text.occursIn "://".toList (object fields).compact.toList = false := by
  have hlength := length_fieldsText_le hsize
  rw [Bool.eq_false_iff, ne_eq, Text.occursIn_iff, toList_compact_object, ← List.cons_append]
  intro hmark
  obtain hmark | hmark := Text.isInfix_or_isInfix (by decide) hmark
  · cases fields with
    | nil => exact absurd hmark.length_le (by decide)
    | cons first rest =>
      obtain ⟨c, tail, hstarts, htext⟩ := exists_fieldsText_eq_cons h
      rw [htext] at hmark hlength
      simp only [List.length_cons, List.length_append] at hlength
      exact not_mark_isInfix_field hstarts (by omega) hmark
  · exact absurd hmark.length_le (by decide)

end Json

/-! ### Files -/

namespace NetworkFile

variable {encodings : Registry Encoding} {file : NetworkFile}

/-- The content of the map of a data URI is the whole map. -/
theorem contentOf?_toMap (uri : DataUri) : contentOf? uri.toMap = some (.object uri.toMap) := by
  obtain ⟨halgorithm, hdata⟩ := DataUri.get?_toMap uri
  have hcontains : Table.contains "algorithm" uri.toMap :=
    Table.contains_of_get?_eq_some halgorithm
  have hkeys : ∀ field ∈ uri.toMap, ["algorithm", "data", "mime-type"].contains field.1 :=
    fun _ hfield => List.contains_iff_mem.mpr (DataUri.key_mem_of_mem_toMap hfield)
  rw [contentOf?, Json.Object.present?, hdata]
  simp only [Option.map_some]
  rw [if_pos (.inl hcontains), List.filter_eq_self.mpr hkeys]

/-- The content of a file is what its value is read as. -/
theorem content_of_ofFields_eq_ok {fields : Json.Object}
    (h : ofFields encodings fields = .ok file) :
    ∀ value ∈ contentOf? fields, ∃ encoded, EncodedData.ofJson encodings value = .ok encoded := by
  intro value hvalue
  rw [ofFields, Option.mem_def.mp hvalue] at h
  obtain ⟨content, hcontent, -⟩ := Except.bind_eq_ok_iff.mp h
  obtain ⟨encoded, hread, -⟩ := Except.map_eq_ok_iff.mp hcontent
  exact ⟨encoded, hread⟩

/-- No text that ends with a brace is a file, unless it holds a map or the mark of addresses. -/
theorem ofFields_string_ne_ok {text : String} (hnone : Json.embedded? text = none)
    (hlast : text.toList.getLast? = some '\x7d')
    (hmark : Text.occursIn "://".toList text.toList = false) :
    ∀ fields ∈ fields? (.string text), ofFields encodings fields ≠ .ok file := by
  intro fields hfields h
  rw [fields?, hnone] at hfields
  simp only at hfields
  split at hfields
  · next uri huri =>
    cases hfields
    obtain ⟨encoded, hread⟩ := content_of_ofFields_eq_ok h _ (contentOf?_toMap uri)
    obtain ⟨fields, data, hfields, hdata, hbrace⟩ := EncodedData.exists_data_of_ofJson_eq_ok hread
    cases hfields
    rw [(DataUri.string?_toMap uri).2.1, Option.some_inj] at hdata
    exact hbrace (hdata ▸ DataUri.mem_body_of_parse?_eq_some huri (by decide) hlast)
  · rw [hmark] at hfields
    cases hfields

end NetworkFile

/-! ### Contexts -/

namespace Context

variable {fields : Json.Object} {text : String} (context : Context)

/-- **A text that holds a map is read as the map**, by every reader. -/
theorem parse_string_of_embedded? (h : Json.embedded? text = some fields) :
    context.parseMeta (.string text) = context.parseMeta (.object fields) ∧
      context.parseDocument (.string text) = context.parseDocument (.object fields) ∧
      context.parseData (.string text) = context.parseData (.object fields) ∧
      context.parseFile (.string text) = context.parseFile (.object fields) := by
  have hmap : (Json.string text).mapOf? = (Json.object fields).mapOf? := h
  have hdata : EncodedData.fields? (.string text) = EncodedData.fields? (.object fields) := by
    simp only [EncodedData.fields?, h, Option.getD_some]
  have hfile : NetworkFile.fields? (.string text) = NetworkFile.fields? (.object fields) := by
    simp only [NetworkFile.fields?, h]
  refine ⟨?_, ?_, ?_, ?_⟩
  · rw [parseMeta, parseMeta, hmap]
  · rw [parseDocument, parseDocument, documentFields, documentFields, hmap]
  · rw [parseData, parseData, EncodedData.ofJson, EncodedData.ofJson, hdata]
  · rw [parseFile, parseFile, hfile]

/-- That every reader of a context refuses a value. -/
def RefusesAll (value : Json) : Prop :=
  (∃ error, context.parseMeta value = .error error) ∧
    (∃ error, (context.parseDocument value).1 = .error error) ∧
    (∃ error, context.parseData value = .error error) ∧
    ∃ error, context.parseFile value = .error error

/-- Every reader refuses a map without the keys that it asks for. -/
theorem refusesAll_object (h : ∀ key ∈ ["type", "did", "data", "filename", "URL"],
    Table.get? key fields = none) : context.RefusesAll (.object fields) := by
  simp only [List.forall_mem_cons, List.not_mem_nil, false_imp_iff, implies_true, and_true] at h
  obtain ⟨htype, hdid, hdata, hfilename, hurl⟩ := h
  refine ⟨⟨.missingType, ?_⟩, ?_, ?_, ?_⟩
  · rw [parseMeta, Json.mapOf?]
    simp only [htype, Option.bind_none]
  · rw [parseDocument]
    cases hfields : context.documentFields (.object fields) with
    | error error => exact ⟨error, rfl⟩
    | ok found =>
      obtain ⟨hrequire, hfound⟩ : context.requireDocuments _ = .ok () ∧ fields = found := by
        rw [documentFields, Json.mapOf?] at hfields
        obtain ⟨_, hrequire, hfound⟩ := Except.bind_eq_ok_iff.mp hfields
        exact ⟨hrequire, Except.ok.inj hfound⟩
      refine ⟨.missingDid, ?_⟩
      simp only
      rw [← hfound, Document.didOf, Json.Object.string?, hdid]
      rfl
  · apply Except.exists_eq_error
    intro encoded hread
    obtain ⟨found, text, hfound, htext, -⟩ := EncodedData.exists_data_of_ofJson_eq_ok hread
    cases hfound
    rw [Json.Object.string?, hdata] at htext
    cases htext
  · apply Except.exists_eq_error
    intro file hread
    obtain ⟨-, -, hread⟩ := Except.bind_eq_ok_iff.mp hread
    have hcontent : NetworkFile.contentOf? fields = none := by
      rw [NetworkFile.contentOf?, Json.Object.present?, hdata]
      rfl
    have htext : NetworkFile.textOf? fields "filename" = none ∧
        NetworkFile.textOf? fields "URL" = none := by
      rw [NetworkFile.textOf?, NetworkFile.textOf?, Json.Object.string?, Json.Object.string?,
        hfilename, hurl]
      exact ⟨rfl, rfl⟩
    rw [NetworkFile.ofFields, hcontent, htext.1, htext.2] at hread
    cases hread

/-- Every reader refuses a text that ends with a brace but holds neither a map nor the mark of
addresses. -/
theorem refusesAll_string (hnone : Json.embedded? text = none)
    (hlast : text.toList.getLast? = some '\x7d')
    (hmark : Text.occursIn "://".toList text.toList = false) :
    context.RefusesAll (.string text) := by
  refine ⟨⟨.notMap, ?_⟩, ⟨.notMap, ?_⟩, ?_, ?_⟩
  · rw [parseMeta, Json.mapOf?, hnone]
  · rw [parseDocument, documentFields, Json.mapOf?, hnone]
  · exact Except.exists_eq_error fun _ => EncodedData.ofJson_string_ne_ok hnone hlast
  · apply Except.exists_eq_error
    intro file hread
    unfold parseFile at hread
    split at hread
    · cases hread
    · next found hfields =>
      obtain ⟨-, -, hread⟩ := Except.bind_eq_ok_iff.mp hread
      exact NetworkFile.ofFields_string_ne_ok hnone hlast hmark found hfields hread

end Context

/-- **The text of a map stands for the map.** A standard context, whatever was requested before,
reads a string that holds the compact text of an object, without floating-point numbers and nested
at most 127 levels, exactly as it reads the object, as a meta, as a document, as encoded data and as
a file, if the text is longer than eight bytes. If it is not, every reader refuses the string and
the object. -/
theorem map_text_stands_for_map (requests : List Request) {fields : Json.Object}
    (hplain : Json.IsPlain 127 (.object fields)) :
    let context := Context.after requests
    let text := (Json.object fields).compact
    (8 < text.utf8ByteSize →
      context.parseMeta (.string text) = context.parseMeta (.object fields) ∧
        context.parseDocument (.string text) = context.parseDocument (.object fields) ∧
        context.parseData (.string text) = context.parseData (.object fields) ∧
        context.parseFile (.string text) = context.parseFile (.object fields)) ∧
      (text.utf8ByteSize ≤ 8 →
        context.RefusesAll (.string text) ∧ context.RefusesAll (.object fields)) := by
  intro context text
  refine ⟨fun hsize => ?_, fun hsize => ⟨?_, ?_⟩⟩
  · exact context.parse_string_of_embedded? (Json.embedded?_compact hplain hsize)
  · exact context.refusesAll_string (Json.embedded?_eq_none_of_short hsize)
      (Json.getLast?_compact_object fields) (Json.occursIn_mark_compact hplain hsize)
  · refine context.refusesAll_object fun key hkey => Json.get?_eq_none_of_short hplain hsize ?_
    have hkeys : ∀ key ∈ ["type", "did", "data", "filename", "URL"], 3 ≤ key.toList.length := by
      decide
    exact hkeys key hkey

/-- A map of eleven bytes is read from its text, and one of eight is not. -/
theorem map_text_stands_for_map_url :
    (Context.after []).parseFile (.string "\x7b\"URL\":\"a\"\x7d") = .ok (.ofUrl "a") ∧
      (Context.after []).RefusesAll (.string "\x7b\"a\":\"\"\x7d") := by
  have hplain (key text : String) : Json.IsPlain 127 (.object [(key, .string text)]) := by
    refine .object (List.pairwise_singleton _ _) fun field hfield => ?_
    rw [List.mem_singleton.mp hfield]
    exact .string 126 text
  have hlong : (Json.object [("URL", .string "a")]).compact = "\x7b\"URL\":\"a\"\x7d" := by decide
  have hshort : (Json.object [("a", .string "")]).compact = "\x7b\"a\":\"\"\x7d" := by decide
  rw [← hlong, ← hshort]
  constructor
  · exact ((map_text_stands_for_map [] (hplain "URL" "a")).1 (by decide)).2.2.2.trans rfl
  · exact ((map_text_stands_for_map [] (hplain "a" "")).2 (by decide)).1

end SelfCert
