import SelfCert.Proofs.DataUriMap
import SelfCert.Proofs.MapText

/-!
# Network files are read back

The map of a file holds all its parts, and the content in it is told apart from the other fields by
its keys (`NetworkFile.contentOf?_toMap`); so a file is what its map reads as. The compact form is
the map, or the address, or a data URI of nothing but the content (`NetworkFile.toJson_cases`). The
latter is not built where there is an address or a password
(`NetworkFile.build?_toMap_eq_some_iff`). A text of the last two kinds stands for the map of the
file that has this one part (`NetworkFile.fields?_toString`, `NetworkFile.fields?_url`), so nothing
but the name is lost (`network_files_read_back`).
-/

namespace SelfCert

namespace NetworkFile

variable {file : NetworkFile}

/-- Whether an address can be told from the other texts that stand for a file: it holds the mark of
addresses, does not carry its content in itself, and is neither a map nor a data URI. -/
structure IsPlainUrl (url : String) : Prop where
  mark : "://".toList <:+: url.toList
  notInline : ¬"data:".toList <+: url.toList
  notMap : Json.embedded? url = none
  notDataUri : DataUri.parse? url = none

/-! ### The map -/

/-- The fields of the content of a file. -/
def contentFields (file : NetworkFile) : Json.Object :=
  match file.data with
  | some encoded => encoded.toMap
  | none => []

/-- The map of a file is that of its content with the other parts put in. -/
theorem toMap_eq (file : NetworkFile) :
    file.toMap =
      (file.contentFields |> Table.put "filename" (file.filename.map .string)
        |> Table.put "URL" (file.url.map .string)
        |> Table.put "password" (file.password.map .object)) := by
  obtain ⟨data, filename, url, password, -⟩ := file
  cases filename <;> cases url <;> cases password <;> rfl

/-- The content has no fields but the three of a data URI. -/
theorem key_mem_of_mem_contentFields {field : String × Json} (h : field ∈ file.contentFields) :
    field.1 ∈ ["algorithm", "data", "mime-type"] := by
  unfold contentFields at h
  split at h
  · exact DataUri.key_mem_of_mem_toMap h
  · cases h

theorem get?_contentFields {key : String} (hkey : key ∉ ["algorithm", "data", "mime-type"]) :
    Table.get? key file.contentFields = none := by
  by_contra hne
  obtain ⟨value, hvalue⟩ := Option.ne_none_iff_exists'.mp hne
  exact hkey (key_mem_of_mem_contentFields (Table.mem_of_get?_eq_some hvalue))

/-- The map of a file is in order. -/
theorem isSorted_toMap (file : NetworkFile) : Table.IsSorted file.toMap := by
  have hcontent : Table.IsSorted file.contentFields := by
    rw [contentFields]
    split
    · exact DataUri.isSorted_toMap _
    · exact .nil
  rw [toMap_eq]
  exact ((hcontent.put _ _).put _ _).put _ _

/-- The other parts of a file stand under their keys. -/
theorem get?_toMap (file : NetworkFile) :
    Table.get? "filename" file.toMap = file.filename.map .string ∧
      Table.get? "URL" file.toMap = file.url.map .string ∧
      Table.get? "password" file.toMap = file.password.map .object := by
  rw [toMap_eq]
  refine ⟨?_, ?_, ?_⟩
  · rw [Table.get?_put_of_ne (by decide), Table.get?_put_of_ne (by decide),
      Table.get?_put_self (get?_contentFields (by decide))]
  · rw [Table.get?_put_of_ne (by decide), Table.get?_put_self]
    rw [Table.get?_put_of_ne (by decide), get?_contentFields (by decide)]
  · rw [Table.get?_put_self]
    rw [Table.get?_put_of_ne (by decide), Table.get?_put_of_ne (by decide),
      get?_contentFields (by decide)]

/-- The fields of the content are the same in the whole map. -/
theorem get?_toMap_content {key : String} (hkey : key ∈ ["algorithm", "data", "mime-type"]) :
    Table.get? key file.toMap = Table.get? key file.contentFields := by
  have hall : ∀ key ∈ ["algorithm", "data", "mime-type"],
      key ≠ "password" ∧ key ≠ "URL" ∧ key ≠ "filename" := by decide
  obtain ⟨hpassword, hurl, hfilename⟩ := hall key hkey
  rw [toMap_eq, Table.get?_put_of_ne hpassword, Table.get?_put_of_ne hurl,
    Table.get?_put_of_ne hfilename]

/-- The content is what is left of the map without the other parts. -/
theorem filter_toMap (file : NetworkFile) :
    (file.toMap.filter fun (key, _) => ["algorithm", "data", "mime-type"].contains key) =
      file.contentFields := by
  rw [toMap_eq, Table.filter_put fun _ => rfl, Table.filter_put fun _ => rfl,
    Table.filter_put fun _ => rfl, List.filter_eq_self]
  intro field hfield
  exact List.contains_iff_mem.mpr (key_mem_of_mem_contentFields hfield)

/-- What the map holds for the content. -/
theorem get?_contentFields_of_some {encoded : EncodedData} (h : file.data = some encoded) :
    Table.get? "algorithm" file.contentFields = some (.string encoded.encoding.tag) ∧
      Table.get? "data" file.contentFields = some (.string encoded.body) ∧
      Json.Object.string? file.contentFields "mime-type" = encoded.mimeType := by
  rw [contentFields, h]
  obtain ⟨halgorithm, hdata⟩ :=
    DataUri.get?_toMap ⟨encoded.mimeType, encoded.encoding.tag, encoded.body⟩
  exact ⟨halgorithm, hdata,
    (DataUri.string?_toMap ⟨encoded.mimeType, encoded.encoding.tag, encoded.body⟩).2.2⟩

/-- **The content of a file is found in its map.** -/
theorem contentOf?_toMap_eq (file : NetworkFile) :
    contentOf? file.toMap = file.data.map fun encoded => .object encoded.toMap := by
  rw [contentOf?, Json.Object.present?, Table.contains, filter_toMap,
    get?_toMap_content (by decide), get?_toMap_content (by decide)]
  cases hdata : file.data with
  | none => simp [contentFields, hdata]
  | some encoded =>
    obtain ⟨halgorithm, hbody, -⟩ := get?_contentFields_of_some hdata
    rw [halgorithm, hbody]
    simp [contentFields, hdata]

/-- A text that is there stands under its key, unless it is empty. -/
theorem textOf?_eq {fields : Json.Object} {key : String} {text : Option String}
    (h : Table.get? key fields = text.map .string) (hne : text ≠ some "") :
    textOf? fields key = text := by
  rw [textOf?, Json.Object.string?, h]
  cases text with
  | none => rfl
  | some text =>
    have hnonempty : text ≠ "" := fun heq => hne (heq ▸ rfl)
    simp [Json.asString?, Option.filter_some, hnonempty]

/-- What is made of the parts of a file is the file. -/
theorem new_parts (file : NetworkFile) :
    new file.data file.filename file.url file.password = .ok file := by
  rw [new, dif_pos file.isGiven]

/-- **A file is what its map reads as**, if its name and its address are not empty. -/
theorem ofFields_toMap {encodings : Registry Encoding}
    (hstandard : EncodedData.IsStandard encodings)
    (hname : file.filename ≠ some "") (hurl : file.url ≠ some "") :
    ofFields encodings file.toMap = .ok file := by
  obtain ⟨hfilename, haddress, hpassword⟩ := file.get?_toMap
  have hcontent : (contentOf? file.toMap).mapM (EncodedData.ofJson encodings) = .ok file.data := by
    rw [contentOf?_toMap_eq]
    cases file.data with
    | none => rfl
    | some encoded =>
      rw [Option.map_some, Option.mapM_some, EncodedData.ofJson_toMap hstandard]
      rfl
  have hkey : (file.password.map Json.object).bind Json.asObject? = file.password := by
    cases file.password <;> rfl
  rw [ofFields, hcontent, textOf?_eq hfilename hname, textOf?_eq haddress hurl, hpassword, hkey]
  exact file.new_parts

/-! ### The compact form -/

/-- A file of nothing but its content. -/
def ofContent (encoded : EncodedData) : NetworkFile := ⟨some encoded, none, none, none, .inl rfl⟩

/-- In the map of a file a data URI has no place for an address and a password, and for nothing
else. -/
theorem otherFields_toMap_eq_nil_iff :
    DataUri.otherFields file.toMap = [] ↔ file.url = none ∧ file.password = none := by
  obtain ⟨-, hurl, hpassword⟩ := file.get?_toMap
  rw [DataUri.otherFields_eq_nil_iff]
  constructor
  · intro hknown
    have hmissing : ∀ key ∉ DataUri.knownKeys, Table.get? key file.toMap = none := by
      intro key hkey
      rw [← Option.not_isSome_iff_eq_none]
      exact mt (hknown key) hkey
    rw [hmissing "URL" (by decide), eq_comm, Option.map_eq_none_iff] at hurl
    rw [hmissing "password" (by decide), eq_comm, Option.map_eq_none_iff] at hpassword
    exact ⟨hurl, hpassword⟩
  · rintro ⟨hnoUrl, hnoPassword⟩ key hkey
    by_cases hname : key = "filename"
    · rw [hname]
      decide
    · have hmap : file.toMap = Table.put "filename" (file.filename.map .string)
          file.contentFields := by
        rw [toMap_eq, hnoUrl, hnoPassword]
        rfl
      rw [Table.contains, hmap, Table.get?_put_of_ne hname] at hkey
      obtain ⟨value, hvalue⟩ := Option.isSome_iff_exists.mp hkey
      have hcontent : ∀ key ∈ ["algorithm", "data", "mime-type"], key ∈ DataUri.knownKeys := by
        decide
      exact hcontent key (key_mem_of_mem_contentFields (Table.mem_of_get?_eq_some hvalue))

/-- The data URI of content with a type expresses the map of its file, if that has no other
fields. -/
theorem expresses_toMap {encoded : EncodedData} (h : file.data = some encoded)
    (htype : encoded.mimeType ≠ none) (hothers : DataUri.otherFields file.toMap = []) :
    DataUri.Expresses ⟨encoded.mimeType, encoded.encoding.tag, encoded.body⟩ file.toMap := by
  obtain ⟨halgorithm, hbody, hmime⟩ := get?_contentFields_of_some h
  obtain ⟨mime, hsome⟩ := Option.ne_none_iff_exists'.mp htype
  rw [hsome, Json.Object.string?_eq_some_iff] at hmime
  refine ⟨?_, ⟨mime, hsome, ?_⟩, .inl ?_, hothers⟩
  · rw [get?_toMap_content (by decide), hbody]
  · rw [get?_toMap_content (by decide), hmime]
  · rw [get?_toMap_content (by decide), halgorithm]

/-- **The text that is built from the map of a file** is that of its content. There is one exactly
if the content has a type and the file has no address and no password. -/
theorem build?_toMap_eq_some_iff {text : String} :
    DataUri.build? file.toMap = some text ↔
      ∃ encoded, file.data = some encoded ∧ encoded.mimeType ≠ none ∧ file.url = none ∧
        file.password = none ∧ encoded.toString = text := by
  rw [DataUri.build?_eq_some_iff file.isSorted_toMap]
  constructor
  · rintro ⟨uri, hexpresses, rfl⟩
    obtain ⟨hurl, hpassword⟩ := otherFields_toMap_eq_nil_iff.mp hexpresses.others
    obtain ⟨mime, -, hfield⟩ := hexpresses.mimeType
    rw [get?_toMap_content (by decide), ← Json.Object.string?_eq_some_iff] at hfield
    cases hdata : file.data with
    | none =>
      rw [contentFields, hdata] at hfield
      cases hfield
    | some encoded =>
      have hmime := (get?_contentFields_of_some hdata).2.2
      have htype : encoded.mimeType ≠ none := by
        rw [← hmime, hfield]
        exact Option.some_ne_none mime
      obtain rfl := hexpresses.eq (expresses_toMap hdata htype hexpresses.others)
      exact ⟨encoded, rfl, htype, hurl, hpassword, EncodedData.toString_of_type htype⟩
  · rintro ⟨encoded, hdata, htype, hurl, hpassword, rfl⟩
    exact ⟨_, expresses_toMap hdata htype (otherFields_toMap_eq_nil_iff.mpr ⟨hurl, hpassword⟩),
      (EncodedData.toString_of_type htype).symm⟩

/-- **What the compact form is**: the address, the text of the content, or the map. -/
theorem toJson_cases (file : NetworkFile) :
    (∃ url, file.url = some url ∧ (isInline url ∨ file.data = none ∧ file.password = none) ∧
        file.toJson = .string url) ∨
      (∃ encoded, file.url = none ∧ file.password = none ∧ file.data = some encoded ∧
        encoded.mimeType ≠ none ∧ file.toJson = .string encoded.toString) ∨
      file.toJson = .object file.toMap := by
  unfold toJson
  split
  · next url hurl =>
    split_ifs with hshort
    · rw [Option.isNone_iff_eq_none, Option.isNone_iff_eq_none] at hshort
      exact .inl ⟨url, hurl, hshort, rfl⟩
    · exact .inr (.inr rfl)
  · next hurl =>
    split
    · next text hbuild =>
      split_ifs with hpassword
      · obtain ⟨encoded, hdata, hmime, -, -, rfl⟩ := build?_toMap_eq_some_iff.mp hbuild
        exact .inr (.inl ⟨encoded, hurl, Option.isNone_iff_eq_none.mp hpassword, hdata, hmime, rfl⟩)
      · exact .inr (.inr rfl)
    · exact .inr (.inr rfl)

/-- The text of content with a type stands for the map of the file of this content. -/
theorem fields?_toString {encoded : EncodedData} (hplain : encoded.HasPlainType)
    (hmime : encoded.mimeType ≠ none) :
    fields? (.string encoded.toString) = some (ofContent encoded).toMap := by
  have hbare : ¬(encoded.mimeType.isNone ∧ encoded.encoding = .base64) := by
    rw [Option.isNone_iff_eq_none]
    exact fun h => hmime h.1
  rw [fields?, Json.embedded?_eq_none encoded.head?_toString_ne,
    EncodedData.parse?_toString hplain hbare]
  rfl

/-- A plain address stands for the map of the file of this address. -/
theorem fields?_url {url : String} (hplain : IsPlainUrl url) :
    fields? (.string url) = some (ofUrl url).toMap := by
  rw [fields?, hplain.notMap, hplain.notDataUri]
  simp only
  rw [if_pos (Text.occursIn_iff.mpr hplain.mark)]
  rfl

/-- A plain address is not empty. -/
theorem IsPlainUrl.ne_empty {url : String} (h : IsPlainUrl url) : some url ≠ some "" := by
  rintro ⟨⟩
  exact absurd h.mark (by decide)

/-- A plain address does not carry its content in itself. -/
theorem IsPlainUrl.not_isInline {url : String} (h : IsPlainUrl url) : ¬isInline url := by
  intro hinline
  obtain ⟨rest, hrest⟩ := Option.isSome_iff_exists.mp hinline
  rw [Text.afterStart?_eq_some_iff] at hrest
  exact h.notInline ⟨rest, hrest.symm⟩

end NetworkFile

namespace Context

variable {file : NetworkFile} (requests : List Request)

/-- A value that stands for the map of a file is read as the file. -/
theorem parseFile_of_fields?_eq {value : Json}
    (hvalue : NetworkFile.fields? value = some file.toMap) (hname : file.filename ≠ some "")
    (hurl : file.url ≠ some "") :
    (after requests).parseFile value = .ok file := by
  have hloaded : loaded.parseFile value = .ok file := by
    rw [parseFile, hvalue]
    exact NetworkFile.ofFields_toMap standard_encodings hname hurl
  rw [← hloaded]
  exact apply_after requests (fun context => context.parseFile value) fun _ => rfl

end Context

/-- **Network files are read back.** A standard context, whatever was requested before, reads the
map of a file as the file, if its name and its address are not empty. It reads the compact form as a
file with the same content, address and password, if the content has a plain type or none and the
address can be told from other texts; the name is the same if the compact form is the map, and lost
if it is a text. -/
theorem network_files_read_back (requests : List Request) (file : NetworkFile)
    (hname : file.filename ≠ some "") (hurl : file.url ≠ some "") :
    (Context.after requests).parseFile (.object file.toMap) = .ok file ∧
      ((∀ encoded ∈ file.data, encoded.HasPlainType) →
        (∀ url ∈ file.url, NetworkFile.IsPlainUrl url) →
        ∃ read, (Context.after requests).parseFile file.toJson = .ok read ∧
          read.data = file.data ∧ read.url = file.url ∧ read.password = file.password ∧
          ((∃ fields, file.toJson = .object fields) ∧ read.filename = file.filename ∨
            (∃ text, file.toJson = .string text) ∧ read.filename = none)) := by
  have hmap : (Context.after requests).parseFile (.object file.toMap) = .ok file :=
    Context.parseFile_of_fields?_eq requests rfl hname hurl
  refine ⟨hmap, fun hdata haddress => ?_⟩
  obtain ⟨url, hcase, hshort, hjson⟩ |
    ⟨encoded, hnoUrl, hnoPassword, hcase, hmime, hjson⟩ | hjson := file.toJson_cases
  · have hplain : NetworkFile.IsPlainUrl url := haddress url hcase
    obtain ⟨hnoData, hnoPassword⟩ := hshort.resolve_left hplain.not_isInline
    refine ⟨.ofUrl url, ?_, ?_, ?_, ?_, .inr ⟨⟨url, hjson⟩, rfl⟩⟩
    · rw [hjson]
      exact Context.parseFile_of_fields?_eq requests (NetworkFile.fields?_url hplain) nofun
        hplain.ne_empty
    · exact hnoData.symm
    · exact hcase.symm
    · exact hnoPassword.symm
  · refine ⟨.ofContent encoded, ?_, ?_, ?_, ?_, .inr ⟨⟨_, hjson⟩, rfl⟩⟩
    · rw [hjson]
      exact Context.parseFile_of_fields?_eq requests
        (NetworkFile.fields?_toString (hdata encoded hcase) hmime) nofun nofun
    · exact hcase.symm
    · exact hnoUrl.symm
    · exact hnoPassword.symm
  · refine ⟨file, ?_, rfl, rfl, rfl, .inl ⟨⟨_, hjson⟩, rfl⟩⟩
    rw [hjson]
    exact hmap

/-- The statement for a picture, whose compact form is a text without the name, and for the same
picture at an address that opens with a key, whose compact form is the map. -/
theorem network_files_read_back_picture :
    let encoded : EncodedData := ⟨.base64, some "image/png", Utf8.encode "moky"⟩
    let url := "https://cdn.example.com/a.png"
    let password : Json.Object := [("algorithm", .string "PLAIN")]
    let shown : NetworkFile := ⟨some encoded, some "a.png", none, none, .inl rfl⟩
    let sealedFile : NetworkFile := ⟨some encoded, some "a.png", some url, some password, .inl rfl⟩
    encoded.HasPlainType ∧ NetworkFile.IsPlainUrl url ∧
      shown.toJson = .string "data:image/png;base64,bW9reQ==" ∧
      (∃ read, (Context.after []).parseFile shown.toJson = .ok read ∧ read.data = some encoded ∧
        read.filename = none) ∧
      sealedFile.toJson = .object sealedFile.toMap ∧
      ∃ read, (Context.after []).parseFile sealedFile.toJson = .ok read ∧ read.url = some url ∧
        read.password = some password ∧ read.filename = some "a.png" := by
  intro encoded url password shown sealedFile
  have hplain : encoded.HasPlainType := by
    rintro _ ⟨⟩
    decide
  have hurl : NetworkFile.IsPlainUrl url := ⟨by decide, by decide, by decide, by decide⟩
  have htext : shown.toJson = .string "data:image/png;base64,bW9reQ==" := by
    have hbuild : DataUri.build? shown.toMap = some "data:image/png;base64,bW9reQ==" := by decide
    rw [NetworkFile.toJson]
    simp only [shown, hbuild]
    exact if_pos rfl
  have hmap : sealedFile.toJson = .object sealedFile.toMap := by
    rw [NetworkFile.toJson]
    exact if_neg (by decide)
  obtain ⟨read, hread, hdata, -, -, hname⟩ :=
    (network_files_read_back [] shown (by decide) nofun).2 (by rintro _ ⟨⟩; exact hplain) nofun
  obtain ⟨opened, hopened, -, haddress, hpassword, hkept⟩ :=
    (network_files_read_back [] sealedFile (by decide) (by decide)).2
      (by rintro _ ⟨⟩; exact hplain) (by rintro _ ⟨⟩; exact hurl)
  refine ⟨hplain, hurl, htext, ⟨read, hread, hdata, ?_⟩, hmap, opened, hopened, haddress,
    hpassword, ?_⟩
  · rw [htext] at hname
    simpa using hname
  · rw [hmap] at hkept
    simpa using hkept

end SelfCert
