import SelfCert.CommandLine.Run
import SelfCert.Proofs.BulletinMembers
import SelfCert.Proofs.TrustedProperties

/-!
# Checking a document shows nothing that is not signed

To check a document is to read a file with a meta and a file with a document and to report on the
two; nothing is written (`CommandLine.reads_checkDocument`). The report has the name and the
properties exactly if the key of the meta verifies the document, and then they are those of the
signed text (`CommandLine.get?_documentReport`). Of a document that does not verify it shows whom it
is about and of what type it is, so two of them that agree in this cannot be told apart.
-/

namespace SelfCert

/-! ### Values of metas and documents -/

section Values

/-- The map of a key is a plain object. -/
theorem PublicKey.isPlain_toMap (key : PublicKey) (levels : Nat) :
    Json.IsPlain (levels + 1) (.object key.toMap) := by
  cases key <;> exact Json.isPlain_ofFields (by simp [Json.IsPlain.string])

/-- The value of a meta is plain, so that it can be written into a file. -/
theorem Meta.isPlain_toJson (m : Meta) : Json.IsPlain Json.maxDepth m.toJson := by
  have hfields : Json.IsPlain Json.maxDepth
      (.ofFields [("type", .string m.scheme.tag), ("key", .object m.key.toMap)]) :=
    Json.isPlain_ofFields (by simp [Json.IsPlain.string, m.key.isPlain_toMap 125])
  rw [toJson, toMap]
  cases m.seed with
  | none =>
    cases m.fingerprint with
    | none => exact hfields
    | some encoded => exact hfields.insert "fingerprint" (.string _ _)
  | some seed =>
    have hseed := hfields.insert "seed" (.string _ seed)
    cases m.fingerprint with
    | none => exact hseed
    | some encoded => exact hseed.insert "fingerprint" (.string _ _)

/-- The value of a document is plain. -/
theorem Document.isPlain_toJson (document : Document) :
    Json.IsPlain Json.maxDepth document.toJson := by
  have hfields : Json.IsPlain Json.maxDepth (.ofFields
      [("did", .string document.did.text), ("type", .string document.kind.tag)]) :=
    Json.isPlain_ofFields (by simp [Json.IsPlain.string])
  rw [toJson, toMap]
  cases document.content with
  | none => exact hfields
  | some content =>
    exact (hfields.insert "data" (.string _ _)).insert "signature" (.string _ _)

end Values

namespace CommandLine

open Context (loaded)

/-! ### Reading files -/

section Reads

variable {α β : Type} {disk : Disk}

/-- Whether an action answers with a given result on a disk and leaves the disk as it was. -/
def Reads (act : ExceptT CommandError (StateM Disk) α) (disk : Disk)
    (result : Except CommandError α) : Prop :=
  act.run.run disk = (result, disk)

theorem Reads.bind {act : ExceptT CommandError (StateM Disk) α} {result : Except CommandError α}
    (hact : Reads act disk result) {next : α → ExceptT CommandError (StateM Disk) β}
    {more : α → Except CommandError β} (hnext : ∀ a, Reads (next a) disk (more a)) :
    Reads (act >>= next) disk (result >>= more) := by
  rw [Reads, ExceptT.run_bind, StateT.run_bind, hact]
  cases result with
  | error error => rfl
  | ok a => exact hnext a

theorem reads_orError {ε : Type} (wrap : ε → CommandError) (result : Except ε α) :
    Reads (orError wrap result) disk (result.mapError wrap) := rfl

/-- What the text of a file, if there is one, is read as. -/
def jsonOf (path : String) : Option String → Except CommandError Json
  | none => .error (.unreadable path)
  | some text =>
    match Json.parse? text with
    | none => .error (.notJson path)
    | some value => .ok value

variable (disk) (path metaPath : String)

/-- The JSON value in a file. -/
def Disk.json : Except CommandError Json :=
  jsonOf path (disk.read path)

variable {disk path} in
/-- The text of a plain value is read as this value. -/
theorem Disk.json_eq_ok {value : Json} (hplain : Json.IsPlain Json.maxDepth value)
    (hread : disk.read path = some value.compact) : disk.json path = .ok value := by
  rw [json, hread, jsonOf, Json.parse?_compact hplain]

theorem reads_readJson : Reads (readJson .ofDisk path) disk (disk.json path) := by
  have hread : Reads (liftM (FileSystem.ofDisk.read path)) disk (.ok (disk.read path)) := rfl
  have hnext : ∀ found, Reads
      (match found with
        | none => throw (.unreadable path)
        | some text =>
          match Json.parse? text with
          | none => throw (.notJson path)
          | some value => return value) disk (jsonOf path found) := by
    intro found
    cases found with
    | none => exact rfl
    | some text =>
      simp only [jsonOf]
      cases Json.parse? text <;> exact rfl
  exact hread.bind hnext

/-- The meta in a file. -/
def Disk.record : Except CommandError Meta := do
  (loaded.parseMeta (← disk.json path)).mapError (.badMetaIn path)

theorem reads_readMeta : Reads (readMeta .ofDisk path) disk (disk.record path) :=
  (reads_readJson disk path).bind fun value => reads_orError _ (loaded.parseMeta value)

/-- The document in a file. -/
def Disk.document : Except CommandError Document := do
  (loaded.parseDocument (← disk.json path)).1.mapError (.badDocumentIn path)

/-- **What checking a document does**: it reads the two files, reports on what they hold, and leaves
the disk as it was. -/
theorem reads_checkDocument : Reads (checkDocument .ofDisk path metaPath) disk (do
    let m ← disk.record metaPath
    let document ← disk.document path
    return documentReport m document (m.belongsTo document.did)) := by
  refine (reads_readMeta disk metaPath).bind fun m => ?_
  have hassoc : (disk.document path >>= fun document =>
        pure (documentReport m document (m.belongsTo document.did))) =
      disk.json path >>= fun value =>
        (loaded.parseDocument value).1.mapError (.badDocumentIn path) >>= fun document =>
          pure (documentReport m document (m.belongsTo document.did)) := by
    rw [Disk.document, bind_assoc]
  rw [hassoc]
  refine (reads_readJson disk path).bind fun value => ?_
  obtain ⟨later, hparse⟩ := Context.exists_parseDocument_after [] value
  have hloaded : loaded.parseDocument value = (Document.parse value, Context.after later) := hparse
  simp only [hloaded]
  refine (reads_orError _ (Document.parse value)).bind fun document => ?_
  rw [Context.matchesIdentifier_after]
  rfl

variable {disk path metaPath} {m : Meta} {document : Document}

/-- Where the files hold a meta and a document, the answer is the report on them. -/
theorem run_checkDocument (hm : disk.record metaPath = .ok m)
    (hdocument : disk.document path = .ok document) :
    (checkDocument .ofDisk path metaPath).run.run disk =
      (.ok (documentReport m document (m.belongsTo document.did)), disk) := by
  rw [reads_checkDocument, hm, hdocument]
  rfl

/-- There is no answer unless the files hold a meta and a document. -/
theorem exists_of_checkDocument_eq_ok {report : Json}
    (h : ((checkDocument .ofDisk path metaPath).run.run disk).1 = .ok report) :
    ∃ m document, disk.record metaPath = .ok m ∧ disk.document path = .ok document ∧
      documentReport m document (m.belongsTo document.did) = report := by
  rw [reads_checkDocument] at h
  obtain ⟨m, hm, h⟩ := Except.bind_eq_ok_iff.mp h
  obtain ⟨document, hdocument, h⟩ := Except.bind_eq_ok_iff.mp h
  exact ⟨m, document, hm, hdocument, Except.ok.inj h⟩

/-- A document in a file is about an identifier that can be written and read. -/
theorem issued_of_document_eq_ok (h : disk.document path = .ok document) :
    document.did.address.Issued := by
  obtain ⟨value, -, h⟩ := Except.bind_eq_ok_iff.mp h
  have hparse : Document.parse value = .ok document := by
    rw [← Context.parseDocument_after [] value]
    exact Except.mapError_eq_ok_iff.mp h
  obtain ⟨-, -, issued, -⟩ := Document.parts_of_parse_eq_ok hparse
  exact issued

end Reads

/-! ### The report -/

section Report

variable {m : Meta} {document other : Document} (isOwner : Bool)

theorem verifiedProperties_eq_none_iff {key : PublicKey} :
    document.verifiedProperties key = none ↔ document.verify key = false := by
  rw [Document.verifiedProperties]
  split_ifs with h <;> simp [h]

/-- **What is shown of a document**: the name and the properties that the key vouches for, and
otherwise neither. -/
theorem exists_documentReport_eq {properties : Option Json.Object}
    (h : document.verifiedProperties m.key = properties) :
    ∃ fields, documentReport m document isOwner = .object fields ∧
      Table.get? "verified" fields = some (.bool properties.isSome) ∧
      Table.get? "name" fields =
        some (.ofString? (properties.bind fun found => found.string? "name")) ∧
      Table.get? "properties" fields = some ((properties.map Json.object).getD .null) := by
  have hnodup : ["did", "type", "owner_matches_meta", "verified", "name", "properties"].Nodup := by
    decide
  refine ⟨_, rfl, ?_, ?_, ?_⟩
  all_goals
    refine Table.get?_insertAll_of_mem ?_ ?_ []
    · exact hnodup
    · simp [h]

/-- Of a document that does not verify the report shows whom it is about and its tag only. -/
theorem documentReport_eq (h : document.verify m.key = false) (hother : other.verify m.key = false)
    (hdid : document.did = other.did) (htag : document.kind.tag = other.kind.tag) :
    documentReport m document isOwner = documentReport m other isOwner := by
  rw [documentReport, documentReport, verifiedProperties_eq_none_iff.mpr h,
    verifiedProperties_eq_none_iff.mpr hother, hdid, htag]

end Report

/-! ### Main result -/

/-- **Checking a document shows nothing that is not signed.** Where two files hold documents with
one identifier and one type, neither of which the key of the meta verifies, the answers are equal,
and say that the document is not verified and neither its name nor its properties. An answer that
says a name or properties is about a document whose text the key verifies, and says all properties
that the text is read as and, for the name, the text in them. Nothing is written. -/
theorem unsigned_content_is_not_shown :
    (∀ (disk disk' : Disk) (path path' metaPath metaPath' : String) (m : Meta)
        (document other : Document),
      disk.record metaPath = .ok m → disk'.record metaPath' = .ok m →
      disk.document path = .ok document → disk'.document path' = .ok other →
      document.did.text = other.did.text → document.kind.tag = other.kind.tag →
      document.verify m.key = false → other.verify m.key = false →
      ∃ fields,
        (checkDocument .ofDisk path metaPath).run.run disk = (.ok (.object fields), disk) ∧
        (checkDocument .ofDisk path' metaPath').run.run disk' = (.ok (.object fields), disk') ∧
        Table.get? "verified" fields = some (.bool false) ∧
        Table.get? "name" fields = some .null ∧ Table.get? "properties" fields = some .null) ∧
    ∀ (disk : Disk) (path metaPath : String) (report : Json),
      ((checkDocument .ofDisk path metaPath).run.run disk).1 = .ok report →
      ∃ m document fields, disk.record metaPath = .ok m ∧ disk.document path = .ok document ∧
        report = .object fields ∧
        (document.verify m.key = false ∧ Table.get? "verified" fields = some (.bool false) ∧
            Table.get? "name" fields = some .null ∧
            Table.get? "properties" fields = some .null ∨
          ∃ text signature properties, document.data = some text ∧
            document.signature = some signature ∧
            m.key.verify (Utf8.encode text) signature.data ∧
            Json.parseObject? text = some properties ∧
            Table.get? "verified" fields = some (.bool true) ∧
            Table.get? "name" fields = some (.ofString? (properties.string? "name")) ∧
            Table.get? "properties" fields = some (.object properties)) := by
  constructor
  · intro disk disk' path path' metaPath metaPath' m document other hm hm' hdocument hother htext
      htag hverify hverify'
    have hdid : document.did = other.did := Identifier.eq_of_text_eq
      (issued_of_document_eq_ok hdocument) (issued_of_document_eq_ok hother) htext
    have hnone := verifiedProperties_eq_none_iff.mpr hverify
    obtain ⟨fields, hreport, hfields⟩ :=
      exists_documentReport_eq (m.belongsTo document.did) hnone
    refine ⟨fields, ?_, ?_, hfields⟩
    · rw [run_checkDocument hm hdocument, hreport]
    · rw [run_checkDocument hm' hother, ← hdid,
        ← documentReport_eq _ hverify hverify' hdid htag, hreport]
  · intro disk path metaPath report h
    obtain ⟨m, document, hm, hdocument, rfl⟩ := exists_of_checkDocument_eq_ok h
    cases hverified : document.verifiedProperties m.key with
    | none =>
      obtain ⟨fields, hreport, hfields⟩ :=
        exists_documentReport_eq (m.belongsTo document.did) hverified
      have hverify := verifiedProperties_eq_none_iff.mp hverified
      exact ⟨m, document, fields, hm, hdocument, hreport, .inl ⟨hverify, hfields⟩⟩
    | some properties =>
      obtain ⟨fields, hreport, hfields⟩ :=
        exists_documentReport_eq (m.belongsTo document.did) hverified
      obtain ⟨text, signature, hdata, hsignature, hverify, hreads⟩ :=
        Document.verifiedProperties_eq_some_iff.mp hverified
      rw [Utf8.decode?_encode, Option.bind_some] at hreads
      exact ⟨m, document, fields, hm, hdocument, hreport,
        .inr ⟨text, signature, properties, hdata, hsignature, hverify, hreads, hfields⟩⟩

/-- The statement for the key at the base point and two visas of the founder with different names,
under which stands nothing that could be a signature. -/
theorem unsigned_content_is_not_shown_founder :
    ∃ (disk : Disk) (m : Meta) (document other : Document) (fields : Json.Object),
      disk.record "meta.json" = .ok m ∧ disk.document "visa.json" = .ok document ∧
      disk.document "other.json" = .ok other ∧ document.name = some "moky" ∧
      other.name = some "mallory" ∧ document.verify m.key = false ∧ other.verify m.key = false ∧
      ((checkDocument .ofDisk "visa.json" "meta.json").run.run disk).1 = .ok (.object fields) ∧
      ((checkDocument .ofDisk "other.json" "meta.json").run.run disk).1 = .ok (.object fields) ∧
      Table.get? "name" fields = some .null := by
  let key : EccPublicKey := ⟨Secp256k1.generator.uncompressed, Secp256k1.generator,
    Secp256k1.ofBytes?_uncompressed (by decide)⟩
  let m : Meta := ⟨.bitcoin, .ecc key, none, none, rfl⟩
  have hproperties (name : String) :
      Json.IsPlain Json.maxDepth (.ofFields [("name", .string name)]) :=
    Json.isPlain_ofFields (by simp [Json.IsPlain.string])
  let visa (name : String) : Document := ⟨.founder, .visa,
    some ⟨_, _, .ofBytes .base64 [1], Json.parseObject?_compact (hproperties name)⟩⟩
  let disk : Disk := .ofFiles [("meta.json", m.toJson.compact),
    ("visa.json", (visa "moky").toJson.compact), ("other.json", (visa "mallory").toJson.compact)]
  have hm : disk.record "meta.json" = .ok m := by
    have hparse : loaded.parseMeta m.toJson = .ok m := Context.parseMeta_toJson [] (by decide) nofun
      (PublicKey.isReadable_ecc key).read_eq nofun
    rw [Disk.record, Disk.json_eq_ok m.isPlain_toJson rfl]
    simp only [bind, Except.bind, hparse]
    rfl
  have hvisa (path name : String) (hread : disk.read path = some (visa name).toJson.compact) :
      disk.document path = .ok (visa name) := by
    have hportable : (visa name).IsPortable := by
      refine ⟨(by decide : DocumentKind.visa.HasOwnTag), ?_⟩
      rintro _ ⟨⟩ _ ⟨⟩
    have hparse : (loaded.parseDocument (visa name).toJson).1 = .ok (visa name) :=
      (Context.parseDocument_after [] _).trans
        (hportable.parse_toJson .anywhere (.ofTag "visa"))
    rw [Disk.document, Disk.json_eq_ok (visa name).isPlain_toJson hread]
    simp only [bind, Except.bind, hparse]
    rfl
  have hread : disk.read "visa.json" = some (visa "moky").toJson.compact := by rfl
  have hread' : disk.read "other.json" = some (visa "mallory").toJson.compact := by rfl
  have hverify (name : String) : (visa name).verify m.key = false := by rfl
  obtain ⟨fields, hrun, hrun', -, hname, -⟩ := unsigned_content_is_not_shown.1 disk disk "visa.json"
    "other.json" "meta.json" "meta.json" m (visa "moky") (visa "mallory") hm hm
    (hvisa _ _ hread) (hvisa _ _ hread') rfl rfl (hverify _) (hverify _)
  exact ⟨disk, m, visa "moky", visa "mallory", fields, hm, hvisa _ _ hread, hvisa _ _ hread', rfl,
    rfl, hverify _, hverify _, congrArg Prod.fst hrun, congrArg Prod.fst hrun', hname⟩

end CommandLine

end SelfCert
