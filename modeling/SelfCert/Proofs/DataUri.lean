import SelfCert.DataUri
import SelfCert.Proofs.Table
import SelfCert.Proofs.Text.Basic

/-!
# Data URIs are read back

Reading cuts a text at its first comma and the head at its first semicolon, so it is known which
texts are read as a given data URI (`DataUri.split?_eq_some_iff`, `DataUri.parse?_eq_some_iff`). A
MIME type can be told from the text of a data URI if it is not empty and holds neither of the marks
around it (`DataUri.IsPlainType`). A data URI is what its text reads as exactly if it has such a
type and no comma in the name of its encoding, or no type and a name that cannot be taken for
anything else (`data_uris_read_back`). Other types never come out of reading
(`DataUri.isPlainType_of_parse?_eq_some`).
-/

namespace SelfCert

/-- The size of a text is the number of its bytes. -/
theorem Utf8.size_toList (text : String) : size text.toList = text.utf8ByteSize := by
  rw [← String.utf8Len_toList]
  induction text.toList with
  | nil => rfl
  | cons c rest ih => rw [String.utf8Len_cons, ← ih, Nat.add_comm, size, List.foldr_cons, ← size]

namespace DataUri

/-- Whether a MIME type can be told from a text: it is not empty and holds neither the mark behind
it nor the one behind the head. -/
def IsPlainType (mime : String) : Prop :=
  mime ≠ "" ∧ ',' ∉ mime.toList ∧ ';' ∉ mime.toList

instance (mime : String) : Decidable (IsPlainType mime) :=
  inferInstanceAs (Decidable (_ ∧ _ ∧ _))

/-! ### Fields -/

/-- What the map of a data URI holds. -/
theorem string?_toMap (uri : DataUri) :
    Json.Object.string? uri.toMap "algorithm" = some uri.algorithm ∧
      Json.Object.string? uri.toMap "data" = some uri.body ∧
      Json.Object.string? uri.toMap "mime-type" = uri.mimeType := by
  obtain ⟨mimeType, algorithm, body⟩ := uri
  cases mimeType <;>
    simp [toMap, Json.Object.string?, Table.ofList, Table.insertAll, Table.get?_insert_of_ne,
      Json.asString?]

/-- The encoding and the body of a data URI are fields of its map. -/
theorem get?_toMap (uri : DataUri) :
    Table.get? "algorithm" uri.toMap = some (.string uri.algorithm) ∧
      Table.get? "data" uri.toMap = some (.string uri.body) := by
  obtain ⟨mimeType, algorithm, body⟩ := uri
  cases mimeType <;> simp [toMap, Table.ofList, Table.insertAll, Table.get?_insert_of_ne]

/-- The map of a data URI has no other fields than these and the type. -/
theorem key_mem_of_mem_toMap {uri : DataUri} {field : String × Json} (h : field ∈ uri.toMap) :
    field.1 ∈ ["algorithm", "data", "mime-type"] := by
  have hfields : ∀ field ∈ (Table.ofList [("algorithm", Json.string uri.algorithm),
      ("data", .string uri.body)] : Json.Object), field.1 ∈ ["algorithm", "data", "mime-type"] := by
    intro field h
    rcases Table.eq_or_mem_of_mem_insert h with rfl | h
    · simp
    · rw [List.mem_singleton.mp h]
      simp
  obtain ⟨mimeType, algorithm, body⟩ := uri
  cases mimeType with
  | none => exact hfields field h
  | some mime =>
    rcases Table.eq_or_mem_of_mem_insert h with rfl | h
    · simp
    · exact hfields field h

/-- The map of a data URI is in order. -/
theorem isSorted_toMap (uri : DataUri) : Table.IsSorted uri.toMap := by
  have hfields := Table.isSorted_ofList
    [("algorithm", Json.string uri.algorithm), ("data", .string uri.body)]
  obtain ⟨mimeType, algorithm, body⟩ := uri
  cases mimeType with
  | none => exact hfields
  | some mime => exact hfields.insert "mime-type" (.string mime)

/-! ### What reading accepts -/

/-- What stands in front of the body: the encoding, behind the type if there is one. -/
def head (uri : DataUri) : List Char :=
  match uri.mimeType with
  | some mime => mime.toList ++ ';' :: uri.algorithm.toList
  | none => uri.algorithm.toList

/-- Whether the parts of a head can be told apart: a type is not empty, and the first semicolon, if
there is one, is the mark behind the type. -/
def HasPlainHead (uri : DataUri) : Prop :=
  match uri.mimeType with
  | some mime => mime ≠ "" ∧ ';' ∉ mime.toList
  | none => ';' ∉ uri.algorithm.toList

/-- **A text is cut at its first comma**, behind the scheme if it starts with it, and otherwise
behind a head that is short. -/
theorem split?_eq_some_iff {text head body : List Char} :
    split? text = some (head, body) ↔
      ',' ∉ head ∧
        (text = scheme.toList ++ (head ++ ',' :: body) ∨
          text = head ++ ',' :: body ∧ ¬scheme.toList <+: head ∧ Utf8.size head ≤ maxBareName) := by
  constructor
  · intro h
    unfold split? at h
    split at h
    · next rest hstart =>
      obtain ⟨hcomma, rfl⟩ := Text.cutAt?_eq_some_iff.mp h
      exact ⟨hcomma, .inl (Text.afterStart?_eq_some_iff.mp hstart)⟩
    · next hstart =>
      obtain ⟨hcut, hsize⟩ := Option.filter_eq_some_iff.mp h
      obtain ⟨hcomma, rfl⟩ := Text.cutAt?_eq_some_iff.mp hcut
      refine ⟨hcomma, .inr ⟨rfl, ?_, of_decide_eq_true hsize⟩⟩
      -- A head that starts with the scheme would have been cut behind it.
      rintro ⟨more, rfl⟩
      rw [List.append_assoc, Text.afterStart?_eq_some_iff.mpr rfl] at hstart
      cases hstart
  · rintro ⟨hcomma, rfl | ⟨rfl, hscheme, hsize⟩⟩
    · rw [split?, Text.afterStart?_eq_some_iff.mpr rfl]
      exact Text.cutAt?_append hcomma body
    · rw [split?, Text.afterStart?_append_eq_none (by decide) hscheme]
      simp [Text.cutAt?_append hcomma, hsize]

/-- **A data URI is read from the texts that are cut into its head and its body**, if its parts can
be told from the head. -/
theorem parse?_eq_some_iff {text : String} {uri : DataUri} :
    parse? text = some uri ↔
      split? text.toList = some (uri.head, uri.body.toList) ∧ uri.HasPlainHead := by
  constructor
  · intro h
    unfold parse? at h
    split at h
    · cases h
    · next head body hsplit =>
      split at h
      · cases h
      · next mime algorithm hnonempty hcut =>
        cases h
        obtain ⟨hmark, rfl⟩ := Text.cutAt?_eq_some_iff.mp hcut
        simp only [DataUri.head, HasPlainHead, String.toList_ofList]
        exact ⟨hsplit, fun hempty => hnonempty (String.ofList_eq_empty_iff.mp hempty), hmark⟩
      · next hcut =>
        cases h
        simp only [DataUri.head, HasPlainHead, String.toList_ofList]
        exact ⟨hsplit, Text.cutAt?_eq_none_iff.mp hcut⟩
  · rintro ⟨hsplit, hplain⟩
    obtain ⟨mimeType, algorithm, body⟩ := uri
    rw [parse?, hsplit]
    cases mimeType with
    | none =>
      have hcut : Text.cutAt? ';' algorithm.toList = none := Text.cutAt?_eq_none_iff.mpr hplain
      simp only [DataUri.head, hcut, String.ofList_toList]
    | some mime =>
      obtain ⟨hne, hmark⟩ := hplain
      -- A head that begins with the mark would be refused.
      have hchars : mime.toList ≠ [] := mt String.toList_eq_nil_iff.mp hne
      simp only [DataUri.head, Text.cutAt?_append hmark, String.ofList_toList]

/-- No comma stands in the head that is read, and the body is what stands behind the comma. -/
theorem exists_eq_append_of_parse?_eq_some {text : String} {uri : DataUri}
    (h : parse? text = some uri) :
    ',' ∉ uri.head ∧ ∃ front, text.toList = front ++ ',' :: uri.body.toList := by
  obtain ⟨hsplit, -⟩ := parse?_eq_some_iff.mp h
  obtain ⟨hcomma, htext | ⟨htext, -⟩⟩ := split?_eq_some_iff.mp hsplit
  · exact ⟨hcomma, scheme.toList ++ uri.head, by rw [htext, List.append_assoc]⟩
  · exact ⟨hcomma, uri.head, htext⟩

/-- A text without a comma is no data URI. -/
theorem parse?_eq_none {text : String} (hcomma : ',' ∉ text.toList) : parse? text = none := by
  by_contra hne
  obtain ⟨uri, huri⟩ := Option.ne_none_iff_exists'.mp hne
  obtain ⟨-, front, htext⟩ := exists_eq_append_of_parse?_eq_some huri
  exact hcomma (htext ▸ List.mem_append_right _ List.mem_cons_self)

/-- **A type that is read is plain.** -/
theorem isPlainType_of_parse?_eq_some {text : String} {uri : DataUri}
    (h : parse? text = some uri) : ∀ mime ∈ uri.mimeType, IsPlainType mime := by
  intro mime hmime
  obtain ⟨mimeType, algorithm, body⟩ := uri
  obtain rfl : mimeType = some mime := hmime
  obtain ⟨hne, hsemicolon⟩ := (parse?_eq_some_iff.mp h).2
  have hcomma := (exists_eq_append_of_parse?_eq_some h).1
  exact ⟨hne, fun hmem => hcomma (List.mem_append_left _ hmem), hsemicolon⟩

/-- The last character of a text, unless it is a comma, is in the body. -/
theorem mem_body_of_parse?_eq_some {text : String} {uri : DataUri} (h : parse? text = some uri)
    {c : Char} (hcomma : c ≠ ',') (hlast : text.toList.getLast? = some c) :
    c ∈ uri.body.toList := by
  obtain ⟨-, front, htext⟩ := exists_eq_append_of_parse?_eq_some h
  rw [htext, List.getLast?_append_cons] at hlast
  rcases List.mem_cons.mp (List.mem_of_getLast? hlast) with heq | hmem
  · exact absurd heq hcomma
  · exact hmem

/-! ### Reading what was written -/

/-- **A data URI with a type is read back** exactly if the type is plain and no comma stands in the
name of the encoding, whatever its body is. -/
theorem parse?_toString_some_iff {mime algorithm body : String} :
    parse? (toString ⟨some mime, algorithm, body⟩) = some ⟨some mime, algorithm, body⟩ ↔
      IsPlainType mime ∧ ',' ∉ algorithm.toList := by
  have htext : (toString ⟨some mime, algorithm, body⟩).toList =
      scheme.toList ++ (mime.toList ++ ';' :: algorithm.toList ++ ',' :: body.toList) := by
    simp [toString]
  have hhead : ',' ∉ mime.toList ++ ';' :: algorithm.toList ↔
      ',' ∉ mime.toList ∧ ',' ∉ algorithm.toList := by
    simp
  rw [parse?_eq_some_iff, split?_eq_some_iff, htext]
  simp only [head, HasPlainHead, IsPlainType, hhead, true_or, and_true]
  tauto

/-- **A data URI without a type is read back** exactly if the name of its encoding is short, holds
none of the marks and does not look like the start of one with a type, whatever its body is. -/
theorem parse?_toString_none_iff {algorithm body : String} :
    parse? (toString ⟨none, algorithm, body⟩) = some ⟨none, algorithm, body⟩ ↔
      ',' ∉ algorithm.toList ∧ ';' ∉ algorithm.toList ∧ Utf8.size algorithm.toList ≤ maxBareName ∧
        ¬scheme.toList <+: algorithm.toList := by
  have htext : (toString ⟨none, algorithm, body⟩).toList =
      algorithm.toList ++ ',' :: body.toList := by
    simp [toString]
  -- With the scheme in front, the same head and body would make a longer text.
  have hlonger : algorithm.toList ++ ',' :: body.toList ≠
      scheme.toList ++ (algorithm.toList ++ ',' :: body.toList) := by
    rw [ne_eq, List.self_eq_append_left]
    decide
  rw [parse?_eq_some_iff, split?_eq_some_iff, htext]
  simp only [head, HasPlainHead, hlonger, false_or, true_and]
  tauto

end DataUri

/-- **Which data URIs are read back.** The text of a data URI is read as this data URI if and only
if it has a type that is not empty and holds neither a comma nor a semicolon, with no comma in the
name of the encoding either, or it has no type and the name of the encoding holds neither of the
two, takes eight bytes at most and does not start with the scheme. The body may be any text. -/
theorem data_uris_read_back (uri : DataUri) :
    DataUri.parse? uri.toString = some uri ↔
      (∃ mime, uri.mimeType = some mime ∧ mime ≠ "" ∧ ',' ∉ mime.toList ∧ ';' ∉ mime.toList ∧
          ',' ∉ uri.algorithm.toList) ∨
        (uri.mimeType = none ∧ ',' ∉ uri.algorithm.toList ∧ ';' ∉ uri.algorithm.toList ∧
          uri.algorithm.utf8ByteSize ≤ 8 ∧ ¬"data:".toList <+: uri.algorithm.toList) := by
  obtain ⟨mimeType, algorithm, body⟩ := uri
  cases mimeType with
  | none =>
    rw [DataUri.parse?_toString_none_iff, Utf8.size_toList]
    simp [DataUri.maxBareName, DataUri.scheme]
  | some mime =>
    rw [DataUri.parse?_toString_some_iff]
    simp [DataUri.IsPlainType, and_assoc]

/-- The scheme in the name of an encoding is taken for that of the data URI. -/
example : DataUri.parse? (DataUri.toString ⟨none, "data:hex", "6d6f6b79"⟩) =
    some ⟨none, "hex", "6d6f6b79"⟩ := by
  decide

/-- A semicolon in a type ends the type. -/
example : DataUri.parse? (DataUri.toString ⟨some "text/plain;utf8", "hex", "6d6f6b79"⟩) =
    some ⟨some "text/plain", "utf8;hex", "6d6f6b79"⟩ := by
  decide

end SelfCert
