import SelfCert.Proofs.MetaWire

/-!
# Contexts read encoded data back

The encodings of a standard context are the same after any requests, so it reads encoded data as a
fresh one does. It reads back every map, and of the compact texts exactly those with a plain type or
without one (`encoded_data_reads_back`).
-/

namespace SelfCert

namespace Context

theorem parseData_after (requests : List Request) (value : Json) :
    (after requests).parseData value = EncodedData.ofJson loaded.encodings value :=
  apply_after requests (fun context => context.parseData value) fun _ => rfl

end Context

/-- **A standard context reads data back**, whatever was requested before: from the map always, and
from the compact text exactly if there is no MIME type or it is a plain one, not empty and without a
comma and a semicolon. -/
theorem encoded_data_reads_back (requests : List Request) (encoded : EncodedData) :
    (Context.after requests).parseData (.object encoded.toMap) = .ok encoded ∧
      ((Context.after requests).parseData encoded.toJson = .ok encoded ↔
        ∀ mime ∈ encoded.mimeType, mime ≠ "" ∧ ',' ∉ mime.toList ∧ ';' ∉ mime.toList) := by
  rw [Context.parseData_after, Context.parseData_after]
  exact ⟨EncodedData.ofJson_toMap Context.standard_encodings encoded,
    EncodedData.ofJson_toJson_iff Context.standard_encodings⟩

example :
    Context.loaded.parseData (EncodedData.toJson ⟨.hex, some "a;b", [0xbe, 0xef]⟩) =
      .ok ⟨.base64, some "a", [0x6d, 0xe7, 0x9f]⟩ := by
  decide

end SelfCert
