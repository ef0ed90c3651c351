import SelfCert.Key.Asymmetric
import SelfCert.Proofs.Der
import SelfCert.Proofs.Except

/-!
# Public keys are determined by their bytes

Two keys count as the same when their kinds and their bytes agree. The bytes of a point are kept
with it, and the bytes of an RSA key are read back (`Rsa.PublicKey.ofDer?_toDer`), as long as it is
one that may be received; so a key that is the same as one that was read is that key
(`PublicKey.eq_of_same`).
-/

namespace SelfCert

namespace Rsa.PublicKey

variable {key : PublicKey}

/-- The numbers of a key are read back; only an acceptable key is taken. -/
theorem ofNumbers?_numbers (hlength : key.numbers.length ≤ Der.maxLength) :
    ofNumbers? key.numbers = if key.isAcceptable then some key else none := by
  have hcontent : ([key.modulus, key.exponent].map Der.integer).flatten.length < Der.maxLength :=
    (Der.length_lt_length_element _ _).trans_le hlength
  have hnaturals : Der.naturals? 2 ([key.modulus, key.exponent].map Der.integer).flatten =
      some [key.modulus, key.exponent] := Der.naturals?_flatten hcontent.le
  have hwhole : Der.wholeSequence? key.numbers =
      some ([key.modulus, key.exponent].map Der.integer).flatten :=
    Der.wholeSequence?_sequence hcontent
  rw [ofNumbers?, hwhole, Option.bind_some, hnaturals]

/-- The bytes of a key are read back; only an acceptable key is taken. -/
theorem ofDer?_toDer (hlength : key.toDer.length ≤ Der.maxLength) :
    ofDer? key.toDer = if key.isAcceptable then some key else none := by
  let kind := Der.element Der.sequenceTag keyKind
  let bits := Der.element Der.bitsTag (0x00 :: key.numbers)
  have hcontent : [kind, bits].flatten.length < Der.maxLength :=
    (Der.length_lt_length_element _ _).trans_le hlength
  have hbits : bits.length ≤ [kind, bits].flatten.length := by
    simp only [List.flatten_cons, List.flatten_nil, List.length_append]
    omega
  have hnumbers : key.numbers.length + 1 < bits.length :=
    Der.length_lt_length_element Der.bitsTag (0x00 :: key.numbers)
  have hwhole : Der.wholeSequence? key.toDer = some (kind ++ (bits ++ [])) :=
    Der.wholeSequence?_sequence hcontent
  have hkind : Der.read? Der.sequenceTag (kind ++ (bits ++ [])) = some (keyKind, bits ++ []) :=
    Der.read?_element_append (by decide) (by decide) _
  have hread : Der.read? Der.bitsTag (bits ++ []) = some (0x00 :: key.numbers, []) :=
    Der.read?_element_append (by decide) (by rw [List.length_cons]; omega) _
  rw [ofDer?, hwhole, Option.bind_some, hkind]
  simp only [hread, if_true]
  exact ofNumbers?_numbers (by omega)

/-- The bytes of an acceptable key are few enough to be read. -/
theorem length_toDer_le (h : key.isAcceptable) : key.toDer.length ≤ Der.maxLength := by
  simp only [isAcceptable, isSound, Bool.and_eq_true, decide_eq_true_eq] at h
  -- The modulus takes 512 bytes at most and the exponent five.
  have hlog : key.modulus.log2 < maxModulusBits := (Nat.log2_lt (by omega)).mpr h.2
  have hmodulus : Bytes.width key.modulus ≤ 512 := Bytes.width_le_of_log2_lt hlog
  have hexponent : Bytes.width key.exponent ≤ 5 := Bytes.width_le_of_lt (by omega)
  have hfirst := Der.length_integer_le key.modulus
  have hsecond := Der.length_integer_le key.exponent
  have hnumbers : key.numbers.length ≤ 2 * 1050 + 2 := by
    refine (Der.length_element_le _ _).trans ?_
    simp only [List.flatten_cons, List.flatten_nil, List.length_append, List.length_nil]
    omega
  have hbits := Der.length_element_le Der.bitsTag (0x00 :: key.numbers)
  have hkind : (Der.element Der.sequenceTag keyKind).length = 15 := by decide
  refine (Der.length_element_le _ _).trans ?_
  simp only [List.flatten_cons, List.flatten_nil, List.length_append, List.length_nil,
    List.length_cons, Der.maxLength] at hbits ⊢
  omega

/-- An acceptable key is determined by its bytes. -/
theorem eq_of_toDer_eq {other : PublicKey} (h : key.isAcceptable)
    (hbytes : key.toDer = other.toDer) : other = key := by
  -- The other key is read from the same bytes, so it is acceptable too.
  have hkey := ofDer?_toDer (length_toDer_le h)
  have hother : ofDer? other.toDer = if other.isAcceptable then some other else none :=
    ofDer?_toDer (hbytes ▸ length_toDer_le h)
  rw [hbytes, hother, if_pos h] at hkey
  split_ifs at hkey
  exact Option.some_injective _ hkey

private theorem isAcceptable_of_ofNumbers?_eq_some {bytes : Bytes}
    (h : ofNumbers? bytes = some key) : key.isAcceptable := by
  unfold ofNumbers? at h
  split at h
  · simp only [Option.ite_none_right_eq_some, Option.some.injEq] at h
    exact h.2 ▸ h.1
  · cases h

private theorem isAcceptable_of_ofDer?_eq_some {bytes : Bytes}
    (h : ofDer? bytes = some key) : key.isAcceptable := by
  unfold ofDer? at h
  split at h
  · split at h
    · split_ifs at h
      exact isAcceptable_of_ofNumbers?_eq_some h
    · cases h
  · cases h

/-- Only acceptable keys are read. -/
theorem isAcceptable_of_ofText_eq_ok {text : String} (h : ofText text = .ok key) :
    key.isAcceptable := by
  simp only [ofText] at h
  split at h
  · cases h
  · cases h
  · next found hread =>
    cases h
    split at hread
    · obtain ⟨bytes, -, hder⟩ := Option.bind_eq_some_iff.mp (Option.some_injective _ hread)
      exact isAcceptable_of_ofDer?_eq_some hder
    · obtain ⟨inner, -, hinner⟩ := Option.map_eq_some_iff.mp hread
      obtain ⟨bytes, -, hnumbers⟩ := Option.bind_eq_some_iff.mp hinner
      exact isAcceptable_of_ofNumbers?_eq_some hnumbers

theorem isAcceptable_of_ofMap_eq_ok {map : KeyMap} (h : ofMap map = .ok key) :
    key.isAcceptable := by
  obtain ⟨text, -, htext⟩ := Except.bind_eq_ok_iff.mp h
  exact isAcceptable_of_ofText_eq_ok htext

end Rsa.PublicKey

namespace PublicKey

variable {kinds : Registry KeyAlgorithm} {map : KeyMap} {key other : PublicKey}

/-- An RSA key that was read is acceptable. -/
theorem isAcceptable_of_read_eq_ok {key : Rsa.PublicKey} (h : read kinds map = .ok (rsa key)) :
    key.isAcceptable := by
  obtain ⟨kind, -, hkey⟩ := Except.bind_eq_ok_iff.mp h
  cases kind with
  | ecc =>
    obtain ⟨_, -, hrsa⟩ := Except.map_eq_ok_iff.mp hkey
    cases hrsa
  | ed25519 =>
    obtain ⟨_, -, hrsa⟩ := Except.map_eq_ok_iff.mp hkey
    cases hrsa
  | rsa =>
    obtain ⟨found, hfound, hrsa⟩ := Except.map_eq_ok_iff.mp hkey
    cases hrsa
    exact Rsa.PublicKey.isAcceptable_of_ofMap_eq_ok hfound

/-- **A key that was read is the only one with its kind and its bytes.** -/
theorem eq_of_same (hread : read kinds map = .ok key) (h : key.same other) : key = other := by
  simp only [same, Bool.and_eq_true, beq_iff_eq] at h
  obtain ⟨halgorithm, hdata⟩ := h
  cases key with
  | ecc key =>
    cases other with
    | ecc other =>
      obtain ⟨data, point, reads⟩ := key
      obtain ⟨data', point', reads'⟩ := other
      obtain rfl : data = data' := hdata
      obtain rfl : point = point' := Option.some_injective _ (reads.symm.trans reads')
      rfl
    | ed25519 other => cases halgorithm
    | rsa other => cases halgorithm
  | ed25519 key =>
    cases other with
    | ecc other => cases halgorithm
    | ed25519 other =>
      obtain ⟨data, isPoint⟩ := key
      obtain ⟨data', isPoint'⟩ := other
      obtain rfl : data = data' := hdata
      rfl
    | rsa other => cases halgorithm
  | rsa key =>
    cases other with
    | ecc other => cases halgorithm
    | ed25519 other => cases halgorithm
    | rsa other =>
      have hacceptable := isAcceptable_of_read_eq_ok hread
      exact congrArg rsa (Rsa.PublicKey.eq_of_toDer_eq hacceptable hdata).symm

end PublicKey

end SelfCert
