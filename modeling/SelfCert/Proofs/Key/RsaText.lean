import SelfCert.Key.Rsa
import SelfCert.Proofs.Key.Asymmetric
import SelfCert.Proofs.Pem
import SelfCert.Proofs.Rsa

/-!
# RSA keys are read back from their text

The text of a private key is the block of its public key with its own block behind it. The public
key is read from the first one (`Rsa.PublicKey.ofText_toPem_append`), and the private key from the
second one (`Rsa.PrivateKey.ofText_toText`), since the mark of neither block occurs in the other.
A private key that was put together from numbers, read or new, is what its own numbers are put
together to (`Rsa.PrivateKey.IsWhole`).
-/

namespace SelfCert

namespace Rsa

/-! ### Labels -/

theorem isLabel_public : Pem.IsLabel "PUBLIC KEY" := by decide

theorem isLabel_private : Pem.IsLabel "RSA PRIVATE KEY" := by decide

/-! ### Public keys -/

namespace PublicKey

variable {key : PublicKey}

/-- The block of a public key is found in front of any text. -/
theorem find?_toPem_append (key : PublicKey) (rest : String) :
    Pem.find? "PUBLIC KEY" (key.toPem ++ rest) = some (Pem.body key.toDer) := by
  have hfront : ¬(Pem.opening "PUBLIC KEY").toList <:+:
      "".toList ++ (Pem.opening "PUBLIC KEY").toList.dropLast := by
    rw [← Text.occursIn_iff]
    decide
  have hfound := Pem.find?_append_write isLabel_public hfront key.toDer rest
  rwa [String.empty_append] at hfound

/-- **A public key is read from its block**, whatever stands behind it. -/
theorem ofText_toPem_append (h : key.isAcceptable) (rest : String) :
    ofText (key.toPem ++ rest) = .ok key := by
  have hne : key.toDer ≠ [] := List.cons_ne_nil _ _
  rw [ofText, key.find?_toPem_append]
  simp only [Pem.decode?_body hne, Option.bind_some, ofDer?_toDer (length_toDer_le h), if_pos h]

end PublicKey

/-! ### Private keys -/

namespace PrivateKey

variable {key : PrivateKey}

/-- Whether a key is what its own numbers are put together to. -/
def IsWhole (key : PrivateKey) : Prop :=
  ofNumbers? key.publicKey key.secret key.first key.second = some key

/-- A key that was put together is whole: its numbers are the ones it was put together from. -/
theorem isWhole_of_ofNumbers?_eq_some {publicKey : PublicKey} {secret first second : Nat}
    (h : ofNumbers? publicKey secret first second = some key) : key.IsWhole := by
  have hnumbers : key.publicKey = publicKey ∧ key.secret = secret ∧ key.first = first ∧
      key.second = second := by
    unfold ofNumbers? at h
    simp only [Option.ite_none_right_eq_some] at h
    obtain ⟨-, h⟩ := h
    obtain ⟨coefficient, -, rfl⟩ := Option.map_eq_some_iff.mp h
    exact ⟨rfl, rfl, rfl, rfl⟩
  obtain ⟨hpublic, hsecret, hfirst, hsecond⟩ := hnumbers
  rw [IsWhole, hpublic, hsecret, hfirst, hsecond, h]

theorem IsWhole.isSplit (h : key.IsWhole) : key.IsSplit :=
  isSplit_of_ofNumbers?_eq_some h

/-- The public part of a whole key is sound. -/
theorem IsWhole.isSound (h : key.IsWhole) : key.publicKey.isSound := by
  unfold IsWhole ofNumbers? at h
  simp only [Option.ite_none_right_eq_some, Bool.and_eq_true] at h
  exact h.1.1.1.1

/-! ### Keys that are read and made -/

theorem isWhole_of_ofDer?_eq_some {bytes : Bytes} (h : ofDer? bytes = some key) :
    key.IsWhole := by
  unfold ofDer? at h
  split at h
  · exact isWhole_of_ofNumbers?_eq_some h
  · cases h

theorem isWhole_of_ofKindDer?_eq_some {bytes : Bytes} (h : ofKindDer? bytes = some key) :
    key.IsWhole := by
  unfold ofKindDer? at h
  split at h
  · split at h
    · split at h
      · split at h
        · split_ifs at h
          exact isWhole_of_ofDer?_eq_some h
        · cases h
      · cases h
    · cases h
  · cases h

theorem checked_eq_ok_iff {found : PrivateKey} :
    found.checked = .ok key ↔ found = key ∧ key.isWritable := by
  unfold checked
  split_ifs with hwritable
  · constructor
    · rintro ⟨⟩
      exact ⟨rfl, hwritable⟩
    · rintro ⟨rfl, -⟩
      rfl
  · refine iff_of_false nofun ?_
    rintro ⟨rfl, h⟩
    exact hwritable h

/-- A key that was read is whole and can be written. -/
theorem isWhole_of_ofText_eq_ok {text : String} (h : ofText text = .ok key) :
    key.IsWhole ∧ key.isWritable := by
  simp only [ofText] at h
  split at h
  · cases h
  · cases h
  · next found hread =>
    obtain ⟨rfl, hwritable⟩ := checked_eq_ok_iff.mp h
    refine ⟨?_, hwritable⟩
    split at hread
    · obtain ⟨bytes, -, hder⟩ := Option.bind_eq_some_iff.mp (Option.some_injective _ hread)
      exact isWhole_of_ofDer?_eq_some hder
    · obtain ⟨inner, -, hinner⟩ := Option.map_eq_some_iff.mp hread
      obtain ⟨bytes, -, hder⟩ := Option.bind_eq_some_iff.mp hinner
      exact isWhole_of_ofKindDer?_eq_some hder

/-- A key that is found after any number of tries is whole. -/
theorem isWhole_of_tryGenerate_eq_some {bits tries : Nat} {source : Entropy}
    (h : (tryGenerate bits tries source).1 = some key) : key.IsWhole := by
  induction tries generalizing source with
  | zero => cases h
  | succ tries ih =>
    rw [tryGenerate] at h
    split at h
    · cases h
    · split at h
      · cases h
      · -- If nothing can be put together from the two primes, there is another try.
        split at h
        · exact ih h
        · simp only at h
          split at h
          · next found hfound =>
            obtain rfl : found = key := Option.some.inj h
            obtain ⟨secret, -, hnumbers⟩ := Option.bind_eq_some_iff.mp hfound
            exact isWhole_of_ofNumbers?_eq_some hnumbers
          · exact ih h

/-- A new key is whole and can be written. -/
theorem isWhole_of_new_eq_ok {bits : Nat} {source : Entropy}
    (h : (new bits source).1 = .ok key) : key.IsWhole ∧ key.isWritable := by
  unfold new at h
  split at h
  · next found rest hgenerate =>
    dsimp only at h
    obtain ⟨rfl, hwritable⟩ := checked_eq_ok_iff.mp h
    refine ⟨?_, hwritable⟩
    unfold generate at hgenerate
    split_ifs at hgenerate
    · cases hgenerate
    · exact isWhole_of_tryGenerate_eq_some (congrArg Prod.fst hgenerate)
  · cases h

/-! ### The text of a private key -/

/-- The numbers of a whole key are read back. -/
theorem ofDer?_toDer (h : key.IsWhole) (hwritable : key.isWritable) :
    ofDer? key.toDer = some key := by
  let numbers := [0, key.publicKey.modulus, key.publicKey.exponent, key.secret, key.first,
    key.second, key.reduced key.first, key.reduced key.second, key.coefficient]
  have hlength : key.toDer.length < Der.maxLength := of_decide_eq_true hwritable
  have hcontent : (numbers.map Der.integer).flatten.length < Der.maxLength :=
    (Der.length_lt_length_element _ _).trans hlength
  have hwhole : Der.wholeSequence? key.toDer = some (numbers.map Der.integer).flatten :=
    Der.wholeSequence?_sequence hcontent
  have hnaturals : Der.naturals? 9 (numbers.map Der.integer).flatten = some numbers :=
    Der.naturals?_flatten hcontent.le
  rw [ofDer?, hwhole, Option.bind_some, hnaturals]
  exact h

/-- The text of a private key. -/
def toText (key : PrivateKey) : String :=
  key.publicKey.toPem ++ "\r\n" ++ key.toPem

/-- The block of the public key is found in it. -/
theorem find?_public_toText (key : PrivateKey) :
    Pem.find? "PUBLIC KEY" key.toText = some (Pem.body key.publicKey.toDer) := by
  rw [toText, String.append_assoc]
  exact key.publicKey.find?_toPem_append _

/-- The block of the private key is found in it. -/
theorem find?_private_toText (key : PrivateKey) :
    Pem.find? "RSA PRIVATE KEY" key.toText = some (Pem.body key.toDer) :=
  Pem.find?_write_append_write isLabel_private (by decide) (by decide) _ _

/-- **A whole key is read from its text.** -/
theorem ofText_toText (h : key.IsWhole) (hwritable : key.isWritable) :
    ofText key.toText = .ok key := by
  have hne : key.toDer ≠ [] := List.cons_ne_nil _ _
  rw [ofText, key.find?_private_toText]
  simp only [Pem.decode?_body hne, Option.bind_some, ofDer?_toDer h hwritable]
  exact checked_eq_ok_iff.mpr ⟨rfl, hwritable⟩

/-- The public key is read from the text of a private key. -/
theorem ofText_public_toText (h : key.publicKey.isAcceptable) :
    PublicKey.ofText key.toText = .ok key.publicKey := by
  rw [toText, String.append_assoc]
  exact PublicKey.ofText_toPem_append h _

end PrivateKey

end Rsa

/-! ### RSA keys among private keys -/

namespace PrivateKey

variable {kinds : Registry KeyAlgorithm} {key : Rsa.PrivateKey}

/-- An RSA key that was read from a map is whole and can be written. -/
theorem isWhole_of_read_eq_ok {map : KeyMap} (h : read kinds map = .ok (rsa key)) :
    key.IsWhole ∧ key.isWritable := by
  obtain ⟨kind, -, hkey⟩ := Except.bind_eq_ok_iff.mp h
  cases kind with
  | ecc =>
    obtain ⟨_, -, hrsa⟩ := Except.map_eq_ok_iff.mp hkey
    cases hrsa
  | ed25519 =>
    obtain ⟨_, -, hrsa⟩ := Except.map_eq_ok_iff.mp hkey
    cases hrsa
  | rsa =>
    obtain ⟨found, hfound, hrsa⟩ := Except.map_eq_ok_iff.mp hkey
    cases hrsa
    obtain ⟨text, -, htext⟩ := Except.bind_eq_ok_iff.mp hfound
    exact Rsa.PrivateKey.isWhole_of_ofText_eq_ok htext

/-- A new RSA key is whole and can be written. -/
theorem isWhole_of_create_eq_ok {tag : String} {source : Entropy}
    (h : (create kinds tag source).1 = .ok (rsa key)) : key.IsWhole ∧ key.isWritable := by
  unfold create at h
  split at h
  · next kind _ =>
    cases kind <;> simp only [generate, Prod.map_fst] at h
    case ecc =>
      obtain ⟨_, -, hrsa⟩ := Except.map_eq_ok_iff.mp h
      cases hrsa
    case ed25519 =>
      obtain ⟨_, -, hrsa⟩ := Except.map_eq_ok_iff.mp h
      cases hrsa
    case rsa =>
      obtain ⟨found, hfound, hrsa⟩ := Except.map_eq_ok_iff.mp h
      cases hrsa
      exact Rsa.PrivateKey.isWhole_of_new_eq_ok hfound
  · cases h

end PrivateKey

end SelfCert
