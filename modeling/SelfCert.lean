import SelfCert.Main
import SelfCert.Proofs.AddressSpelling
import SelfCert.Proofs.AddressText
import SelfCert.Proofs.BareIdentifier
import SelfCert.Proofs.BulletinMembers
import SelfCert.Proofs.Bytes
import SelfCert.Proofs.CanonicalText
import SelfCert.Proofs.Cipher.Aes
import SelfCert.Proofs.Cipher.Cbc
import SelfCert.Proofs.Cipher.Gcm
import SelfCert.Proofs.Codec.Base58
import SelfCert.Proofs.Codec.Base64
import SelfCert.Proofs.DataUri
import SelfCert.Proofs.DataUriMap
import SelfCert.Proofs.DataWire
import SelfCert.Proofs.Der
import SelfCert.Proofs.DocumentCheck
import SelfCert.Proofs.DocumentKinds
import SelfCert.Proofs.DocumentWire
import SelfCert.Proofs.EncodedData
import SelfCert.Proofs.IdentifierGrammar
import SelfCert.Proofs.IdentifierText
import SelfCert.Proofs.Json.RoundTrip
import SelfCert.Proofs.Json.Scalars
import SelfCert.Proofs.Key.Asymmetric
import SelfCert.Proofs.Key.Basic
import SelfCert.Proofs.Key.Symmetric
import SelfCert.Proofs.KeyMaps
import SelfCert.Proofs.Lifecycle
import SelfCert.Proofs.Loading
import SelfCert.Proofs.MapText
import SelfCert.Proofs.Matching
import SelfCert.Proofs.MetaMaking
import SelfCert.Proofs.MetaReading
import SelfCert.Proofs.MetaWire
import SelfCert.Proofs.NetworkFileWire
import SelfCert.Proofs.Number.Modular
import SelfCert.Proofs.PointKeys
import SelfCert.Proofs.PortableDocument
import SelfCert.Proofs.Rsa
import SelfCert.Proofs.SchemeTags
import SelfCert.Proofs.SignatureForms
import SelfCert.Proofs.SignedDocument
import SelfCert.Proofs.Table
import SelfCert.Proofs.Thinning
import SelfCert.Proofs.Transparency
import SelfCert.Proofs.TrustedProperties
