import SelfCert.Text.Quoted

/-!
# Schemes

How an address is made from the key of a meta. The three built-in schemes have a canonical tag and
two aliases each; any other tag names a scheme of its own, for which nothing is known.
-/

namespace SelfCert

/-- A scheme, by which a meta binds a key to an address. -/
inductive Scheme where
  /-- The key may be bound to a seed by a signature. -/
  | standard
  /-- The address is the one of the key in the Bitcoin network. -/
  | bitcoin
  /-- The address is the one of the key in the Ethereum network. -/
  | ethereum
  /-- A scheme with a tag of its own. -/
  | custom (tag : String)
  deriving DecidableEq, Repr

namespace Scheme

/-- The canonical tag. -/
def tag : Scheme → String
  | standard => "1"
  | bitcoin => "2"
  | ethereum => "4"
  | custom tag => tag

/-- The built-in schemes. -/
def builtIn : List Scheme := [standard, bitcoin, ethereum]

/-- The aliases in lower case. -/
def lowercaseAliases : List (String × Scheme) :=
  [("mkm", standard), ("btc", bitcoin), ("eth", ethereum)]

/-- The aliases in upper case. -/
def uppercaseAliases : List (String × Scheme) :=
  [("MKM", standard), ("BTC", bitcoin), ("ETH", ethereum)]

/-- All tags that stand for built-in schemes. -/
def tags : List (String × Scheme) :=
  builtIn.map (fun scheme => (scheme.tag, scheme)) ++ lowercaseAliases ++ uppercaseAliases

/-- The scheme a tag stands for. -/
def ofTag (tag : String) : Scheme :=
  match tags.find? fun entry => entry.1 == tag with
  | some entry => entry.2
  | none => custom tag

/-- Whether metas of a scheme may carry a seed. -/
def hasSeed : Scheme → Bool
  | standard => true
  | bitcoin => false
  | ethereum => false
  | custom _ => true

/-- The name of a scheme in errors about addresses. -/
def label : Scheme → String
  | standard => "default"
  | bitcoin => "BTC"
  | ethereum => "ETH"
  | custom tag => tag

/-- The name of a scheme in descriptions. -/
def describe : Scheme → String
  | standard => "Default"
  | bitcoin => "Btc"
  | ethereum => "Eth"
  | custom tag => "Other(" ++ Text.quoted tag ++ ")"

theorem mem_builtIn_iff {scheme : Scheme} :
    scheme ∈ builtIn ↔ scheme = standard ∨ scheme = bitcoin ∨ scheme = ethereum := by
  simp [builtIn]

/-- The tag of a built-in scheme stands for it. -/
theorem ofTag_tag {scheme : Scheme} (h : scheme ∈ builtIn) : ofTag scheme.tag = scheme := by
  rcases mem_builtIn_iff.mp h with rfl | rfl | rfl <;> decide

end Scheme

end SelfCert
