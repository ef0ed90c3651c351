import SelfCert.CommandLine.Arguments

/-!
# Commands

What can be asked for on the command line.
-/

namespace SelfCert.CommandLine

/-- How the log is written. -/
inductive LogFormat where
  | pretty
  | json
  deriving DecidableEq, Repr

/-- The format a text names, in any case of letters; every other text means the pretty one. -/
def LogFormat.ofText (text : String) : LogFormat :=
  if text.toList.map Char.toLower = "json".toList then json else pretty

/-- The name of a format. -/
def LogFormat.name : LogFormat → String
  | pretty => "Pretty"
  | json => "Json"

/-- What a new account is made of. -/
structure GenerateOptions where
  scheme : String
  algorithm : String
  seed : Option String
  network : String
  terminal : Option String
  /-- The directory for the files of the account. -/
  directory : Option String
  deriving DecidableEq, Repr

/-- What a document is made of. -/
structure SignOptions where
  keyPath : String
  did : String
  kind : Option String
  propertiesPath : Option String
  name : Option String
  deriving DecidableEq, Repr

/-- A command. -/
inductive Command where
  /-- Makes a key, its meta and the identifier. -/
  | generate (options : GenerateOptions)
  /-- Shows what an address says. -/
  | address (text : String)
  /-- Shows what an identifier says. -/
  | identifier (text : String)
  /-- Checks a meta, and whether an identifier belongs to it. -/
  | checkMeta (path : String) (did : Option String)
  /-- Signs a document. -/
  | signDocument (options : SignOptions)
  /-- Checks a document against a meta. -/
  | checkDocument (path metaPath : String)
  /-- Shows the versions. -/
  | version
  deriving DecidableEq, Repr

/-- The option that every command has. -/
def logOption : Parameter := ⟨"log-format", none, .text, false⟩

/-- The words for the commands, and the one for help. -/
def commandWords : List String :=
  ["generate", "address", "id", "check-meta", "sign-document", "check-document", "version", "help"]

/-- What may stand in front of a command. -/
def frontInterface : Interface := ⟨[logOption], [], commandWords⟩

/-- What the command with a given word understands. -/
def interfaceOf (word : String) : Interface :=
  match word with
  | "generate" =>
    ⟨[logOption, ⟨"meta-type", some 't', .text, false⟩, ⟨"key-algorithm", some 'k', .text, false⟩,
      ⟨"seed", some 's', .text, false⟩, ⟨"network", some 'n', .text, false⟩,
      ⟨"terminal", none, .text, false⟩, ⟨"out", some 'o', .path, false⟩], [], []⟩
  | "address" => ⟨[logOption], [⟨"address", none, .text, true⟩], []⟩
  | "id" => ⟨[logOption], [⟨"id", none, .text, true⟩], []⟩
  | "check-meta" =>
    ⟨[logOption, ⟨"id", none, .text, false⟩], [⟨"meta", none, .path, true⟩], []⟩
  | "sign-document" =>
    ⟨[logOption, ⟨"key", some 'k', .path, true⟩, ⟨"id", none, .text, true⟩,
      ⟨"type", some 't', .text, false⟩, ⟨"properties", some 'p', .path, false⟩,
      ⟨"name", none, .text, false⟩], [], []⟩
  | "check-document" =>
    ⟨[logOption, ⟨"meta", some 'm', .path, true⟩], [⟨"document", none, .path, true⟩], []⟩
  | _ => ⟨[logOption], [], []⟩

/-- The command with a given word and given values. -/
def Command.ofValues (word : String) (values : Values) : Command :=
  let text (name : String) : String := (values.get? name).getD ""
  match word with
  | "generate" =>
    .generate ⟨(values.get? "meta-type").getD "1", (values.get? "key-algorithm").getD "ECC",
      values.get? "seed", (values.get? "network").getD "user", values.get? "terminal",
      values.get? "out"⟩
  | "address" => .address (text "address")
  | "id" => .identifier (text "id")
  | "check-meta" => .checkMeta (text "meta") (values.get? "id")
  | "sign-document" =>
    .signDocument ⟨text "key", text "id", values.get? "type", values.get? "properties",
      values.get? "name"⟩
  | "check-document" => .checkDocument (text "document") (text "meta")
  | _ => .version

/-- What help is asked for: at most one word, which is one of a command. -/
def helpError : List String → UsageError
  | [] => .help
  | [word] => if commandWords.contains word then .help else .unknownSubcommand
  | _ => .unknownSubcommand

/-- Reads a command. -/
def Command.parse (words : List String) : Except UsageError Command := do
  let front ← frontInterface.read words
  match front.subcommand with
  | some (word, rest) =>
    if word = "help" then .error (helpError rest)
    else do
      let values ← (interfaceOf word).readValues rest
      let _ ← front.values
      return .ofValues word values
  | none =>
    let values ← front.values
    .error (if values.isEmpty then .nothing else .missingSubcommand)

end SelfCert.CommandLine
