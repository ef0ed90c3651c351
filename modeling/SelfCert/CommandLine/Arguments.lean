import SelfCert.Text.Search

/-!
# Arguments

How a list of words is read as the arguments of a command. An option has a long name, and may have a
short one; its value is the next word, or stands in the same word behind `=` or directly behind the
short name. Behind a lone `--` all words are operands.

A value that stands in a word of its own is looked at when the next option or operand is met, or
when the words end. So of two faults the one in a word that is read earlier need not be the one that
is found first: a value in front of a subcommand is looked at after the words of the subcommand.

`Interface.read` gives what has been read up to the end or to the word that names a subcommand, and
`Reading.values` the values by the names of their parameters.
-/

namespace SelfCert.CommandLine

/-- What is wrong with a list of words, or what was asked for instead of a run. -/
inductive UsageError where
  /-- A required argument is not there. -/
  | missingArgument
  /-- There is no such option, or an operand too many. -/
  | unknownArgument
  /-- There is no such subcommand. -/
  | unknownSubcommand
  /-- There is no subcommand. -/
  | missingSubcommand
  /-- An option has no value, or a path is empty. -/
  | invalidValue
  /-- An option that takes no value has one. -/
  | unneededValue
  /-- An option is given twice. -/
  | repeated
  /-- Help is asked for. -/
  | help
  /-- The version is asked for. -/
  | version
  /-- There is nothing at all. -/
  | nothing
  deriving DecidableEq, Repr

/-- What a value may be. -/
inductive ValueKind where
  /-- Any text. -/
  | text
  /-- A path, which is not empty. -/
  | path
  deriving DecidableEq, Repr

/-- An option or an operand. -/
structure Parameter where
  name : String
  short : Option Char
  kind : ValueKind
  isRequired : Bool
  deriving DecidableEq, Repr

/-- What a command understands. -/
structure Interface where
  options : List Parameter
  operands : List Parameter
  subcommands : List String

/-- Values by the names of their parameters. -/
abbrev Values := List (String × String)

/-- The value of a parameter. -/
def Values.get? (values : Values) (name : String) : Option String :=
  (values.find? fun entry => entry.1 == name).map Prod.snd

/-- How far the words have been read. -/
structure Progress where
  values : Values
  /-- The parameter whose value was met last, with the value unless that is still to come. -/
  pending : Option (Parameter × Option String)
  operands : List Parameter
  /-- Whether only operands may follow. -/
  onlyOperands : Bool

/-- Whether the next word is to be the value of an option. -/
def Progress.awaitsValue (progress : Progress) : Bool :=
  match progress.pending with
  | some (_, none) => true
  | _ => false

/-- Takes a value for a parameter. -/
def Progress.take (progress : Progress) (parameter : Parameter) (value : String) :
    Except UsageError Progress :=
  if (progress.values.get? parameter.name).isSome then .error .repeated
  else if parameter.kind = .path ∧ value.isEmpty then .error .invalidValue
  else .ok { progress with values := progress.values ++ [(parameter.name, value)] }

/-- Takes the value that was met last. -/
def Progress.settle (progress : Progress) : Except UsageError Progress :=
  match progress.pending with
  | none => .ok progress
  | some (_, none) => .error .invalidValue
  | some (parameter, some value) => Progress.take { progress with pending := none } parameter value

/-- Where the reading stands after a word. -/
inductive Step where
  | more (progress : Progress)
  | subcommand (progress : Progress) (name : String)

/-- Reads an option with the value in its own word, if there is one. -/
def Progress.readOption (progress : Progress) (parameter : Parameter) (value : Option String) :
    Except UsageError Progress := do
  let progress ← progress.settle
  match value with
  | some value => progress.take parameter value
  | none => return { progress with pending := some (parameter, none) }

/-- Reads a word behind `--`. -/
def Interface.readLong (interface : Interface) (progress : Progress) (word : List Char) :
    Except UsageError Progress :=
  let (name, value) :=
    match Text.cutAt? '=' word with
    | some (name, value) => (String.ofList name, some (String.ofList value))
    | none => (String.ofList word, none)
  if name = "help" ∨ name = "version" then
    if value.isSome then .error .unneededValue
    else do
      let _ ← progress.settle
      .error (if name = "help" then .help else .version)
  else
    match interface.options.find? fun parameter => parameter.name == name with
    | some parameter => progress.readOption parameter value
    | none => .error .unknownArgument

/-- Reads the letters behind a single `-`. -/
def Interface.readShort (interface : Interface) (progress : Progress) :
    List Char → Except UsageError Progress
  | [] => .ok progress
  | 'h' :: _ => do
    let _ ← progress.settle
    .error .help
  | 'V' :: _ => do
    let _ ← progress.settle
    .error .version
  | letter :: rest =>
    match interface.options.find? fun parameter => parameter.short == some letter with
    | none => .error .unknownArgument
    | some parameter =>
      let value := match rest with
        | [] => none
        | '=' :: value => some (String.ofList value)
        | value => some (String.ofList value)
      progress.readOption parameter value

/-- Reads an operand. -/
def Interface.readOperand (interface : Interface) (progress : Progress) (word : String) :
    Except UsageError Progress :=
  match progress.operands with
  | operand :: more => do
    let progress ← progress.settle
    return { progress with pending := some (operand, some word), operands := more }
  | [] =>
    if interface.subcommands.isEmpty then .error .unknownArgument
    else if progress.onlyOperands ∧ interface.subcommands.contains word then .error .unknownArgument
    else .error .unknownSubcommand

/-- Reads a word. -/
def Interface.readWord (interface : Interface) (progress : Progress) (word : String) :
    Except UsageError Step :=
  if progress.onlyOperands then (interface.readOperand progress word).map .more
  else if !progress.awaitsValue && interface.subcommands.contains word then
    .ok (.subcommand progress word)
  else
    match word.toList with
    | ['-', '-'] => .ok (.more { progress with onlyOperands := true })
    | '-' :: '-' :: long => (interface.readLong progress long).map .more
    | '-' :: letter :: letters => (interface.readShort progress (letter :: letters)).map .more
    | _ =>
      match progress.pending with
      | some (parameter, none) =>
        .ok (.more { progress with pending := some (parameter, some word) })
      | _ => (interface.readOperand progress word).map .more

/-- What the words of a command say: how far they are read, and a subcommand with its words. -/
structure Reading where
  progress : Progress
  subcommand : Option (String × List String)

/-- The values in front of the subcommand. -/
def Reading.values (reading : Reading) : Except UsageError Values :=
  reading.progress.settle.map (·.values)

/-- Reads the words that are left. -/
def Interface.readWords (interface : Interface) : List String → Progress → Except UsageError Reading
  | [], progress => .ok ⟨progress, none⟩
  | word :: words, progress => do
    match ← interface.readWord progress word with
    | .more progress => interface.readWords words progress
    | .subcommand progress name => return ⟨progress, some (name, words)⟩

/-- Reads the words of a command. -/
def Interface.read (interface : Interface) (words : List String) : Except UsageError Reading :=
  interface.readWords words ⟨[], none, interface.operands, false⟩

/-- Reads the words of a command without subcommands; the required arguments have to be there. -/
def Interface.readValues (interface : Interface) (words : List String) :
    Except UsageError Values := do
  let values ← (← interface.read words).values
  let required := (interface.options ++ interface.operands).filter (·.isRequired)
  if required.all fun parameter => (values.get? parameter.name).isSome then return values
  else .error .missingArgument

end SelfCert.CommandLine
