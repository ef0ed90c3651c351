import SelfCert.CommandLine.Run
import SelfCert.Json.Printer
import Std.Time.DateTime.Timestamp

/-!
# The command line tool

Reads the arguments, runs the command with the files, the clock and the randomness of the system,
and prints the answer as JSON.
-/

namespace SelfCert.CommandLine

/-- The files of the system. -/
def FileSystem.ofSystem : FileSystem IO where
  read path := do
    try return some (← IO.FS.readFile path) catch _ => return none
  makeFolder path := do
    try
      IO.FS.createDirAll path
      return true
    catch _ => return false
  write path text := do
    try
      IO.FS.writeFile path text
      return true
    catch _ => return false

/-- The text of a cause. -/
def Cause.text : Cause → String
  | system => "the system refused"
  | notJson => "this is no JSON text"
  | error message => message

/-- How the tool is used. -/
def usage : String :=
  "Usage: mkm [OPTIONS] <COMMAND>\n\n" ++
  "Commands:\n" ++
  "  generate        Generate a private key, its meta and the resulting ID\n" ++
  "  address         Validate an address and show what it encodes\n" ++
  "  id              Parse an ID\n" ++
  "  check-meta      Validate a meta file, optionally against an ID\n" ++
  "  sign-document   Build and sign a document\n" ++
  "  check-document  Parse a document and verify it against a meta\n" ++
  "  version         Print version information and exit\n" ++
  "  help            Print this message"

/-- The text of an error in the arguments. -/
def UsageError.message : UsageError → String
  | missingArgument => "error: a required argument was not provided"
  | unknownArgument => "error: unexpected argument"
  | unknownSubcommand => "error: unrecognized subcommand"
  | missingSubcommand => "error: a subcommand is required"
  | invalidValue => "error: a value is required"
  | unneededValue => "error: unexpected value"
  | repeated => "error: an argument cannot be used multiple times"
  | help => usage
  | version => "mkm 0.1.0"
  | nothing => usage

/-- Whether an error in the arguments is a question that was answered. -/
def UsageError.isAnswer : UsageError → Bool
  | help => true
  | version => true
  | _ => false

/-- Prints why a command failed. -/
def printFailure (error : CommandError) : IO Unit := do
  IO.eprintln ("Error: " ++ error.message)
  if !error.causes.isEmpty then
    IO.eprintln "\nCaused by:"
    for cause in error.causes do
      IO.eprintln ("    " ++ cause.text)

end SelfCert.CommandLine

open SelfCert CommandLine in
/-- Runs the tool with given arguments. -/
def main (words : List String) : IO UInt32 := do
  match Command.parse words with
  | .error error =>
    if error.isAnswer then
      IO.println error.message
      return 0
    else
      IO.eprintln error.message
      return 2
  | .ok command =>
    let now ← Std.Time.Timestamp.now
    let seed ← IO.getRandomBytes 32
    let answer ← ExceptT.run <|
      command.run FileSystem.ofSystem (.ofInt now.toSecondsSinceUnixEpoch.val)
        (.ofSeed seed.data.toList)
    match answer with
    | .ok value =>
      IO.println value.pretty
      return 0
    | .error error =>
      printFailure error
      return 1
