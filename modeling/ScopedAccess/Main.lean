import ScopedAccess.CommandLine
import ScopedAccess.Config.Document
import ScopedAccess.Json.Canonical
import ScopedAccess.Json.Printer

/-!
# ScopedAccess.Main

The program: it reads its arguments, the environment and a file, and prints the report on one
request or the reason why there is none. Settings files are read in the notation of JSON.
-/

namespace ScopedAccess.Main

/-- The text of a file, if it can be read. -/
def fileText (path : String) : IO (Option String) := do
  try
    return some (← IO.FS.readFile path)
  catch _ =>
    return none

/-- The variables in the order in which the environment lists them. -/
def environment : IO (List (String × String)) := do
  match ← fileText "/proc/self/environ" with
  | none => return []
  | some text =>
    return (Text.fields (Char.ofNat 0) text).map fun entry =>
      let cs := entry.toList
      (String.ofList (cs.takeWhile fun c => c != '='),
        String.ofList ((cs.dropWhile fun c => c != '=').drop 1))

def randomDigits (count : Nat) : IO (List Char) :=
  (List.range count).mapM fun _ => return Json.hexDigit (← IO.rand 0 15)

/-- A random id for a call: a version 4 identifier. -/
def randomId : IO String := do
  let a ← randomDigits 8
  let b ← randomDigits 4
  let c ← randomDigits 3
  let d ← IO.rand 8 11
  let e ← randomDigits 3
  let f ← randomDigits 12
  return String.ofList (a ++ '-' :: b ++ '-' :: '4' :: c ++ '-' :: Json.hexDigit d :: e ++ '-' :: f)

def usage : String :=
  "Show which services' runs a subject may read\n\n" ++
  "Usage: run-authz [OPTIONS] --subject <SUBJECT> --tenant <TENANT>\n\n" ++
  "Options:\n" ++
  "  -c, --config <CONFIG>          [default: run-authz.yaml]\n" ++
  "      --subject <SUBJECT>\n" ++
  "      --tenant <TENANT>\n" ++
  "      --permission <PERMISSION>  Defaults to the configured permission\n" ++
  "      --service-account          Check the subject as a service account\n" ++
  "      --mode <MODE>              Apply this mode to every tenant\n" ++
  "      --service <SERVICE>        Also report whether this service is admitted\n" ++
  "      --timeout <TIMEOUT>        [default: 5s]\n" ++
  "      --json-logs                Emit logs as JSON lines\n" ++
  "  -h, --help                     Print help\n" ++
  "  -V, --version                  Print version"

/-- Evaluates an invocation and prints what comes of it. -/
def evaluate (v : Invocation) : IO UInt32 := do
  let sources : ConfigSources := ⟨← fileText v.config, ← environment⟩
  let requestId ← randomId
  match CommandLine.run Document.ofText? v requestId sources with
  | .ok report =>
    IO.println (Json.obj (("request_id", .str requestId) :: report.members)).canonical.pretty
    return 0
  | .error .settings =>
    IO.eprintln ("Error: " ++ RunError.settings.message ++ " of " ++ v.config)
    return 1
  | .error e =>
    IO.eprintln ("Error: " ++ e.message)
    return 1

end ScopedAccess.Main

def main (args : List String) : IO UInt32 :=
  match ScopedAccess.Options.parse args with
  | .help => do
    IO.println ScopedAccess.Main.usage
    return 0
  | .version => do
    IO.println "run-authz 0.1.0"
    return 0
  | .misuse => do
    IO.eprintln ScopedAccess.Main.usage
    return 2
  | .invoke v => ScopedAccess.Main.evaluate v
