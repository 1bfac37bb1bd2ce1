/-
# DottedQuery.Main -- the program

The program reads its arguments, looks up the files and variables that they lead to, and
prints what the command makes of them. All decisions are taken in
`DottedQuery.CommandLine`; nothing is written to any file.
-/
import DottedQuery.CommandLine.Needs

namespace DottedQuery.Program

/-! ## Surroundings -/

/-- What stands at a name, if anything can be read there. -/
def lookAt (name : String) : IO (Option FileContent) := do
  try
    let bytes ← IO.FS.readBinFile name
    return some (.bytes bytes.toList)
  catch
    | .inappropriateType _ code _ => return if code = 21 then some .directory else none
    | _ => return none

/-- Looks at files. -/
def lookAtAll (names : List String) : IO Files := do
  let mut entries := []
  for name in names.eraseDups do
    if let some content ← lookAt name then
      entries := entries ++ [(name, content)]
  return { entries }

/-- Looks up variables. -/
def lookUpAll (names : List String) : IO Environment := do
  let mut found := []
  for name in names.eraseDups do
    if let some value ← IO.getEnv name then
      found := found ++ [(name, value)]
  return fun name => found.lookup name

/-- The user's own settings file. -/
def userFile : IO String := do
  let home := (← IO.getEnv "HOME").getD ""
  let directory :=
    match ← IO.getEnv "XDG_CONFIG_HOME" with
    | some directory => if directory.startsWith "/" then directory else home ++ "/.config"
    | none => home ++ "/.config"
  return directory ++ "/radhoc/config.toml"

/-- What an invocation can see. -/
def surroundings (i : CommandLine.Invocation) : IO CommandLine.Surroundings := do
  let mut s : CommandLine.Surroundings :=
    { files := {}, environment := fun _ => none, userFile := ← userFile }
  for _ in List.range CommandLine.rounds do
    let needs := i.needs s
    s := { s with
      files := ← lookAtAll needs.files
      environment := ← lookUpAll needs.environment }
  return s

/-! ## Running -/

/-- Runs the program on its arguments: prints what comes out and gives the exit code. -/
def run (arguments : List String) : IO UInt32 := do
  let s ←
    match CommandLine.Invocation.ofArguments arguments with
    | .ok invocation => surroundings invocation
    | .error _ => pure { files := {}, environment := fun _ => none, userFile := "" }
  let outcome := CommandLine.outcome s arguments
  IO.print outcome.output
  match outcome with
  | .printed _ => pure ()
  | .failed cause => IO.eprintln cause.message
  | .misused cause => IO.eprintln ("error: " ++ cause.message)
  return outcome.code.toUInt32

end DottedQuery.Program

/-- The program. -/
def main (arguments : List String) : IO UInt32 := DottedQuery.Program.run arguments
