import RequestRouting.CommandLine.Run

/-!
# The program

Access to the files and the console of the system, and the entry point.

## Main definitions

* `FileError.ofSystem` — the file error that the system reports.
* `main` — runs the words of the command line.
-/

set_option autoImplicit false

namespace RequestRouting

/-- The number of an error of the system. -/
def systemCode : IO.Error → Option UInt32
  | .noFileOrDirectory _ code _ | .alreadyExists _ code _ | .permissionDenied _ code _
  | .invalidArgument _ code _ | .inappropriateType _ code _ | .noSuchThing _ code _
  | .resourceExhausted _ code _ | .resourceVanished code _ | .unsatisfiedConstraints code _
  | .otherError code _ | .hardwareFault code _ | .resourceBusy code _ | .illegalOperation code _ =>
    some code
  | _ => none

/-- The file error with a number. -/
def FileError.ofCode? (code : UInt32) : Option FileError :=
  if code = 2 then some .notFound
  else if code = 13 then some .denied
  else if code = 17 then some .alreadyExists
  else if code = 20 then some .notADirectory
  else if code = 21 then some .isADirectory
  else if code = 28 then some .noSpace
  else if code = 36 then some .nameTooLong
  else if code = 40 then some .linkLoop
  else none

/-- The file error that the system reports. -/
def FileError.ofSystem (error : IO.Error) : FileError :=
  ((systemCode error).bind FileError.ofCode?).getD .invalidArgument

/-- Runs an action on files. -/
def attempt {α : Type} (action : IO α) : IO (Except FileError α) := do
  try
    return .ok (← action)
  catch e => return .error (.ofSystem e)

/-- Which kind of entry the system reports. -/
def EntryKind.ofSystem : IO.FS.FileType → EntryKind
  | .dir => .directory
  | .file => .file
  | _ => .other

instance : FileAccess IO where
  inspect path := attempt do
    let data ← (← IO.FS.realPath path).metadata
    return match data.type with
      | .dir => .directory
      | _ => .file data.byteSize.toNat
  canonical path := attempt do return (← IO.FS.realPath path).toString
  list path := attempt do
    (← (← IO.FS.realPath path).readDir).toList.mapM fun entry => do
      return (entry.fileName, .ofSystem (← entry.path.symlinkMetadata).type)
  read path := attempt do IO.FS.readBinFile path
  write path contents := attempt do IO.FS.writeBinFile path contents
  makeDirectory path := attempt do IO.FS.createDir path
  protect path := attempt do IO.setAccessRights path { user := { read := true, write := true } }
  rename source target := attempt do IO.FS.rename source target

instance : Console IO where
  print text := do
    let out ← IO.getStdout
    out.putStr text
    out.flush
  readLine := do
    try
      return .ok (← (← IO.getStdin).getLine)
    catch _ => return .error .notUtf8

/-- The variables of the environment that matter. -/
def readEnvironment : IO Environment := do
  let home ← IO.getEnv "HOME"
  return ⟨home.filter fun path => !path.isEmpty, ← IO.getEnv "SWITCHBOARD_CONFIG",
    ← IO.getEnv "SWITCHBOARD_RULES_DIR"⟩

/-- Whether output is coloured: always if that is forced, never if it is not wanted, and otherwise on
a terminal. -/
def wantsColours : IO Bool := do
  let forced := (← IO.getEnv "CLICOLOR_FORCE").any (· ≠ "0")
  let refused := (← IO.getEnv "NO_COLOR").isSome || (← IO.getEnv "CLICOLOR") = some "0"
  if forced then return true
  else if refused then return false
  else (← IO.getStdout).isTty

/-- How the program is used. -/
def usage : String :=
  "Usage: switchboard [--config PATH] [--json] dispatch METHOD PATH | url RESOURCE | " ++
    "check [PATH]... | config COMMAND\n"

/-- Tells what went wrong: the outermost cause first, those below it line by line. -/
def complain (chain : List String) : IO Unit := do
  match chain with
  | [] => return ()
  | first :: [] => IO.eprintln ("Error: " ++ first)
  | first :: causes =>
    IO.eprintln ("Error: " ++ first ++ "\n\nCaused by:")
    for cause in causes do
      IO.eprintln ("    " ++ cause)

/-- Runs the words of the command line. -/
def runProgram (words : List String) : IO UInt32 := do
  let completion ← runCommandLine (← readEnvironment) (← wantsColours) words
  match completion with
  | .failure cause => complain cause.chain
  | .usage .help => IO.print usage
  | .usage .misuse => IO.eprint usage
  | _ => pure ()
  return completion.exitCode

end RequestRouting

/-- Runs the words of the command line. -/
def main (words : List String) : IO UInt32 := RequestRouting.runProgram words
