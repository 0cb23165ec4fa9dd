import RequestRouting.CommandLine.Arguments

/-!
# Running the program

## Main definitions

* `Invocation.run` — runs an invocation.
* `runCommandLine` — runs the words of a command line and answers with the exit code.
-/

set_option autoImplicit false

namespace RequestRouting

variable {m : Type → Type} [Monad m] [FileAccess m] [Console m]

/-- Prints a result. -/
def printResult {α : Type} [Presentable α] (format : OutputFormat) (colours : Bool) (result : α) :
    m Unit := Console.print (present format colours result)

namespace Session

/-- Dispatches a request, prints the result and tells whether a rule has matched. -/
def printDispatch (session : Session) (format : OutputFormat) (colours : Bool)
    (request : DispatchRequest) : m (Except SessionError Bool) := do
  match ← session.dispatch request with
  | .error e => return .error e
  | .ok result =>
    printResult format colours result
    return .ok result.found

/-- Checks rule tables and prints the result. -/
def printCheck (session : Session) (format : OutputFormat) (colours : Bool)
    (extra : List String) : m (Except SessionError Bool) := do
  match ← session.check extra with
  | .error e => return .error e
  | .ok report =>
    printResult format colours report
    return .ok true

/-- Builds a URL and prints it. -/
def printLink (session : Session) (format : OutputFormat) (colours : Bool)
    (request : LinkRequest) : m (Except SessionError Bool) := do
  match session.link request with
  | .error e => return .error e
  | .ok link =>
    printResult format colours link
    return .ok true

end Session

/-- Runs an invocation, and tells whether what was asked for has been found. -/
def Invocation.run (environment : Environment) (colours : Bool) (invocation : Invocation) :
    m (Except CommandError Bool) := do
  match invocation.command with
  | .config command =>
    return (← command.run environment invocation.config colours).map fun () => true
  | command =>
    match ← Session.start environment invocation.config with
    | .error e => return .error (.session e)
    | .ok session =>
      let format := invocation.format
      let outcome ← match command with
        | .dispatch request => session.printDispatch format colours request
        | .check tables => session.printCheck format colours tables
        | .url request => session.printLink format colours request
        | .config _ => pure (.ok true)
      return outcome.mapError .session

/-- What became of a command line. -/
inductive Completion where
  /-- All went well. -/
  | success
  /-- No rule has matched. -/
  | noMatch
  /-- The command has failed. -/
  | failure (cause : CommandError)
  /-- The words are no invocation. -/
  | usage (cause : UsageError)

/-- The exit code. -/
def Completion.exitCode : Completion → UInt32
  | .success | .usage .help => 0
  | .noMatch | .failure _ => 1
  | .usage .misuse => 2

/-- Runs the words of a command line. -/
def runCommandLine (environment : Environment) (colours : Bool) (words : List String) :
    m Completion := do
  match Invocation.parse words with
  | .error e => return .usage e
  | .ok invocation =>
    match ← invocation.run environment colours with
    | .error e => return .failure e
    | .ok true => return .success
    | .ok false => return .noMatch

end RequestRouting
