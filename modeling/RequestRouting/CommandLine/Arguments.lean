import RequestRouting.CommandLine.Config
import RequestRouting.Session.Check
import RequestRouting.Session.Link

/-!
# Arguments

The words of a command line, and the invocation that they spell.

## Main definitions

* `OptionSpec`, `Level` — the options of a command, and what else it takes.
* `Level.scan` — sorts the words of a command into options and operands.
* `Invocation` — what the program is asked to do.
* `Invocation.parse` — the invocation that words spell.
-/

set_option autoImplicit false

namespace RequestRouting

/-! ## Options -/

/-- An option of a command. -/
structure OptionSpec where
  name : String
  /-- Whether the name may be written out, after two dashes. -/
  long : Bool
  /-- The short name, without the dash. -/
  short : Option Char
  /-- Whether a value follows. -/
  takesValue : Bool
  /-- Whether the option may be given more than once. -/
  repeatable : Bool
  /-- The values that are accepted. -/
  accepts : String → Bool

/-- What a command takes. -/
structure Level where
  options : List OptionSpec
  /-- The commands below it; they come in place of operands. -/
  commands : List String

/-- Why words are no invocation. -/
inductive UsageError where
  /-- Help is asked for. -/
  | help
  /-- The words are wrong. -/
  | misuse
  deriving DecidableEq

/-- The words of a command, sorted. -/
structure Scanned where
  /-- The options and their values, in order. -/
  given : List (String × String)
  operands : List String
  /-- The command below and its words. -/
  below : Option (String × List String)

namespace Scanned

/-- No words. -/
def empty : Scanned := ⟨[], [], none⟩

/-- Puts an option in front. -/
def withOption (name value : String) (scanned : Scanned) : Scanned :=
  { scanned with given := (name, value) :: scanned.given }

/-- Puts an operand in front. -/
def withOperand (word : String) (scanned : Scanned) : Scanned :=
  { scanned with operands := word :: scanned.operands }

/-- The values of an option. -/
def values (scanned : Scanned) (name : String) : List String :=
  scanned.given.filterMap fun (other, value) => if other = name then some value else none

/-- The last value of an option. -/
def value? (scanned : Scanned) (name : String) : Option String := (scanned.values name).getLast?

/-- Whether an option is given. -/
def has (scanned : Scanned) (name : String) : Bool := (scanned.value? name).isSome

end Scanned

namespace Level

/-- Whether a word looks like an option. -/
def looksLikeOption (word : String) : Bool := word.startsWith "-" && word ≠ "-"

/-- The option with a long name. -/
def long? (level : Level) (name : String) : Option OptionSpec :=
  level.options.find? fun option => option.long && option.name = name

/-- The option with a short name. -/
def short? (level : Level) (name : Char) : Option OptionSpec :=
  level.options.find? fun option => option.short = some name

/-- Records the value of an option. -/
def record (option : OptionSpec) (value : String) (rest : Except UsageError Scanned) :
    Except UsageError Scanned :=
  if option.accepts value then rest.map (Scanned.withOption option.name value) else .error .misuse

/-- What a cluster of short options is: options without a value, and after them possibly one with a
value, which may be part of the cluster. -/
def readCluster (level : Level) :
    List Char → Except UsageError (List OptionSpec × Option (OptionSpec × Option String))
  | [] => .ok ([], none)
  | c :: rest =>
    match level.short? c with
    | none => .error (if c = 'h' then .help else .misuse)
    | some option =>
      if option.takesValue then
        match rest with
        | [] => .ok ([], some (option, none))
        | '=' :: value => .ok ([], some (option, some (String.ofList value)))
        | value => .ok ([], some (option, some (String.ofList value)))
      else (readCluster level rest).map fun (flags, last) => (option :: flags, last)

/-- What a word is. -/
inductive Word where
  | operand
  /-- From here on all words are operands. -/
  | separator
  | command
  /-- Options without a value, and then possibly one with a value, if the word holds it. -/
  | options (flags : List OptionSpec) (last : Option (OptionSpec × Option String))

/-- What a long option is. -/
def readLong (level : Level) (body : List Char) : Except UsageError Word :=
  let (name, value) := match splitFirst? '=' body with
    | some (name, value) => (String.ofList name, some (String.ofList value))
    | none => (String.ofList body, none)
  match level.long? name, value with
  | none, _ => .error (if name = "help" then .help else .misuse)
  | some option, value =>
    if option.takesValue then .ok (.options [] (some (option, value)))
    else if value.isSome then .error .misuse
    else .ok (.options [option] none)

/-- What a word is. -/
def readWord (level : Level) (word : String) : Except UsageError Word :=
  if level.commands.contains word then .ok .command
  else match word.toList with
    | ['-', '-'] => .ok .separator
    | '-' :: '-' :: body => level.readLong body
    | '-' :: c :: rest =>
      (level.readCluster (c :: rest)).map fun (flags, last) => .options flags last
    | _ => .ok .operand

/-- Records options without a value. -/
def recordFlags (flags : List OptionSpec) (rest : Except UsageError Scanned) :
    Except UsageError Scanned :=
  flags.foldr (fun option acc => acc.map (Scanned.withOption option.name "")) rest

/-- Sorts the words of a command. -/
def scan (level : Level) : List String → Except UsageError Scanned
  | [] => .ok .empty
  | word :: rest => do
    match ← level.readWord word with
    | .operand => return (← scan level rest).withOperand word
    | .separator => return { Scanned.empty with operands := rest }
    | .command => return { Scanned.empty with below := some (word, rest) }
    | .options flags none => recordFlags flags (scan level rest)
    | .options flags (some (option, some value)) =>
      recordFlags flags (record option value (scan level rest))
    | .options flags (some (option, none)) =>
      match rest with
      | [] => .error .misuse
      | value :: rest =>
        if looksLikeOption value then .error .misuse
        else recordFlags flags (record option value (scan level rest))

/-- Whether no option is given too often. -/
def isWithinLimits (level : Level) (scanned : Scanned) : Bool :=
  level.options.all fun option =>
    option.repeatable || (scanned.values option.name).length ≤ 1

/-- Sorts the words of a command, of which no option may be given too often. -/
def read (level : Level) (words : List String) : Except UsageError Scanned := do
  let scanned ← level.scan words
  if level.isWithinLimits scanned then .ok scanned else .error .misuse

end Level

/-! ## The commands of the program -/

/-- What the program does. -/
inductive Command where
  | dispatch (request : DispatchRequest)
  | url (request : LinkRequest)
  | check (tables : List String)
  | config (command : ConfigCommand)

/-- What the program is asked to do. -/
structure Invocation where
  format : OutputFormat
  /-- The path of the configuration file, if one is asked for. -/
  config : Option String
  command : Command

namespace Invocation

/-- Any value. -/
def anything : String → Bool := fun _ => true

/-- Any value but the empty one. -/
def nonEmpty : String → Bool := fun value => !value.isEmpty

/-- An option without a value. -/
def flagSpec (name : String) (short : Option Char) : OptionSpec :=
  ⟨name, true, short, false, false, anything⟩

/-- An option with a value. -/
def valueSpec (name : String) (short : Option Char) (accepts : String → Bool) : OptionSpec :=
  ⟨name, true, short, true, false, accepts⟩

/-- An option with a value that may be given several times. -/
def valuesSpec (name : String) (short : Option Char) (accepts : String → Bool) : OptionSpec :=
  ⟨name, true, short, true, true, accepts⟩

/-- The options that every command takes. -/
def globalOptions : List OptionSpec :=
  [valueSpec "output" (some 'f') fun value => (OutputFormat.ofName? value).isSome,
    flagSpec "json" none, valueSpec "config" none nonEmpty,
    ⟨"verbose", false, some 'v', false, true, anything⟩]

/-- What a command takes besides the options of every command. -/
def level (options : List OptionSpec) (commands : List String) : Level :=
  ⟨options ++ globalOptions, commands⟩

/-- What the program takes. -/
def topLevel : Level := level [] ["dispatch", "url", "check", "config", "help"]

/-- What `dispatch` takes. -/
def dispatchLevel : Level :=
  level [valuesSpec "table" (some 't') nonEmpty, valueSpec "extra-path" none anything,
    valuesSpec "get" none anything, valuesSpec "post" none anything,
    valuesSpec "fact" none anything, valueSpec "user" none anything,
    valuesSpec "group" none anything, flagSpec "all" none] []

/-- What `url` takes. -/
def urlLevel : Level :=
  level [valueSpec "params" (some 'p') anything, flagSpec "raw" none, flagSpec "absolute" none] []

/-- What `config` takes. -/
def configLevel : Level :=
  level [] ["init", "path", "validate", "list", "add-resource", "remove-resource", "add-table",
    "help"]

/-- The request of `dispatch`. -/
def dispatchCommand (scanned : Scanned) : Except UsageError Command :=
  match scanned.operands with
  | [method, path] =>
    .ok (.dispatch {
      request := {
        method := method
        path := path
        extraPath := scanned.value? "extra-path"
        get := scanned.values "get"
        post := scanned.values "post"
        facts := scanned.values "fact"
        user := scanned.value? "user"
        groups := scanned.values "group" }
      tables := scanned.values "table"
      all := scanned.has "all" })
  | _ => .error .misuse

/-- The request of `url`. -/
def urlCommand (scanned : Scanned) : Except UsageError Command :=
  match scanned.operands with
  | [resource] =>
    .ok (.url ⟨resource, (scanned.value? "params").getD "\x7b\x7d", scanned.has "raw",
      scanned.has "absolute"⟩)
  | _ => .error .misuse

/-- What a command on the configuration file takes. -/
def configOptions (name : String) : Level :=
  if name = "add-resource" then level [valueSpec "description" (some 'd') anything] []
  else if name = "remove-resource" then level [flagSpec "yes" (some 'y')] []
  else level [] []

/-- A command on the configuration file. -/
def configCommand (name : String) (scanned : Scanned) : Except UsageError ConfigCommand :=
  match name, scanned.operands with
  | "init", [] => .ok .init
  | "path", [] => .ok .showPath
  | "validate", [] => .ok .validate
  | "list", [] => .ok .list
  | "add-resource", [name, pattern] =>
    .ok (.addResource ⟨name, pattern, scanned.value? "description"⟩)
  | "remove-resource", [name] => .ok (.removeResource name (scanned.has "yes"))
  | "add-table", [path] => if path.isEmpty then .error .misuse else .ok (.addTable path)
  | "help", _ => .error .help
  | _, _ => .error .misuse

/-- The command below a level, which has to be there. -/
def below (scanned : Scanned) : Except UsageError (String × List String) :=
  match scanned.below, scanned.operands with
  | some command, [] => .ok command
  | _, _ => .error .misuse

/-- Reads the words of a command on the configuration file. -/
def readConfig (words : List String) : Except UsageError (List Scanned × Command) := do
  let scanned ← configLevel.read words
  let (name, rest) ← below scanned
  let inner ← (configOptions name).read rest
  .ok ([scanned, inner], .config (← configCommand name inner))

/-- Reads the words of a command. -/
def readCommand (name : String) (words : List String) :
    Except UsageError (List Scanned × Command) :=
  match name with
  | "dispatch" => do
    let scanned ← dispatchLevel.read words
    .ok ([scanned], ← dispatchCommand scanned)
  | "url" => do
    let scanned ← urlLevel.read words
    .ok ([scanned], ← urlCommand scanned)
  | "check" => do
    let scanned ← (level [] []).read words
    if scanned.operands.all nonEmpty then .ok ([scanned], .check scanned.operands)
    else .error .misuse
  | "config" => readConfig words
  | "help" => .error .help
  | _ => .error .misuse

/-- The value of an option that every command takes; the innermost command counts. -/
def globalValue? (name : String) (levels : List Scanned) : Option String :=
  (levels.filterMap fun scanned => scanned.value? name).getLast?

/-- The invocation that words spell. -/
def parse (words : List String) : Except UsageError Invocation := do
  let top ← topLevel.read words
  let (name, rest) ← below top
  let (inner, command) ← readCommand name rest
  let levels := top :: inner
  let named := ((globalValue? "output" levels).bind OutputFormat.ofName?).getD .human
  let format := if (globalValue? "json" levels).isSome then .json else named
  .ok ⟨format, globalValue? "config" levels, command⟩

end Invocation

end RequestRouting
