import RequestRouting.Condition.Options
import RequestRouting.Knowledge
import RequestRouting.Text.Split

/-!
# Path conditions

A path condition matches a regular expression against a whole path, or regular expressions against
its chunks between the matches of a delimiter, or both.

## Main definitions

* `UrlPathCondition` — the condition.
* `resolveChunkIndex` — the position of a chunk that is counted from either end.
* `UrlPathCondition.ofOptions`, `UrlPathCondition.config` — building and reporting a condition.
* `UrlPathCondition.evaluate` — the verdict and what it captures.
-/

set_option autoImplicit false

namespace RequestRouting

/-- Which path a condition looks at. -/
inductive PathSource where
  /-- The path of the request. -/
  | request
  /-- The path behind the script, without delimiters at its ends. -/
  | extra
  deriving DecidableEq

/-- The name of a source. -/
def PathSource.name : PathSource → String
  | .request => "request"
  | .extra => "extra"

/-- The least index of a chunk. -/
def chunkIndexMin : Int := -9223372036854775808

/-- The greatest index of a chunk. -/
def chunkIndexMax : Int := 9223372036854775807

/-- The position of a chunk among `count` chunks; a negative index counts from the end.  A number of
chunks beyond the range of indices leaves negative ones without a position. -/
def resolveChunkIndex (index : Int) (count : Nat) : Option Nat :=
  if index < 0 then
    if (count : Int) ≤ chunkIndexMax && 0 ≤ (count : Int) + index then
      some ((count : Int) + index).toNat
    else none
  else if index.toNat < count then some index.toNat
  else none

/-- A condition on a path. -/
structure UrlPathCondition where
  source : PathSource
  delimiter : String
  /-- The pattern of the whole path. -/
  pattern : Option Regex.Compiled
  /-- The patterns of chunks, in increasing order of their indices. -/
  chunks : List (Int × Regex.Compiled)

namespace UrlPathCondition

/-- The tag of the kind. -/
def kind : String := "url_path"

/-- A condition without patterns. -/
def blank : UrlPathCondition := ⟨.request, "/", none, []⟩

/-- Puts a pattern under an index, replacing what was there. -/
def insertChunk (index : Int) (regex : Regex.Compiled) :
    List (Int × Regex.Compiled) → List (Int × Regex.Compiled)
  | [] => [(index, regex)]
  | (i, old) :: rest =>
    if index < i then (index, regex) :: (i, old) :: rest
    else if index = i then (index, regex) :: rest
    else (i, old) :: insertChunk index regex rest

/-- Sets the pattern of a chunk. -/
def withChunk (condition : UrlPathCondition) (index : Int) (regex : Regex.Compiled) :
    UrlPathCondition :=
  { condition with chunks := insertChunk index regex condition.chunks }

/-! ## Building -/

/-- The index that the text between the brackets of a chunk option spells. -/
def readChunkIndex? (inner : List Char) : Option Int := do
  let digits := match inner with
    | '-' :: rest => rest
    | rest => rest
  if digits.isEmpty || !digits.all Char.isDigit then none
  let index ← readInteger? inner
  if chunkIndexMin ≤ index && index ≤ chunkIndexMax then some index else none

/-- The beginning of the name of a chunk option. -/
def chunkOpening : String := "chunk["

/-- Whether an option is meant as a chunk option. -/
def isChunkKey (key : String) : Bool := (stripStart? chunkOpening.toList key.toList).isSome

/-- The index of a chunk option. -/
def parseChunkKey? (key : String) : Option Int := do
  let inner ← stripStart? chunkOpening.toList key.toList
  readChunkIndex? (← stripEnd? [']'] inner)

/-- Compiles the pattern of an option. -/
def compileOption (key pattern : String) : OptionM Regex.Compiled :=
  match Regex.compile pattern with
  | .ok regex => return regex
  | .error cause => Options.invalid (.badRegex key cause)

/-- The source with a name. -/
def readSource : Option String → OptionM PathSource
  | none => return .request
  | some text =>
    if text = "request" then return .request
    else if text = "extra" then return .extra
    else Options.invalid (.unknownSource text)

/-- The delimiter of an option. -/
def readDelimiter : Option String → OptionM String
  | none => return "/"
  | some text => if text = "" then Options.invalid .emptyDelimiter else return text

/-- The pattern of the whole path. -/
def readPattern : Option String → OptionM (Option Regex.Compiled)
  | none => return none
  | some pattern => return some (← compileOption "pattern" pattern)

/-- Adds the patterns of chunk options.  Of two options for one index the last one counts. -/
def readChunks (chunks : List (Int × Regex.Compiled)) :
    List (String × Json) → OptionM (List (Int × Regex.Compiled))
  | [] => return chunks
  | (key, value) :: rest =>
    match parseChunkKey? key with
    | none => Options.invalid (.malformedChunkKey key)
    | some index =>
      match value with
      | .string pattern => do
        let regex ← compileOption key pattern
        readChunks (insertChunk index regex chunks) rest
      | _ => Options.invalid (.chunkNotAString key)

/-- Takes the options of a path condition. -/
def builder : OptionM UrlPathCondition := do
  let source ← readSource (← Options.takeString "source")
  let delimiter ← readDelimiter (← Options.takeString "delimiter")
  let pattern ← readPattern (← Options.takeString "pattern")
  let chunks ← readChunks [] (← Options.takeMatching isChunkKey)
  if pattern.isNone && chunks.isEmpty then Options.invalid .noPathPattern
  Options.finish
  return ⟨source, delimiter, pattern, chunks⟩

/-- The condition of a table of options. -/
def ofOptions (fields : List (String × Json)) : Except RuleError UrlPathCondition :=
  Options.build kind fields builder

/-- The name of the option for a chunk. -/
def chunkKey (index : Int) : String := chunkOpening ++ toString index ++ "]"

/-- The options from which a condition can be built again. -/
def config (condition : UrlPathCondition) : Json :=
  let pattern := match condition.pattern with
    | some regex => [("pattern", Json.string regex.source)]
    | none => []
  Json.ofFields ([("type", .string kind), ("source", .string condition.source.name),
      ("delimiter", .string condition.delimiter)] ++ pattern ++
    condition.chunks.map fun (index, regex) => (chunkKey index, .string regex.source))

/-! ## Evaluation -/

/-- Captured groups as values; a group that took no part is null. -/
def groupValues (groups : List (Option String)) : List Json :=
  groups.map fun
    | some text => .string text
    | none => .null

/-- The text that a condition looks at. -/
def subject (condition : UrlPathCondition) (knowledge : Knowledge) : Except RuleError String :=
  match condition.source with
  | .request => knowledge.factText Knowledge.pathFact
  | .extra =>
    (knowledge.factText Knowledge.extraPathFact).map fun text =>
      String.ofList (trimText condition.delimiter.toList text.toList)

/-- What a chunk contributes: the groups of its pattern, or the chunk itself if there are none. -/
def chunkValues (regex : Regex.Compiled) (chunk : String) (groups : List (Option String)) :
    List Json :=
  if regex.groupCount = 0 then [.string chunk] else groupValues groups

/-- Checks chunks against their patterns, in the order of the indices, and captures as it goes. -/
def evaluateChunks (chunks : List String) :
    List (Int × Regex.Compiled) → Knowledge → Bool × Knowledge
  | [], knowledge => (true, knowledge)
  | (index, regex) :: rest, knowledge =>
    match (resolveChunkIndex index chunks.length).bind fun position => chunks[position]? with
    | none => (false, knowledge)
    | some chunk =>
      match regex.captures? chunk with
      | none => (false, knowledge)
      | some groups =>
        evaluateChunks chunks rest (knowledge.addBackreferences (chunkValues regex chunk groups))

/-- The chunks of a subject. -/
def chunksOf (condition : UrlPathCondition) (subject : String) : List String :=
  (splitOnText condition.delimiter.toList subject.toList).map String.ofList

/-- The verdict on a subject. -/
def evaluateSubject (condition : UrlPathCondition) (subject : String) (knowledge : Knowledge) :
    Bool × Knowledge :=
  match condition.pattern with
  | none => evaluateChunks (condition.chunksOf subject) condition.chunks knowledge
  | some regex =>
    match regex.captures? subject with
    | none => (false, knowledge)
    | some groups =>
      evaluateChunks (condition.chunksOf subject) condition.chunks
        (knowledge.addBackreferences (groupValues groups))

/-- The verdict of a condition. -/
def evaluate (condition : UrlPathCondition) (knowledge : Knowledge) :
    Except RuleError Bool × Knowledge :=
  match condition.subject knowledge with
  | .error e => (.error e, knowledge)
  | .ok subject =>
    let (verdict, knowledge) := condition.evaluateSubject subject knowledge
    (.ok verdict, knowledge)

end UrlPathCondition

end RequestRouting
