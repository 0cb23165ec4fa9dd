import RequestRouting.Files.Access
import RequestRouting.Text.Blank

/-!
# Consoles

What a program prints and what it is told, apart from any particular terminal.

## Main definitions

* `Console` — printing, and reading a line.
* `Transcript` — what has been printed, and what is still to be read.
-/

set_option autoImplicit false

namespace RequestRouting

/-- Printing and reading in a monad. -/
class Console (m : Type → Type) where
  /-- Prints a text as it is. -/
  print : String → m Unit
  /-- Reads a line with its end; empty if there is nothing more to read. -/
  readLine : m (Except FileError String)

/-- What has been printed, and what is still to be read. -/
structure Transcript where
  printed : String
  input : String

/-- Prints nothing so far. -/
def Transcript.ofInput (input : String) : Transcript := ⟨"", input⟩

/-- Takes a line with its end off the front of a text. -/
def takeLine : List Char → List Char × List Char
  | [] => ([], [])
  | '\n' :: rest => (['\n'], rest)
  | c :: rest =>
    let (line, rest) := takeLine rest
    (c :: line, rest)

instance {m : Type → Type} [Monad m] : Console (StateT Transcript m) where
  print text := modify fun transcript => { transcript with printed := transcript.printed ++ text }
  readLine := modifyGet fun transcript =>
    let (line, rest) := takeLine transcript.input.toList
    (.ok (String.ofList line), { transcript with input := String.ofList rest })

instance {m : Type → Type} [Monad m] [FileAccess m] : FileAccess (StateT Transcript m) where
  inspect path := StateT.lift (FileAccess.inspect path)
  canonical path := StateT.lift (FileAccess.canonical path)
  list path := StateT.lift (FileAccess.list path)
  read path := StateT.lift (FileAccess.read path)
  write path contents := StateT.lift (FileAccess.write path contents)
  makeDirectory path := StateT.lift (FileAccess.makeDirectory path)
  protect path := StateT.lift (FileAccess.protect path)
  rename source target := StateT.lift (FileAccess.rename source target)

/-- What an action gives and what it prints, when it is told a text. -/
def transcribe {m : Type → Type} [Monad m] {α : Type} (input : String)
    (action : StateT Transcript m α) : m (α × String) := do
  let (result, transcript) ← action.run (.ofInput input)
  return (result, transcript.printed)

/-- Prints a text and a line end. -/
def printLine {m : Type → Type} [Console m] (text : String) : m Unit := Console.print (text ++ "\n")

/-- Prints lines. -/
def printLines {m : Type → Type} [Monad m] [Console m] : List String → m Unit
  | [] => return ()
  | line :: rest => do
    printLine line
    printLines rest

end RequestRouting
