import RequestRouting.Regex.Expr

/-!
# Programs of regular expressions

A regular expression becomes a program of small instructions that refer to each other by index.
The order of the two targets of a fork is the order of preference.

## Main definitions

* `Regex.Instr`, `Regex.Program` — instructions and programs.
* `Regex.Expr.program` — the program of an expression.

## Implementation notes

Code is emitted back to front: every fragment is given the index that follows it, and returns the
index at which it begins.  Loops reserve an index for their fork and fill it in afterwards.
-/

set_option autoImplicit false

namespace RequestRouting

namespace Regex

/-- An instruction. -/
inductive Instr where
  /-- Reads a character of a set. -/
  | chars (table : Unicode.RangeTable) (next : Nat)
  /-- Goes on at either of two places, preferably the first. -/
  | fork (first second : Nat)
  /-- Stores the position in a slot. -/
  | save (slot next : Nat)
  /-- Checks the surroundings. -/
  | look (condition : Look) (next : Nat)
  /-- Goes on elsewhere. -/
  | jump (next : Nat)
  /-- The end of a match. -/
  | accept
  deriving Inhabited

/-- A program: its instructions and the index of the first one to run. -/
structure Program where
  code : Array Instr
  entry : Nat

/-- Adds an instruction and returns its index. -/
def emit (instr : Instr) (code : Array Instr) : Nat × Array Instr := (code.size, code.push instr)

/-- Applies an emitter a number of times, every copy in front of the one before. -/
def emitTimes (emitOne : Nat → Array Instr → Nat × Array Instr) :
    Nat → Nat → Array Instr → Nat × Array Instr
  | 0, next, code => (next, code)
  | count + 1, next, code =>
    let (entry, code) := emitOne next code
    emitTimes emitOne count entry code

/-- A fork in the order that greed asks for. -/
def forkFor (greedy : Bool) (inside outside : Nat) : Instr :=
  if greedy then .fork inside outside else .fork outside inside

/-- Emits optional copies, each of which may skip to the end of all of them. -/
def emitOptional (emitOne : Nat → Array Instr → Nat × Array Instr) (greedy : Bool) (done : Nat) :
    Nat → Nat → Array Instr → Nat × Array Instr
  | 0, next, code => (next, code)
  | count + 1, next, code =>
    let (inside, code) := emitOne next code
    let (entry, code) := emit (forkFor greedy inside done) code
    emitOptional emitOne greedy done count entry code

/-- Emits one or more repetitions. -/
def emitPlus (emitOne : Nat → Array Instr → Nat × Array Instr) (greedy : Bool) (next : Nat)
    (code : Array Instr) : Nat × Array Instr :=
  let (loop, code) := emit (.jump next) code
  let (entry, code) := emitOne loop code
  (entry, code.set! loop (forkFor greedy entry next))

/-- Emits any number of repetitions.  A body that can match the empty text is repeated once or more
or not at all, which keeps the order of preference. -/
def emitStar (emitOne : Nat → Array Instr → Nat × Array Instr) (bodyCanBeEmpty greedy : Bool)
    (next : Nat) (code : Array Instr) : Nat × Array Instr :=
  if bodyCanBeEmpty then
    let (entry, code) := emitPlus emitOne greedy next code
    emit (forkFor greedy entry next) code
  else
    let (loop, code) := emit (.jump next) code
    let (entry, code) := emitOne loop code
    (loop, code.set! loop (forkFor greedy entry next))

namespace Expr

/-- Emits an expression in front of an index. -/
def emit : Expr → Nat → Array Instr → Nat × Array Instr
  | .empty, next, code => (next, code)
  | .chars set, next, code => Regex.emit (.chars set.table next) code
  | .look condition, next, code => Regex.emit (.look condition next) code
  | .group index body, next, code =>
    let (close, code) := Regex.emit (.save (2 * index + 1) next) code
    let (entry, code) := body.emit close code
    Regex.emit (.save (2 * index) entry) code
  | .cat first second, next, code =>
    let (entry, code) := second.emit next code
    first.emit entry code
  | .alt first second, next, code =>
    let (left, code) := first.emit next code
    let (right, code) := second.emit next code
    Regex.emit (.fork left right) code
  | .repeated least most greedy body, next, code =>
    match most with
    | some most =>
      let (entry, code) := emitOptional body.emit greedy next (most - least) next code
      emitTimes body.emit least entry code
    | none =>
      match least with
      | 0 => emitStar body.emit body.canBeEmpty greedy next code
      | fixed + 1 =>
        let (entry, code) := emitPlus body.emit greedy next code
        emitTimes body.emit fixed entry code

/-- The program of an expression. -/
def program (expr : Expr) : Program :=
  let (done, code) := Regex.emit .accept #[]
  let (entry, code) := expr.emit done code
  ⟨code, entry⟩

end Expr

end Regex

end RequestRouting
