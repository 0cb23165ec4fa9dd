import RequestRouting.Unicode.CaseFolding
import RequestRouting.Unicode.Category
import RequestRouting.Unicode.Property
import RequestRouting.Unicode.Script

/-!
# Sets of characters

The sets that the classes of a regular expression denote, as lists of ranges in increasing order
that neither overlap nor touch.

## Main definitions

* `CharSet` — such a list, and its Boolean operations.
* `CharSet.foldCase` — the closure of a set under changes of case.
* `CharSet.digits`, `CharSet.blanks`, `CharSet.wordChars` — the sets with escapes of their own.
* `CharSet.ofProperty?` — the set of a named Unicode property.
-/

set_option autoImplicit false

namespace RequestRouting

/-- A set of characters, as ranges of their numbers. -/
structure CharSet where
  ranges : List (Nat × Nat)
  deriving DecidableEq, Inhabited

namespace CharSet

/-- The greatest character number. -/
def maxChar : Nat := 0x10FFFF

/-- The empty set. -/
def empty : CharSet := ⟨[]⟩

/-- All numbers between two ends. -/
def range (first last : Nat) : CharSet := ⟨[(first, last)]⟩

/-- A single character. -/
def single (c : Char) : CharSet := range c.toNat c.toNat

/-- Merges ranges that are sorted by their first numbers, from the left; the first argument is the
range that is still growing. -/
def mergeFrom (current : Nat × Nat) : List (Nat × Nat) → List (Nat × Nat)
  | [] => [current]
  | (first, last) :: rest =>
    if first ≤ current.2 + 1 then mergeFrom (current.1, max current.2 last) rest
    else current :: mergeFrom (first, last) rest

/-- The set of any list of ranges. -/
def ofRanges (ranges : List (Nat × Nat)) : CharSet :=
  match ranges.mergeSort (fun a b => a.1 ≤ b.1) with
  | [] => empty
  | first :: rest => ⟨mergeFrom first rest⟩

/-- The characters of either set. -/
def union (a b : CharSet) : CharSet := ofRanges (a.ranges ++ b.ranges)

/-- The numbers from `next` up to `limit` outside sorted ranges. -/
def gaps (limit next : Nat) : List (Nat × Nat) → List (Nat × Nat)
  | [] => if next ≤ limit then [(next, limit)] else []
  | (first, last) :: rest =>
    if next < first then (next, first - 1) :: gaps limit (last + 1) rest
    else gaps limit (last + 1) rest

/-- The numbers up to a limit that are not in a set. -/
def complement (set : CharSet) (limit : Nat) : CharSet := ⟨gaps limit 0 set.ranges⟩

/-- The characters of both sets. -/
def inter (a b : CharSet) : CharSet :=
  ((a.complement maxChar).union (b.complement maxChar)).complement maxChar

/-- The characters of the first set that are not in the second. -/
def diff (a b : CharSet) : CharSet := a.inter (b.complement maxChar)

/-- The characters of exactly one of the sets. -/
def symmDiff (a b : CharSet) : CharSet := (a.diff b).union (b.diff a)

/-- Whether a set contains a number. -/
def contains (set : CharSet) (n : Nat) : Bool :=
  set.ranges.any fun (first, last) => first ≤ n && n ≤ last

/-- Whether all numbers of a set are at most a limit. -/
def isWithin (set : CharSet) (limit : Nat) : Bool := set.ranges.all fun (_, last) => last ≤ limit

/-- The set as a table for searching. -/
def table (set : CharSet) : Unicode.RangeTable := ⟨set.ranges.toArray⟩

/-- The set of a table. -/
def ofTable (table : Unicode.RangeTable) : CharSet := ⟨table.ranges.toList⟩

/-- Adds every character that differs in case only from one of a set. -/
def foldCase (set : CharSet) : CharSet :=
  let table := set.table
  let targets := Unicode.foldings.foldl (fun acc (source, target) =>
    if table.contains source || table.contains target then target :: acc else acc) []
  if targets.isEmpty then set
  else
    let reached := (ofRanges (targets.map fun n => (n, n))).table
    let sources := Unicode.foldings.foldl (fun acc (source, target) =>
      if reached.contains target then source :: acc else acc) []
    ofRanges (set.ranges ++ (targets ++ sources).map fun n => (n, n))

/-- Adds the other case of every ASCII letter of a set. -/
def foldAscii (set : CharSet) : CharSet :=
  let upper := set.inter (range 65 90)
  let lower := set.inter (range 97 122)
  set.union (ofRanges (upper.ranges.map (fun (a, b) => (a + 32, b + 32)) ++
    lower.ranges.map (fun (a, b) => (a - 32, b - 32))))

/-! ## Named sets -/

/-- The decimal digits. -/
def digits : CharSet := ofTable Unicode.decimalNumber

/-- White space. -/
def blanks : CharSet := ofTable Unicode.whiteSpace

/-- The characters of words: letters, marks, digits, connectors and the joiners. -/
def wordChars : CharSet :=
  ofRanges ([Unicode.alphabetic, Unicode.nonspacingMark, Unicode.spacingMark,
    Unicode.enclosingMark, Unicode.decimalNumber, Unicode.connectorPunctuation,
    Unicode.joinControl].flatMap fun table => table.ranges.toList)

/-- The word characters as a table. -/
def wordTable : Unicode.RangeTable := wordChars.table

/-- The ASCII decimal digits. -/
def asciiDigits : CharSet := range 48 57

/-- ASCII white space. -/
def asciiBlanks : CharSet := ofRanges [(9, 13), (32, 32)]

/-- The ASCII letters and digits and the underscore. -/
def asciiWordChars : CharSet := ofRanges [(48, 57), (65, 90), (95, 95), (97, 122)]

/-- The set of a POSIX class name. -/
def ofPosixName? (name : String) : Option CharSet :=
  match name with
  | "alnum" => some (ofRanges [(48, 57), (65, 90), (97, 122)])
  | "alpha" => some (ofRanges [(65, 90), (97, 122)])
  | "ascii" => some (range 0 127)
  | "blank" => some (ofRanges [(9, 9), (32, 32)])
  | "cntrl" => some (ofRanges [(0, 31), (127, 127)])
  | "digit" => some asciiDigits
  | "graph" => some (range 33 126)
  | "lower" => some (range 97 122)
  | "print" => some (range 32 126)
  | "punct" => some (ofRanges [(33, 47), (58, 64), (91, 96), (123, 126)])
  | "space" => some asciiBlanks
  | "upper" => some (range 65 90)
  | "word" => some asciiWordChars
  | "xdigit" => some (ofRanges [(48, 57), (65, 70), (97, 102)])
  | _ => none

/-- A property name reduced to what matters in it: case, blanks, dashes, underscores and a leading
`is` do not. -/
def normalizeName (name : List Char) : String :=
  let lower := (name.filter fun c => c ≠ ' ' && c ≠ '_' && c ≠ '-' && c.toNat < 128).map Char.toLower
  match name.map Char.toLower, lower with
  | 'i' :: 's' :: _, 'i' :: 's' :: rest =>
    if rest = ['c'] then String.ofList lower else String.ofList rest
  | _, _ => String.ofList lower

/-- Whether one of two names is the one that is looked for. -/
def isNamed (wanted short long : String) : Bool :=
  normalizeName short.toList == wanted || normalizeName long.toList == wanted

/-- The set of a general category or of a group of them. -/
def ofCategory? (name : String) : Option CharSet :=
  let name := match name with
    | "digit" => "nd"
    | "cntrl" => "cc"
    | "punct" => "p"
    | "combiningmark" => "m"
    | name => name
  match name with
  | "any" => some (range 0 maxChar)
  | "ascii" => some (range 0 127)
  | "assigned" => some ((ofTable Unicode.unassigned).complement maxChar)
  | _ =>
    match Unicode.categories.find? fun (short, long, _) => isNamed name short long with
    | some (_, _, table) => some (ofTable table)
    | none =>
      match Unicode.categoryGroups.find? fun (short, long, _) => isNamed name short long with
      | none => none
      | some (_, _, members) =>
        some (ofRanges ((Unicode.categories.filter fun (short, _, _) =>
          members.contains short).flatMap fun (_, _, table) => table.ranges.toList))

/-- The set of a script. -/
def ofScript? (name : String) : Option CharSet :=
  (Unicode.scripts.find? fun (short, long, _) => isNamed name short long).map
    fun (_, _, table) => ofTable table

/-- The set of a binary property. -/
def ofBinary? (name : String) : Option CharSet :=
  if name = "sc" || name = "cf" || name = "lc" then none
  else (Unicode.properties.find? fun (short, long, _) => isNamed name short long).map
    fun (_, _, table) => ofTable table

/-- The set of a binary property, a general category or a script. -/
def ofProperty? (name : List Char) : Option CharSet :=
  let name := normalizeName name
  (ofBinary? name).or ((ofCategory? name).or (ofScript? name))

/-- The set of a value of a property. -/
def ofPropertyValue? (property value : List Char) : Option CharSet :=
  let value := normalizeName value
  match normalizeName property with
  | "gc" | "generalcategory" => ofCategory? value
  | "sc" | "script" | "scx" | "scriptextensions" => ofScript? value
  | _ => none

end CharSet

end RequestRouting
