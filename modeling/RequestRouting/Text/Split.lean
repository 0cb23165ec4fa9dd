/-!
# Splitting texts

Splitting on a delimiter of any length, and removing a delimiter from the ends of a text.  Matches
of the delimiter are taken from left to right and do not overlap.

## Main definitions

* `stripStart?`, `stripEnd?` — the rest of a text after, and before, a given piece.
* `splitOnText` — the chunks between the matches of a delimiter.
* `splitOnChar`, `splitFirst?` — the same for a single character, everywhere or once.
* `trimText` — a text without the copies of a delimiter at its ends.
-/

set_option autoImplicit false

namespace RequestRouting

/-- What is left of a text that begins with `piece`. -/
def stripStart? : List Char → List Char → Option (List Char)
  | [], text => some text
  | _ :: _, [] => none
  | p :: piece, c :: text => if p = c then stripStart? piece text else none

/-- What is left of a text that ends with `piece`. -/
def stripEnd? (piece text : List Char) : Option (List Char) :=
  (stripStart? piece.reverse text.reverse).map List.reverse

/-- What is left after a piece is shorter by the piece. -/
theorem length_of_stripStart? {piece text rest : List Char}
    (h : stripStart? piece text = some rest) : rest.length + piece.length = text.length := by
  induction piece generalizing text with
  | nil => simp_all [stripStart?]
  | cons p piece ih =>
    cases text with
    | nil => simp [stripStart?] at h
    | cons c text =>
      simp only [stripStart?] at h
      split at h
      · have := ih h
        simp only [List.length_cons]
        omega
      · cases h

/-- The chunks between the matches of a delimiter that is not empty.  The second argument is the
chunk so far, in reverse. -/
def splitFrom (delimiter : List Char) (chunk : List Char) (text : List Char) : List (List Char) :=
  match text with
  | [] => [chunk.reverse]
  | c :: rest =>
    match _h : stripStart? delimiter (c :: rest) with
    | some after =>
      if delimiter.isEmpty then [chunk.reverse ++ c :: rest]
      else chunk.reverse :: splitFrom delimiter [] after
    | none => splitFrom delimiter (c :: chunk) rest
  termination_by text.length
  decreasing_by
  · have hlen := length_of_stripStart? _h
    have : delimiter.length ≠ 0 := by
      intro h0
      simp_all
    simp only [List.length_cons] at hlen ⊢
    omega
  · simp

/-- The chunks between the matches of a delimiter.  An empty delimiter matches around every
character. -/
def splitOnText (delimiter text : List Char) : List (List Char) :=
  if delimiter.isEmpty then [] :: (text.map fun c => [c]) ++ [[]]
  else splitFrom delimiter [] text

/-- Removes copies of a piece from the front for as long as there is one; an empty piece leaves the
text as it is. -/
def trimStartText (piece text : List Char) : List Char :=
  match _h : stripStart? piece text with
  | none => text
  | some rest => if piece.isEmpty then text else trimStartText piece rest
  termination_by text.length
  decreasing_by
    have hlen := length_of_stripStart? _h
    have : piece.length ≠ 0 := by
      intro h0
      simp_all
    omega

/-- Removes copies of a piece from the end for as long as there is one. -/
def trimEndText (piece text : List Char) : List Char :=
  (trimStartText piece.reverse text.reverse).reverse

/-- Removes the copies of a piece at the front, then those at the end. -/
def trimText (piece text : List Char) : List Char := trimEndText piece (trimStartText piece text)

/-- The pieces of a text between the matches of a character. -/
def splitOnChar (mark : Char) : List Char → List (List Char)
  | [] => [[]]
  | c :: rest =>
    if c = mark then [] :: splitOnChar mark rest
    else match splitOnChar mark rest with
      | [] => [[c]]
      | first :: more => (c :: first) :: more

/-- Splits a text at the first match of a character. -/
def splitFirst? (mark : Char) : List Char → Option (List Char × List Char)
  | [] => none
  | c :: rest =>
    if c = mark then some ([], rest)
    else (splitFirst? mark rest).map fun (before, after) => (c :: before, after)

end RequestRouting
