import Mathlib.Data.List.Chain
import RequestRouting.Proofs.Text.Form
import RequestRouting.Proofs.Url.Written

/-!
# The language of pattern texts

A pattern text is literal characters and property paths between braces.  Exactly these texts
compile; the template has the whole text in it, cut at the placeholders; and where a text does not
compile, the fault is found at one of its braces.

## Main definitions

* `Template.IsName` — the names of property paths.
* `Template.Sentence` — the texts of the language.
* `Template.WellFormed` — how the text of a template is cut.
* `PatternFault.brace` — the brace at which a fault is found.

## Main results

* `Template.readPath_eq_ok` — what is read as a property path.
* `Template.sentence_of_scan`, `Template.exists_scan_of_sentence` — what is read to its end.
* `Template.wellFormed_of_scan` — how a text that is read to its end is cut.
* `Template.brace_of_scan` — where a text that is not read to its end is at fault.
* `Template.compile_language` — the three together.
-/

set_option autoImplicit false

namespace RequestRouting

namespace Template

/-! ## The language -/

/-- A property name has letters, digits, underscores and hyphens, and at least one of these. -/
def IsName (name : List Char) : Prop :=
  name ≠ [] ∧ ∀ c ∈ name, ('A' ≤ c ∧ c ≤ 'Z') ∨ ('a' ≤ c ∧ c ≤ 'z') ∨ ('0' ≤ c ∧ c ≤ '9') ∨
    c = '_' ∨ c = '-'

/-- A text of the language: characters other than braces, and property names between braces, joined
by points. -/
inductive Sentence : List Char → Prop where
  | nil : Sentence []
  | char {c : Char} {rest : List Char} (hopen : c ≠ '\x7b') (hclose : c ≠ '\x7d')
      (hrest : Sentence rest) : Sentence (c :: rest)
  | placeholder {names : List (List Char)} {rest : List Char} (hne : names ≠ [])
      (hnames : ∀ name ∈ names, IsName name) (hrest : Sentence rest) :
      Sentence ('\x7b' :: (['.'].intercalate names ++ '\x7d' :: rest))

/-! ## Property paths -/

/-- The characters of names. -/
lemma isNameChar_iff {c : Char} : isNameChar c = true ↔
    ('A' ≤ c ∧ c ≤ 'Z') ∨ ('a' ≤ c ∧ c ≤ 'z') ∨ ('0' ≤ c ∧ c ≤ '9') ∨ c = '_' ∨ c = '-' := by
  have hchars : isNameChar c = (decide ('A' ≤ c ∧ c ≤ 'Z') ||
      (decide ('a' ≤ c) && decide (c ≤ 'z')) || (decide ('0' ≤ c) && decide (c ≤ '9')) ||
      c == '_' || c == '-') := rfl
  simp only [hchars, Bool.or_eq_true, Bool.and_eq_true, decide_eq_true_eq, beq_iff_eq, or_assoc]

/-- No point is part of a name. -/
lemma IsName.point_notMem {name : List Char} (h : IsName name) : '.' ∉ name := by
  intro hmem
  have hchar := h.2 '.' hmem
  revert hchar
  decide

/-- What is read as a name. -/
lemma readName_eq_ok {text : List Char} {name : String} :
    readName text = .ok name ↔ IsName text ∧ String.ofList text = name := by
  have hchars : text.all isNameChar = true ↔ ∀ c ∈ text, ('A' ≤ c ∧ c ≤ 'Z') ∨
      ('a' ≤ c ∧ c ≤ 'z') ∨ ('0' ≤ c ∧ c ≤ '9') ∨ c = '_' ∨ c = '-' := by
    simp only [List.all_eq_true, isNameChar_iff]
  unfold readName IsName
  rw [← hchars]
  cases text with
  | nil => simp
  | cons c rest => cases List.all (c :: rest) isNameChar <;> simp

/-- What is read as names, one after another. -/
lemma mapM_readName_eq_ok {pieces : List (List Char)} {names : List String} :
    pieces.mapM readName = .ok names ↔
      (∀ piece ∈ pieces, IsName piece) ∧ pieces.map String.ofList = names := by
  induction pieces generalizing names with
  | nil => simp [pure, Except.pure]
  | cons piece pieces ih =>
    simp only [List.mapM_cons, bind_eq_ok, readName_eq_ok, ih, pure, Except.pure, Except.ok.injEq,
      List.forall_mem_cons, List.map_cons]
    constructor
    · rintro ⟨name, ⟨hpiece, rfl⟩, names, ⟨hpieces, rfl⟩, rfl⟩
      exact ⟨⟨hpiece, hpieces⟩, rfl⟩
    · rintro ⟨⟨hpiece, hpieces⟩, rfl⟩
      exact ⟨_, ⟨hpiece, rfl⟩, _, ⟨hpieces, rfl⟩, rfl⟩

/-- Names that are joined by points are some text. -/
lemma intercalate_ne_nil {names : List (List Char)} (hne : names ≠ [])
    (hnames : ∀ name ∈ names, IsName name) : ['.'].intercalate names ≠ [] := by
  obtain ⟨name, rest, rfl⟩ := List.exists_cons_of_ne_nil hne
  have hname : name ≠ [] := (hnames name List.mem_cons_self).1
  cases rest with
  | nil => rwa [List.intercalate_singleton]
  | cons next more =>
    rw [List.intercalate_cons_of_ne_nil (List.cons_ne_nil _ _), List.append_assoc]
    exact List.append_ne_nil_of_left_ne_nil hname _

/-- **What is read as a property path**: names that are joined by points. -/
theorem readPath_eq_ok {inner : List Char} {path : PropertyPath} :
    readPath inner = .ok path ↔ ∃ names, names ≠ [] ∧ (∀ name ∈ names, IsName name) ∧
      ['.'].intercalate names = inner ∧ ⟨names.map String.ofList⟩ = path := by
  constructor
  · intro h
    unfold readPath at h
    split at h
    · cases h
    · cases hread : (splitOnChar '.' inner).mapM readName with
      | error fault =>
        rw [hread] at h
        cases h
      | ok names =>
        rw [hread] at h
        obtain ⟨hnames, rfl⟩ := mapM_readName_eq_ok.1 hread
        cases h
        exact ⟨_, splitOnChar_ne_nil _ _, hnames, intercalate_splitOnChar '.' inner, rfl⟩
  · rintro ⟨names, hne, hnames, rfl, rfl⟩
    have hsplit : splitOnChar '.' (['.'].intercalate names) = names :=
      splitOnChar_intercalate hne fun name hname => (hnames name hname).point_notMem
    have hread : names.mapM readName = .ok (names.map String.ofList) :=
      mapM_readName_eq_ok.2 ⟨hnames, rfl⟩
    rw [readPath, if_neg (by simpa using intercalate_ne_nil hne hnames), hsplit, hread]
    rfl

/-! ## Texts that are read to their end -/

/-- **A text that is read to its end is a sentence**, together with the placeholder that has been
opened before it. -/
theorem sentence_of_scan {draft : Draft} {placeholder : Option (Nat × List Char)} {text : List Char}
    {template : Template} (h : scan draft placeholder text = .ok template) :
    Sentence (openSource placeholder ++ text) := by
  fun_induction scan draft placeholder text with
  | case1 => exact .nil
  | case3 draft rest ih => exact ih h
  | case5 draft c rest hopen hclose ih => exact .char hopen hclose (ih h)
  | case6 draft start inner rest path hpath ih =>
    obtain ⟨names, hne, hnames, hinner, -⟩ := readPath_eq_ok.1 hpath
    have hsentence := Sentence.placeholder hne hnames (ih h)
    rwa [hinner] at hsentence
  | case9 draft start inner c rest _ _ ih => simpa [openSource] using ih h
  | case2 | case4 | case7 | case8 => cases h

/-- **A sentence is read to its end.** -/
theorem exists_scan_of_sentence {text : List Char} (h : Sentence text) (draft : Draft) :
    ∃ template, scan draft none text = .ok template := by
  induction h generalizing draft with
  | nil => exact ⟨draft.finish, rfl⟩
  | char hopen hclose _ ih =>
    obtain ⟨template, hscan⟩ := ih (draft.addChar _)
    exact ⟨template, by rw [scan, if_neg hopen, if_neg hclose, hscan]⟩
  | @placeholder names rest hne hnames _ ih =>
    have htext : (PropertyPath.mk (names.map String.ofList)).text.toList =
        ['.'].intercalate names := by
      rw [PropertyPath.text, String.toList_intercalate, List.map_map]
      simp [Function.comp_def]
    have hspelled : (PropertyPath.mk (names.map String.ofList)).Spelled :=
      readPath_eq_ok.2 ⟨names, hne, hnames, htext.symm, rfl⟩
    obtain ⟨position, hopen⟩ := exists_scan_placeholder hspelled draft rest
    obtain ⟨template, hscan⟩ := ih ({ draft with position := position }.addPlaceholder _)
    refine ⟨template, ?_⟩
    rw [← hscan, ← hopen, Piece.source, htext]
    simp

/-! ## How a text is cut -/

/-- Segments of which every literal one has some text and ends at a slot, or at the end of the
pattern. -/
structure Neat (segments : List Segment) : Prop where
  literal_ne : ∀ text, Segment.literal text ∈ segments → text ≠ ""
  apart : segments.IsChain fun segment next => segment.slot?.isSome ∨ next.slot?.isSome

/-- The text of a template is cut at its placeholders and nowhere else.  The slots of the segments
are the indices of the placeholders, in order, and the placeholders are numbered from one on. -/
structure WellFormed (template : Template) : Prop where
  neat : Neat template.segments
  slots : slots template.segments = List.range template.placeholders.length
  numbers : template.placeholders.map Placeholder.slot =
    List.range' 1 template.placeholders.length

/-- It makes no difference in which direction segments are read. -/
lemma Neat.reverse {segments : List Segment} (h : Neat segments) : Neat segments.reverse := by
  refine ⟨fun text hmem => h.literal_ne text (List.mem_reverse.1 hmem), List.isChain_reverse.2 ?_⟩
  exact h.apart.imp fun _ _ => Or.symm

namespace Draft

/-- The finished segments of a draft are neat and end with a slot, so that more literal text does
not meet other literal text; and the placeholders are numbered from one on. -/
structure Tidy (draft : Draft) : Prop where
  neat : Neat draft.segments
  last : ∀ segment ∈ draft.segments.head?, segment.slot?.isSome
  numbers : draft.placeholders.reverse.map Placeholder.slot =
    List.range' 1 draft.placeholders.length

/-- The draft before the first character is tidy. -/
lemma Tidy.start : Draft.start.Tidy :=
  ⟨⟨by simp [Draft.start], .nil⟩, by simp [Draft.start], rfl⟩

/-- Making a segment of literal text keeps the segments neat. -/
lemma Tidy.neat_closeLiteral {draft : Draft} (h : draft.Tidy) :
    Neat draft.closeLiteral.segments := by
  unfold Draft.closeLiteral
  split
  · exact h.neat
  · next hliteral =>
    refine ⟨fun text hmem => ?_, List.isChain_cons.2 ⟨fun segment hsegment => ?_, h.neat.apart⟩⟩
    · rcases List.mem_cons.1 hmem with htext | hmem
      · obtain rfl := Segment.literal.inj htext
        simpa using hliteral
      · exact h.neat.literal_ne text hmem
    · exact .inr (h.last segment hsegment)

/-- Moving past a character changes no segment. -/
lemma Tidy.advance {draft : Draft} (h : draft.Tidy) (c : Char) : (draft.advance c).Tidy :=
  ⟨h.neat, h.last, h.numbers⟩

/-- A literal character changes no finished segment. -/
lemma Tidy.addChar {draft : Draft} (h : draft.Tidy) (c : Char) : (draft.addChar c).Tidy :=
  ⟨h.neat, h.last, h.numbers⟩

/-- A placeholder keeps a draft tidy: its slot comes last, and it gets the next number. -/
lemma Tidy.addPlaceholder {draft : Draft} (h : draft.Tidy) (path : PropertyPath) :
    (draft.addPlaceholder path).Tidy := by
  have hneat := h.neat_closeLiteral
  refine ⟨⟨fun text hmem => ?_, List.isChain_cons.2 ⟨fun _ _ => .inl rfl, hneat.apart⟩⟩, ?_, ?_⟩
  · rcases List.mem_cons.1 hmem with htext | hmem
    · cases htext
    · exact hneat.literal_ne text hmem
  · rintro segment ⟨⟩
    rfl
  · simp only [Draft.addPlaceholder, placeholders_closeLiteral, List.reverse_cons, List.map_append,
      h.numbers, List.length_cons, List.range'_concat]
    simp [Nat.add_comm]

end Draft

/-- **A text that is read to its end is cut at its placeholders and nowhere else.** -/
theorem wellFormed_of_scan {draft : Draft} {placeholder : Option (Nat × List Char)}
    {text : List Char} {template : Template} (horder : draft.InOrder) (htidy : draft.Tidy)
    (h : scan draft placeholder text = .ok template) : template.WellFormed := by
  fun_induction scan draft placeholder text with
  | case1 draft =>
    cases h
    refine ⟨htidy.neat_closeLiteral.reverse, horder.finish, ?_⟩
    simpa [Draft.finish, Draft.placeholders_closeLiteral] using htidy.numbers
  | case3 draft rest ih => exact ih (horder.advance _) (htidy.advance _) h
  | case5 draft c rest _ _ ih => exact ih (horder.addChar c) (htidy.addChar c) h
  | case6 draft start inner rest path _ ih =>
    exact ih ((horder.advance _).addPlaceholder path) ((htidy.advance _).addPlaceholder path) h
  | case9 draft start inner c rest _ _ ih => exact ih (horder.advance c) (htidy.advance c) h
  | case2 | case4 | case7 | case8 => cases h

end Template

/-! ## Faults -/

/-- The brace at which a fault is found: the closing one without an opening one, or else the opening
one of the placeholder, or one inside of it. -/
def PatternFault.brace : PatternFault → Char
  | .unbalanced => '\x7d'
  | _ => '\x7b'

namespace Template

/-- What is wrong between two braces is found at the opening one. -/
lemma brace_of_readPath {inner : List Char} {fault : PatternFault}
    (h : readPath inner = .error fault) : fault.brace = '\x7b' := by
  unfold readPath at h
  split at h
  · cases h
    rfl
  · cases hread : (splitOnChar '.' inner).mapM readName with
    | ok names =>
      rw [hread] at h
      cases h
    | error fault =>
      rw [hread] at h
      cases h
      obtain ⟨piece, -, hpiece⟩ := exists_mem_of_mapM_eq_error hread
      unfold readName at hpiece
      split at hpiece
      · cases hpiece
        rfl
      · split at hpiece
        · cases hpiece
        · cases hpiece
          rfl

/-- The number of octets of a text with one more character. -/
lemma utf8ByteSize_concat (text : List Char) (c : Char) :
    (String.ofList (text ++ [c])).utf8ByteSize =
      (String.ofList text).utf8ByteSize + c.utf8Size := by
  rw [String.ofList_append, String.utf8ByteSize_append, ← String.singleton_eq_ofList,
    String.utf8ByteSize_singleton]

/-- A draft has got as far as the end of `seen`, and the placeholder that is open, if there is one,
has been opened at its own position. -/
structure Draft.Behind (seen : List Char) (draft : Draft) (placeholder : Option (Nat × List Char)) :
    Prop where
  position : draft.position = (String.ofList seen).utf8ByteSize
  opened : ∀ start inner, placeholder = some (start, inner) → ∃ before after,
    seen = before ++ '\x7b' :: after ∧ start = (String.ofList before).utf8ByteSize

namespace Draft.Behind

variable {seen : List Char} {draft : Draft} {placeholder : Option (Nat × List Char)}

/-- Outside of placeholders only the position counts. -/
lemma of_position (h : draft.position = (String.ofList seen).utf8ByteSize) :
    Behind seen draft none :=
  ⟨h, fun _ _ hnone => by cases hnone⟩

/-- Behind one more character. -/
lemma position_advance (h : Behind seen draft placeholder) (c : Char) :
    (draft.advance c).position = (String.ofList (seen ++ [c])).utf8ByteSize := by
  rw [utf8ByteSize_concat, ← h.position]
  rfl

/-- A new placeholder does not move the position. -/
lemma position_addPlaceholder (draft : Draft) (path : PropertyPath) :
    (draft.addPlaceholder path).position = draft.position := by
  unfold Draft.addPlaceholder Draft.closeLiteral
  split <;> rfl

end Draft.Behind

/-- **Where a text is not read to its end, the fault is found at one of its braces.** -/
theorem brace_of_scan {seen : List Char} {draft : Draft} {placeholder : Option (Nat × List Char)}
    {text : List Char} {position : Nat} {fault : PatternFault}
    (hbehind : Draft.Behind seen draft placeholder)
    (h : scan draft placeholder text = .error (position, fault)) :
    ∃ before after, seen ++ text = before ++ fault.brace :: after ∧
      position = (String.ofList before).utf8ByteSize := by
  fun_induction scan draft placeholder text generalizing seen with
  | case1 => cases h
  | case2 draft start inner =>
    cases h
    rw [List.append_nil]
    exact hbehind.opened _ _ rfl
  | case3 draft rest ih =>
    rw [List.append_cons]
    refine ih ⟨hbehind.position_advance _, ?_⟩ h
    rintro start inner ⟨⟩
    exact ⟨seen, [], rfl, hbehind.position⟩
  | case4 draft rest _ =>
    cases h
    exact ⟨seen, rest, rfl, hbehind.position⟩
  | case5 draft c rest _ _ ih =>
    rw [List.append_cons]
    exact ih (.of_position (hbehind.position_advance c)) h
  | case6 draft start inner rest path _ ih =>
    rw [List.append_cons]
    refine ih (.of_position ?_) h
    rw [Draft.Behind.position_addPlaceholder]
    exact hbehind.position_advance _
  | case7 draft start inner rest fault' hpath =>
    cases h
    obtain ⟨before, after, hseen, hstart⟩ := hbehind.opened _ _ rfl
    refine ⟨before, after ++ '\x7d' :: rest, ?_, hstart⟩
    rw [brace_of_readPath hpath, hseen, List.append_assoc, List.cons_append]
  | case8 draft start inner rest _ =>
    cases h
    exact ⟨seen, rest, rfl, hbehind.position⟩
  | case9 draft start inner c rest _ _ ih =>
    rw [List.append_cons]
    refine ih ⟨hbehind.position_advance c, ?_⟩ h
    rintro start' inner' ⟨⟩
    obtain ⟨before, after, hseen, hstart⟩ := hbehind.opened _ _ rfl
    exact ⟨before, after ++ [c], by simp [hseen], hstart⟩

/-- **Exactly the sentences of the language compile, and nothing of them is lost.**  Let the matcher
of a text not be too large.  The text compiles if and only if it is a sentence.  The segments of the
template are the whole text again, with every slot as its property path between braces.  The
text is cut at the placeholders and nowhere else, into literal text that is not empty and slots that
are the indices of the placeholders, in order.  A text that does not compile is at fault at one of
its braces, and the error has the byte position of that brace.

**Proof sketch.** Induction on the text, as it is scanned.  The draft has all that has been read,
its slots in order and its finished segments neat, and it counts the octets up to the next
character. -/
theorem compile_language (pattern : String) (hsize : compile pattern ≠ .error .matcherTooLarge) :
    ((∃ template, compile pattern = .ok template) ↔ Sentence pattern.toList) ∧
    (∀ template, compile pattern = .ok template →
      template.source = pattern ∧ template.WellFormed) ∧
    ∀ e, compile pattern = .error e → ∃ before fault after,
      pattern = before ++ String.singleton fault.brace ++ after ∧
      e = .invalidPattern pattern before.utf8ByteSize fault := by
  refine ⟨⟨?_, fun hsentence => ?_⟩, fun template hcompile => ?_, fun e hcompile => ?_⟩
  · rintro ⟨template, hcompile⟩
    exact sentence_of_scan (scan_of_compile hcompile)
  · obtain ⟨template, hscan⟩ := exists_scan_of_sentence hsentence .start
    have hsmall : ¬ maxMatcherSize < template.matcherSize := fun hlarge =>
      hsize (compile_eq_error.2 (.inr ⟨template, hscan, hlarge, rfl⟩))
    exact ⟨template, compile_eq_ok.2 ⟨hscan, Nat.le_of_not_lt hsmall⟩⟩
  · have hscan := scan_of_compile hcompile
    exact ⟨source_of_compile hcompile, wellFormed_of_scan .start .start hscan⟩
  · obtain ⟨position, fault, hscan, rfl⟩ | ⟨template, -, -, rfl⟩ := compile_eq_error.1 hcompile
    swap
    · exact absurd hcompile hsize
    have hbehind : Draft.Behind [] .start none := .of_position rfl
    obtain ⟨before, after, htext, rfl⟩ := brace_of_scan hbehind hscan
    refine ⟨String.ofList before, fault, String.ofList after, ?_, rfl⟩
    rw [← String.toList_inj, ← List.nil_append pattern.toList, htext]
    simp

/-- A property path with two points in a row is no sentence.  The position of the fault is counted
in octets, of which the letter in front of the brace has two. -/
theorem compile_language_emptyName :
    compile "/é/\x7ba..b\x7d" = .error (.invalidPattern "/é/\x7ba..b\x7d" 4 .emptyName) ∧
    compile "/é/\x7ba..b\x7d" ≠ .error .matcherTooLarge ∧
    ¬ Sentence "/é/\x7ba..b\x7d".toList ∧
    ∃ before fault after, "/é/\x7ba..b\x7d" = before ++ String.singleton fault.brace ++ after ∧
      UrlError.invalidPattern "/é/\x7ba..b\x7d" 4 .emptyName =
        .invalidPattern "/é/\x7ba..b\x7d" before.utf8ByteSize fault := by
  have herror :
      compile "/é/\x7ba..b\x7d" = .error (.invalidPattern "/é/\x7ba..b\x7d" 4 .emptyName) := by
    rfl
  have hsize : compile "/é/\x7ba..b\x7d" ≠ .error .matcherTooLarge := by
    rw [herror]
    nofun
  obtain ⟨hsentence, -, hfault⟩ := compile_language "/é/\x7ba..b\x7d" hsize
  refine ⟨herror, hsize, fun h => ?_, hfault _ herror⟩
  obtain ⟨template, hcompile⟩ := hsentence.2 h
  rw [herror] at hcompile
  cases hcompile

end Template

end RequestRouting
