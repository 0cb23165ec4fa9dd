import RequestRouting.Proofs.Toml.Strings
import RequestRouting.Toml.Reader

/-!
# Statements of TOML text

The lines that the printer writes are read as the statements that they are meant to be: values are
assigned to keys, and headers open tables.

## Main definitions

* `Toml.ReadsAs` — tokens that spell a value at the end of a line.
* `Toml.States` — a text of whole lines makes statements.

## Main results

* `Toml.states_writeLine` — a line assigns a value to its key.
* `Toml.states_writeHeader` — a header opens a table.
* `Toml.States.parse?_eq` — the document of a text is built from its statements.
-/

set_option autoImplicit false

namespace RequestRouting

namespace Toml

variable {text rest : List Char} {tokens later : List Token} {node : Node}
  {statements more : List Statement}

/-! ## Values -/

/-- Tokens spell a value at the end of a line. -/
def ReadsAs (tokens : List Token) (node : Node) : Prop :=
  ∀ rest fuel, tokens.length ≤ fuel →
    readValue? fuel (skipBlanks (tokens ++ .newline :: rest)) = some (node, .newline :: rest)

/-- A value is written as a text without blanks in front, which is finished by the end of its
line. -/
structure Writes (value : String) (node : Node) : Prop where
  exists_tokens : ∃ tokens, SpellsBefore '\n' value.toList tokens ∧ ReadsAs tokens node
  exists_first : ∃ first, value.toList.head? = some first ∧ isBlankChar first = false

/-- A string is read whatever follows. -/
lemma readValue?_valueToken (text : String) (rest : List Token) {fuel : Nat} (h : 1 ≤ fuel) :
    readValue? fuel (valueToken text :: rest) = some (.text text, rest) := by
  obtain ⟨fuel, rfl⟩ := Nat.exists_eq_add_of_le' h
  rw [valueToken, readValue?]

/-- A written text begins with a quote. -/
lemma exists_first_writeText (text : String) :
    ∃ first, (writeText text).toList.head? = some first ∧ isBlankChar first = false := by
  unfold writeText
  rw [String.toList_ofList]
  cases formOf text.toList <;> exact ⟨_, rfl, by decide⟩

/-- A text is written as a value. -/
lemma writes_writeText (text : String) : Writes (writeText text) (.text text) where
  exists_tokens := ⟨_, spellsBefore_writeText text (by decide) (by decide),
    fun rest _ hfuel => readValue?_valueToken text (.newline :: rest) hfuel⟩
  exists_first := exists_first_writeText text

/-- Characters of keys end no words. -/
lemma endsWord_of_isKeyChar {c : Char} (h : isKeyChar c = true) : endsWord c = false := by
  have hne (d : Char) (hd : isKeyChar d = false) : c ≠ d := by
    rintro rfl
    exact absurd h (Bool.eq_false_iff.1 hd)
  simp [endsWord, isBlankChar, punctuation?, hne ' ' rfl, hne '\t' rfl, hne '\n' rfl, hne '\r' rfl,
    hne '#' rfl, hne '"' rfl, hne '\'' rfl, hne '.' rfl, hne '=' rfl, hne ',' rfl, hne '[' rfl,
    hne ']' rfl, hne '\x7b' rfl, hne '\x7d' rfl]

/-- A word of such characters in front of a character that ends it. -/
lemma spellsBefore_key {d : Char} (hne : text ≠ [])
    (h : text.all isKeyChar = true) (hend : endsWord d = true) :
    SpellsBefore d text [.word text] :=
  spellsBefore_word hne (fun c hc => endsWord_of_isKeyChar (List.all_eq_true.1 h c hc)) hend

/-- A truth value is written as a value. -/
lemma writes_writeBool (value : Bool) : Writes (writeBool value) (.bool value) where
  exists_tokens := by
    refine ⟨[.word (writeBool value).toList], ?_, ?_⟩
    · cases value <;> exact spellsBefore_key (by decide) (by decide) (by decide)
    · intro rest fuel hfuel
      obtain ⟨fuel, rfl⟩ := Nat.exists_eq_add_of_le' hfuel
      cases value <;> rfl
  exists_first := by cases value <;> exact ⟨_, rfl, by decide⟩

/-! ## Lists of texts -/

/-- The tokens of a text that stands on a line of its own. -/
def itemTokens (text : String) : List Token :=
  [.blank [' ', ' ', ' ', ' '], valueToken text, .comma, .newline]

/-- The tokens of a list of texts. -/
def textsTokens : List String → List Token
  | [] => [.openBracket, .closeBracket]
  | [text] => [.openBracket, valueToken text, .closeBracket]
  | texts => [.openBracket, .newline] ++ texts.flatMap itemTokens ++ [.closeBracket]

/-- There are four tokens on each line. -/
lemma length_flatMap_itemTokens (texts : List String) :
    (texts.flatMap itemTokens).length = texts.length * 4 := by
  induction texts with
  | nil => rfl
  | cons text texts ih =>
    rw [List.flatMap_cons, List.length_append, ih, List.length_cons, Nat.succ_mul, Nat.add_comm]
    rfl

/-- Texts that stand on lines of their own are read one after another. -/
lemma readItems?_itemTokens (texts : List String) (rest : List Token) {fuel : Nat}
    (h : texts.length < fuel) :
    readItems? fuel (skipLines (texts.flatMap itemTokens ++ .closeBracket :: rest)) =
      some (texts.map .text, rest) := by
  induction texts generalizing fuel with
  | nil =>
    obtain ⟨fuel, rfl⟩ := Nat.exists_eq_add_of_le' h
    rfl
  | cons text texts ih =>
    obtain ⟨fuel, rfl⟩ := Nat.exists_eq_add_of_le' (Nat.one_le_of_lt h)
    have hlt : texts.length < fuel := by simpa using h
    have hitem := readValue?_valueToken text
      (.comma :: .newline :: (texts.flatMap itemTokens ++ .closeBracket :: rest))
      (Nat.one_le_of_lt hlt)
    have hskip : skipLines ((text :: texts).flatMap itemTokens ++ .closeBracket :: rest) =
        valueToken text :: .comma :: .newline ::
          (texts.flatMap itemTokens ++ .closeBracket :: rest) := rfl
    rw [hskip, readItems?]
    · rw [hitem]
      simp only [bind, Option.bind, skipLines, ih hlt, List.map_cons]
    · rintro _ ⟨⟩

/-- A list of texts is read. -/
lemma readsAs_textsTokens (texts : List String) :
    ReadsAs (textsTokens texts) (.array (texts.map .text)) := by
  intro rest fuel hfuel
  have hitems (fuel : Nat) (tokens : List Token)
      (h : readItems? fuel (skipLines tokens) = some (texts.map .text, .newline :: rest)) :
      readValue? (fuel + 1) (.openBracket :: tokens) =
        some (.array (texts.map .text), .newline :: rest) := by
    rw [readValue?, h]
    rfl
  match texts with
  | [] =>
    obtain ⟨fuel, rfl⟩ := Nat.exists_eq_add_of_le' hfuel
    exact hitems (fuel + 1) _ rfl
  | [text] =>
    obtain ⟨fuel, rfl⟩ := Nat.exists_eq_add_of_le' hfuel
    exact hitems (fuel + 2) _ rfl
  | first :: second :: texts =>
    have htokens : textsTokens (first :: second :: texts) = [.openBracket, .newline] ++
        (first :: second :: texts).flatMap itemTokens ++ [.closeBracket] := rfl
    rw [htokens] at hfuel ⊢
    rw [List.length_append, List.length_append, length_flatMap_itemTokens] at hfuel
    obtain ⟨fuel, rfl⟩ := Nat.exists_eq_add_of_le' (Nat.le_trans (Nat.le_add_left ..) hfuel)
    have hlength : (first :: second :: texts).length < fuel := by
      simp only [List.length_cons, List.length_nil] at hfuel ⊢
      omega
    have hread := readItems?_itemTokens (first :: second :: texts) (.newline :: rest) hlength
    rw [List.append_assoc, List.append_assoc]
    exact hitems fuel _ hread

/-- A text on a line of its own spells its tokens. -/
lemma spells_item (text : String) :
    Spells ("    " ++ writeText text ++ ",\n").toList (itemTokens text) := by
  obtain ⟨first, hhead, hblank⟩ := exists_first_writeText text
  obtain ⟨more, hfirst⟩ := List.head?_eq_some_iff.1 hhead
  have hcomma : Spells [',', '\n'] [.comma, .newline] :=
    (spells_char (c := ',') rfl).append (spells_char (c := '\n') rfl)
  have hvalue := (spellsBefore_writeText text (c := ',') (by decide) (by decide)).closed hcomma
  have hspaces := spellsBefore_spaces 3 hblank
  rw [hfirst, List.cons_append] at hvalue
  have hline := hspaces.closed hvalue
  simpa [String.toList_append, hfirst, itemTokens] using hline

/-- Texts on lines of their own spell their tokens. -/
lemma spells_items (texts : List String) :
    Spells (String.join (texts.map fun text => "    " ++ writeText text ++ ",\n")).toList
      (texts.flatMap itemTokens) := by
  induction texts with
  | nil => exact .nil
  | cons text texts ih =>
    rw [List.map_cons, String.join_cons, String.toList_append, List.flatMap_cons]
    exact (spells_item text).append ih

/-- A list of texts spells its tokens. -/
lemma spells_writeTexts (texts : List String) :
    Spells (writeTexts texts).toList (textsTokens texts) := by
  have hopen : Spells ['['] [.openBracket] := spells_char rfl
  have hclose : Spells [']'] [.closeBracket] := spells_char rfl
  match texts with
  | [] => exact hopen.append hclose
  | [text] =>
    have hvalue := (spellsBefore_writeText text (c := ']') (by decide) (by decide)).closed hclose
    have hall := hopen.append hvalue
    simpa [writeTexts, textsTokens, String.toList_append] using hall
  | first :: second :: texts =>
    have hstart := hopen.append (spells_char (c := '\n') rfl)
    have hall := (hstart.append (spells_items (first :: second :: texts))).append hclose
    rw [writeTexts, String.toList_append, String.toList_append]
    · exact hall
    · rintro ⟨⟩
    · rintro text ⟨⟩

/-- A list of texts is written as a value. -/
lemma writes_writeTexts (texts : List String) :
    Writes (writeTexts texts) (.array (texts.map .text)) where
  exists_tokens := ⟨_, (spells_writeTexts texts).before '\n', readsAs_textsTokens texts⟩
  exists_first := by
    refine ⟨'[', ?_, rfl⟩
    match texts with
    | [] => rfl
    | [text] => simp [writeTexts]
    | first :: second :: texts => simp [writeTexts]

/-! ## Keys -/

/-- A key that is written as a word. -/
structure BareKey (key : String) : Prop where
  ne_nil : key.toList ≠ []
  chars : key.toList.all isKeyChar = true

instance (key : String) : Decidable (BareKey key) :=
  decidable_of_iff (key.toList ≠ [] ∧ key.toList.all isKeyChar = true)
    ⟨fun h => ⟨h.1, h.2⟩, fun h => ⟨h.ne_nil, h.chars⟩⟩

/-- A key is read up to what follows it, which is no point. -/
lemma readKey?_word {key : String} (hkey : BareKey key) (fuel : Nat) {rest : List Token}
    {next : Token} (hrest : skipBlanks rest = next :: later) (hdot : next ≠ .dot) :
    readKey? (fuel + 1) (.word key.toList :: rest) = some ([], key, next :: later) := by
  have hpart : readKeyPart? (skipBlanks (.word key.toList :: rest)) = some (key, rest) := by
    simp only [skipBlanks, readKeyPart?, hkey.chars, if_true, String.ofList_toList]
  rw [readKey?, hpart]
  simp only [bind, Option.bind, hrest]
  cases next <;> first | rfl | exact absurd rfl hdot

/-! ## Inline tables -/

section Inline

variable {key : String} {fuel : Nat} {left : List Token} {assignments : List Assignment}

/-- The last field of an inline table. -/
lemma readPairs?_last (hkey : BareKey key) (hskip : skipBlanks tokens = tokens)
    (h : readValue? (fuel + 1) tokens = some (node, .closeBrace :: left)) :
    readPairs? (fuel + 2) (.word key.toList :: .equals :: tokens) =
      some ([⟨[], key, node⟩], left) := by
  rw [readPairs?, readKey?_word hkey _ rfl (by decide)]
  simp only [bind, Option.bind, hskip, h, skipBlanks]

/-- A field of an inline table in front of others. -/
lemma readPairs?_cons (hkey : BareKey key) (hskip : skipBlanks tokens = tokens)
    (h : readValue? (fuel + 1) tokens = some (node, .comma :: later))
    (hmore : readPairs? (fuel + 1) later = some (assignments, left)) :
    readPairs? (fuel + 2) (.word key.toList :: .equals :: tokens) =
      some (⟨[], key, node⟩ :: assignments, left) := by
  rw [readPairs?, readKey?_word hkey _ rfl (by decide)]
  simp only [bind, Option.bind, hskip, h, skipBlanks, hmore]

/-- An inline table is read field by field. -/
lemma readValue?_table {chars : List Char}
    (h : readPairs? fuel (.word chars :: tokens) = some (assignments, left))
    (htable : inlineTable? assignments = some node) :
    readValue? (fuel + 1) (.openBrace :: .word chars :: tokens) = some (node, left) := by
  have hstep : readValue? (fuel + 1) (.openBrace :: .word chars :: tokens) =
      (readPairs? fuel (.word chars :: tokens)).bind fun found =>
        (inlineTable? found.1).bind fun node => some (node, found.2) := rfl
  rw [hstep, h, Option.bind_some, htable]
  rfl

/-- An array of one inline table. -/
lemma readValue?_tables
    (h : readValue? (fuel + 1) (.openBrace :: tokens) = some (node, .closeBracket :: left)) :
    readValue? (fuel + 3) (.openBracket :: .openBrace :: tokens) = some (.array [node], left) := by
  have hitems : readItems? (fuel + 2) (.openBrace :: tokens) = some ([node], left) := by
    rw [readItems?]
    · simp only [bind, Option.bind, h, skipLines]
    · rintro _ ⟨⟩
  have hstep : readValue? (fuel + 3) (.openBracket :: .openBrace :: tokens) =
      (readItems? (fuel + 2) (.openBrace :: tokens)).bind fun found =>
        some (.array found.1, found.2) := rfl
  rw [hstep, hitems]
  rfl

end Inline

/-! ## Lines -/

/-- Tokens make statements, whatever is stated behind them. -/
def Says (tokens : List Token) (statements : List Statement) : Prop :=
  ∀ rest more, (∀ fuel, rest.length ≤ fuel → readLines? fuel rest = some more) →
    ∀ fuel, (tokens ++ rest).length ≤ fuel →
      readLines? fuel (tokens ++ rest) = some (statements ++ more)

/-- Statements are made one after another. -/
lemma Says.append (h : Says tokens statements) (hmore : Says later more) :
    Says (tokens ++ later) (statements ++ more) := by
  intro rest last hrest fuel hfuel
  rw [List.append_assoc] at hfuel ⊢
  rw [List.append_assoc]
  exact h _ _ (hmore rest last hrest) fuel hfuel

/-- A text of whole lines makes statements. -/
def States (text : String) (statements : List Statement) : Prop :=
  ∃ tokens, Spells text.toList tokens ∧ Says tokens statements

/-- An empty text makes no statements. -/
lemma States.empty : States "" [] := ⟨[], .nil, fun _ _ hrest fuel hfuel => hrest fuel hfuel⟩

/-- Texts make their statements one after another. -/
lemma States.append {first second : String} (h : States first statements)
    (hmore : States second more) : States (first ++ second) (statements ++ more) := by
  obtain ⟨tokens, hspells, hsays⟩ := h
  obtain ⟨later, hlater, hsaysLater⟩ := hmore
  exact ⟨tokens ++ later, String.toList_append ▸ hspells.append hlater, hsays.append hsaysLater⟩

/-- An empty line makes no statements. -/
lemma states_newline : States "\n" [] := by
  refine ⟨[.newline], spells_char (c := '\n') rfl, fun rest more hrest fuel hfuel => ?_⟩
  have hskip : readLines? fuel ([.newline] ++ rest) = readLines? fuel rest := by
    rw [readLines?.eq_def fuel rest, readLines?.eq_def]
    rfl
  rw [hskip]
  exact hrest fuel (Nat.le_trans (Nat.le_succ _) hfuel)

/-- The tokens of a line. -/
def lineTokens (key : String) (tokens : List Token) : List Token :=
  [.word key.toList, .blank [' '], .equals, .blank [' ']] ++ tokens ++ [.newline]

/-- A line is read as an assignment. -/
lemma readAssignment?_line {key : String} (hkey : BareKey key) (hreads : ReadsAs tokens node)
    (rest : List Token) :
    readAssignment? (lineTokens key tokens ++ rest) = some (.assign ⟨[], key, node⟩, rest) := by
  have hline : lineTokens key tokens ++ rest = .word key.toList :: .blank [' '] :: .equals ::
      .blank [' '] :: (tokens ++ .newline :: rest) := by
    simp [lineTokens]
  have hvalue := hreads rest (.blank [' '] :: (tokens ++ .newline :: rest)).length (by simp; omega)
  rw [hline, readAssignment?, List.length_cons, readKey?_word hkey _ rfl (by decide)]
  simp only [bind, Option.bind, skipBlanks, hvalue, endLine?]

/-- Behind an assignment the next statement is read. -/
lemma readLines?_word (chars : List Char) {statement : Statement} {fuel : Nat} {rest : List Token}
    (h : readAssignment? (.word chars :: tokens) = some (statement, rest))
    (hrest : readLines? fuel rest = some more) :
    readLines? (fuel + 1) (.word chars :: tokens) = some (statement :: more) := by
  have hstep : readLines? (fuel + 1) (.word chars :: tokens) =
      (readAssignment? (.word chars :: tokens)).bind fun found =>
        (readLines? fuel found.2).bind fun more => some (found.1 :: more) := rfl
  rw [hstep, h, Option.bind_some, hrest]
  rfl

/-- A line assigns a value to its key. -/
theorem states_writeLine {value : String} (key : String) (hkey : BareKey key)
    (hvalue : Writes value node) :
    States (writeLine key value) [.assign ⟨[], key, node⟩] := by
  obtain ⟨⟨tokens, hspells, hreads⟩, first, hhead, hblank⟩ := hvalue
  obtain ⟨more, hfirst⟩ := List.head?_eq_some_iff.1 hhead
  refine ⟨lineTokens key tokens, ?_, ?_⟩
  · have hend := hspells.closed (spells_char (c := '\n') rfl)
    rw [hfirst, List.cons_append] at hend
    have hafter := (spellsBefore_spaces 0 hblank).closed hend
    have hequals := (spells_char (c := '=') rfl).append hafter
    have hbefore := (spellsBefore_spaces 0 (d := '=') rfl).closed hequals
    have hline := (spellsBefore_key hkey.ne_nil hkey.chars (d := ' ') rfl).closed hbefore
    simpa [writeLine, lineTokens, String.toList_append, hfirst] using hline
  · intro rest last hrest fuel hfuel
    have hassign := readAssignment?_line hkey hreads rest
    have hlength : rest.length + 1 ≤ fuel := by
      simp only [lineTokens, List.length_append, List.length_cons] at hfuel
      omega
    obtain ⟨fuel, rfl⟩ := Nat.exists_eq_add_of_le' (Nat.le_trans (Nat.le_add_left ..) hlength)
    exact readLines?_word key.toList hassign (hrest fuel (by omega))

/-! ## Headers -/

/-- The brackets in front of a header: one for a table, two for a table of an array. -/
def headerStart (isArray : Bool) : List Token :=
  if isArray then [.openBracket, .openBracket] else [.openBracket]

/-- The end of the line of a header. -/
def headerEnd (isArray : Bool) : List Token :=
  if isArray then [.closeBracket, .closeBracket, .newline] else [.closeBracket, .newline]

/-- A header as it is written. -/
def writeHeader (isArray : Bool) (key : String) : String :=
  if isArray then "[[" ++ key ++ "]]\n" else "[" ++ key ++ "]\n"

/-- A header spells its tokens. -/
lemma spells_writeHeader {key : String} (hkey : BareKey key) (isArray : Bool) :
    Spells (writeHeader isArray key).toList
      (headerStart isArray ++ .word key.toList :: headerEnd isArray) := by
  have hopen : Spells ['['] [.openBracket] := spells_char rfl
  have hclose : Spells [']'] [.closeBracket] := spells_char rfl
  have hend := hclose.append (spells_char (c := '\n') rfl)
  have hword := spellsBefore_key hkey.ne_nil hkey.chars (d := ']') rfl
  cases isArray with
  | true =>
    have hheader := (hopen.append hopen).append (hword.closed (hclose.append hend))
    simpa [writeHeader, headerStart, headerEnd, String.toList_append] using hheader
  | false =>
    have hheader := hopen.append (hword.closed hend)
    simpa [writeHeader, headerStart, headerEnd, String.toList_append] using hheader

/-- A header is read up to the end of its line. -/
lemma readHeader?_word {key : String} (hkey : BareKey key) (isArray : Bool) (rest : List Token) :
    readHeader? isArray (.word key.toList :: (headerEnd isArray ++ rest)) =
      some (.header [] key isArray, rest) := by
  rw [readHeader?, List.length_cons]
  cases isArray with
  | true =>
    have hend : skipBlanks (headerEnd true ++ rest) =
        .closeBracket :: .closeBracket :: .newline :: rest := rfl
    rw [readKey?_word hkey _ hend (by decide)]
    rfl
  | false =>
    have hend : skipBlanks (headerEnd false ++ rest) = .closeBracket :: .newline :: rest := rfl
    rw [readKey?_word hkey _ hend (by decide)]
    rfl

/-- Behind a header the next statement is read. -/
lemma readLines?_header {isArray : Bool} {chars : List Char} {statement : Statement} {fuel : Nat}
    {rest : List Token}
    (h : readHeader? isArray (.word chars :: tokens) = some (statement, rest))
    (hrest : readLines? fuel rest = some more) :
    readLines? (fuel + 1) (headerStart isArray ++ .word chars :: tokens) =
      some (statement :: more) := by
  have hstep : readLines? (fuel + 1) (headerStart isArray ++ .word chars :: tokens) =
      (readHeader? isArray (.word chars :: tokens)).bind fun found =>
        (readLines? fuel found.2).bind fun more => some (found.1 :: more) := by
    cases isArray <;> rfl
  rw [hstep, h, Option.bind_some, hrest]
  rfl

/-- **A header opens a table.** -/
theorem states_writeHeader (key : String) (hkey : BareKey key) (isArray : Bool) :
    States (writeHeader isArray key) [.header [] key isArray] := by
  refine ⟨_, spells_writeHeader hkey isArray, fun rest last hrest fuel hfuel => ?_⟩
  rw [List.append_assoc, List.cons_append] at hfuel ⊢
  have hlength : rest.length + 1 ≤ fuel := by
    simp only [List.length_append, List.length_cons] at hfuel
    omega
  obtain ⟨fuel, rfl⟩ := Nat.exists_eq_add_of_le' (Nat.le_trans (Nat.le_add_left ..) hlength)
  exact readLines?_header (readHeader?_word hkey isArray rest) (hrest fuel (by omega))

/-! ## Documents -/

/-- **The document of a text is built from its statements.** -/
theorem States.parse?_eq {text : String} (h : States text statements)
    (hmark : text.toList.head? ≠ some '\uFEFF') :
    parse? text = build? (splitSections statements).1 (splitSections statements).2 := by
  obtain ⟨tokens, hspells, hsays⟩ := h
  have htokens : tokens? text = some tokens := by
    unfold tokens?
    split
    · next hchars =>
      rw [hchars] at hmark
      exact absurd rfl hmark
    · exact hspells.tokensOf?_eq
  have hempty : ∀ fuel, ([] : List Token).length ≤ fuel → readLines? fuel [] = some [] := by
    intro fuel _
    cases fuel <;> rfl
  have hlines := hsays [] [] hempty tokens.length (by simp)
  rw [List.append_nil, List.append_nil] at hlines
  rw [parse?, htokens]
  simp only [bind, Option.bind, hlines]

end Toml

end RequestRouting
