import RequestRouting.Proofs.Toml.Lexing
import RequestRouting.Toml.Printer

/-!
# Strings in TOML

Every text can be written as a string: whatever the form, the reader comes back to the text.  Where
escapes are possible, the reader collects one character for each of those that have been written;
quotes in a row are counted, since three of them would end a string of several lines.

## Main definitions

* `Toml.inside` — the state inside of a string with escapes.
* `Toml.valueToken` — the token of a text.

## Main results

* `Toml.goes_escapeText` — what has been escaped is collected.
* `Toml.spellsBefore_writeText` — a text that has been written spells its token.
-/

set_option autoImplicit false

namespace RequestRouting

namespace Toml

variable {c d q : Char} {text acc : List Char} {run : Nat} {long : Bool}

/-! ## Escapes -/

/-- The state inside of a string with escapes, on one line or on several; on several, some quotes
have been counted. -/
def inside (long : Bool) (acc : List Char) (run : Nat) : Pending :=
  if long then .body '"' acc run else .line '"' acc

/-- The state after a backslash. -/
def escaped (long : Bool) (chars : List Char) : Pending :=
  if long then .bodyEscape chars else .lineEscape chars

/-- What has been collected in reverse, counted quotes included. -/
def collected (acc : List Char) (run : Nat) : List Char := List.replicate run '"' ++ acc

/-- Up to two quotes are counted in a string of several lines, none in one of a single line. -/
def Counts (long : Bool) (run : Nat) : Prop := if long then run ≤ 2 else run = 0

/-- A backslash begins an escape. -/
lemma step_inside_backslash (hrun : Counts long run) :
    step (inside long acc run) '\\' = goOn (escaped long (collected acc run)) := by
  cases long with
  | true => rfl
  | false =>
    obtain rfl : run = 0 := hrun
    rfl

/-- A short escape stands for its character. -/
lemma step_escaped (hshort : shortEscape? d = some c)
    (hplain : isBlankChar d = false ∧ d ≠ '\n' ∧ d ≠ '\r' ∧ d ≠ 'u' ∧ d ≠ 'U') :
    step (escaped long text) d = goOn (inside long (c :: text) 0) := by
  obtain ⟨hblank, hline, hreturn, hsmall, hlarge⟩ := hplain
  cases long <;>
    simp [step, escaped, escapeStep, hblank, hline, hreturn, hsmall, hlarge, hshort, inside,
      afterEscape]

/-- The digit of a number below sixteen has that value. -/
lemma hexDigitValue?_toUpper_digitChar :
    ∀ n < 16, hexDigitValue? (Nat.digitChar n).toUpper = some n := by decide

/-- The four digits of a character lead back to it. -/
lemma goes_unit (hsmall : c.toNat < 0x80) :
    Goes (escaped long text) ('u' :: hexQuad c.toNat) (inside long (c :: text) 0) := by
  have hstart : step (escaped long text) 'u' = goOn (.unit long text 4 0) := by
    cases long <;> rfl
  have hdigit (missing value digit : Nat) (hmissing : missing ≠ 1) (hlt : digit < 16) :
      step (.unit long text missing value) (Nat.digitChar digit).toUpper =
        goOn (.unit long text (missing - 1) (value * 16 + digit)) := by
    simp [step, unitStep, hexDigitValue?_toUpper_digitChar digit hlt, hmissing]
  have hlast (value digit : Nat) (hlt : digit < 16) (hvalue : value * 16 + digit = c.toNat) :
      step (.unit long text 1 value) (Nat.digitChar digit).toUpper =
        goOn (inside long (c :: text) 0) := by
    have hvalid : (c.toNat).isValidChar := c.valid
    simp [step, unitStep, hexDigitValue?_toUpper_digitChar digit hlt, hvalue, hvalid, afterEscape,
      inside]
  refine .cons hstart (.cons (hdigit 4 0 _ (by decide) (Nat.mod_lt _ (by decide)))
    (.cons (hdigit 3 _ _ (by decide) (Nat.mod_lt _ (by decide)))
      (.cons (hdigit 2 _ _ (by decide) (Nat.mod_lt _ (by decide)))
        (.single (hlast _ _ (Nat.mod_lt _ (by decide)) ?_)))))
  omega

/-- A character that needs no escape is no control character, unless it is a line end. -/
lemma isControl_of_not_needsEscape (h : needsEscape c = false) (hline : c ≠ '\n') :
    isControl c = false := by
  have hdelete : c.toNat ≠ 0x7F → c ≠ '\x7f' := by
    rintro hne rfl
    exact hne rfl
  simp only [needsEscape, hline, ne_eq, not_false_eq_true, decide_true, Bool.and_true,
    Bool.or_eq_false_iff, decide_eq_false_iff_not] at h
  obtain ⟨hlow, hhigh⟩ := h
  simpa [isControl, hdelete hhigh] using hlow

/-- A character that needs no escape is no carriage return. -/
lemma ne_return_of_not_needsEscape (h : needsEscape c = false) : c ≠ '\r' := by
  rintro rfl
  cases h

/-- A character that stands for itself inside of a string on one line. -/
lemma step_line_plain (hquote : c ≠ q) (hbackslash : c = '\\' → q ≠ '"')
    (hplain : needsEscape c = false) (hline : c ≠ '\n') :
    step (.line q acc) c = goOn (.line q (c :: acc)) := by
  have hescape : ¬ (decide (c = '\\') && decide (q = '"')) = true := by
    simpa using hbackslash
  simp only [step, lineStep, if_neg hquote, if_neg hescape,
    isControl_of_not_needsEscape hplain hline, Bool.false_eq_true, if_false]

/-- A character that stands for itself inside of a string on several lines. -/
lemma step_body_plain (hquote : c ≠ q) (hbackslash : c = '\\' → q ≠ '"')
    (hplain : needsEscape c = false) :
    step (.body q acc run) c = goOn (.body q (c :: (List.replicate run q ++ acc)) 0) := by
  have hescape : ¬ (decide (c = '\\') && decide (q = '"')) = true := by
    simpa using hbackslash
  have hcontrol : ¬ (isControl c && decide (c ≠ '\n')) = true := by
    obtain rfl | hline := eq_or_ne c '\n'
    · simp
    · simp [isControl_of_not_needsEscape hplain hline]
  simp only [step, bodyStep, if_neg hquote, if_neg (ne_return_of_not_needsEscape hplain),
    if_neg hescape, if_neg hcontrol]

/-- A character that stands for itself where escapes are possible. -/
lemma step_inside_plain (hrun : Counts long run) (hquote : c ≠ '"') (hbackslash : c ≠ '\\')
    (hplain : needsEscape c = false) (hline : c = '\n' → long = true) :
    step (inside long acc run) c = goOn (inside long (c :: collected acc run) 0) := by
  cases long with
  | true => exact step_body_plain hquote (fun heq => absurd heq hbackslash) hplain
  | false =>
    obtain rfl : run = 0 := hrun
    exact step_line_plain hquote (fun heq => absurd heq hbackslash) hplain
      fun heq => Bool.noConfusion (hline heq)

/-- Whatever form a character other than the quote takes, it is collected. -/
lemma goes_escapeChar (hrun : Counts long run) (hquote : c ≠ '"') :
    Goes (inside long acc run) (escapeChar long c) (inside long (c :: collected acc run) 0) := by
  have hshort (d : Char) (h : shortEscape? d = some c)
      (hplain : isBlankChar d = false ∧ d ≠ '\n' ∧ d ≠ '\r' ∧ d ≠ 'u' ∧ d ≠ 'U') :
      Goes (inside long acc run) ['\\', d] (inside long (c :: collected acc run) 0) :=
    .cons (step_inside_backslash hrun) (.single (step_escaped h hplain))
  unfold escapeChar
  split
  · next heq => exact hshort 'b' (heq ▸ rfl) (by decide)
  split
  · next heq => exact hshort 't' (heq ▸ rfl) (by decide)
  split
  · next heq =>
    subst heq
    cases long with
    | true => exact .single (step_inside_plain hrun hquote (by decide) rfl fun _ => rfl)
    | false => exact hshort 'n' rfl (by decide)
  split
  · next heq => exact hshort 'f' (heq ▸ rfl) (by decide)
  split
  · next heq => exact hshort 'r' (heq ▸ rfl) (by decide)
  split
  · next heq =>
    subst heq
    exact hshort '\\' rfl (by decide)
  next hline _ _ hbackslash =>
  split
  · next hneeds =>
    have hsmall : c.toNat < 0x80 := by
      simp only [needsEscape, Bool.or_eq_true, Bool.and_eq_true, decide_eq_true_eq] at hneeds
      omega
    exact .cons (step_inside_backslash hrun) (goes_unit hsmall)
  · next hneeds =>
    exact .single (step_inside_plain hrun hquote hbackslash (Bool.not_eq_true _ ▸ hneeds)
      fun heq => absurd heq hline)

/-- **What has been escaped is collected**, quotes included.

**Proof sketch.** Induction on the text.  On several lines a third quote in a row is escaped, so
that never more than two are counted. -/
theorem goes_escapeText (text acc : List Char) (hrun : Counts long run) :
    ∃ chars count, Goes (inside long acc run) (escapeText long text run) (inside long chars count) ∧
      Counts long count ∧ collected chars count = text.reverse ++ collected acc run := by
  induction text generalizing acc run with
  | nil => exact ⟨acc, run, .nil, hrun, rfl⟩
  | cons c text ih =>
    have hzero : Counts long 0 := by cases long <;> simp [Counts]
    unfold escapeText
    split
    · next hquote =>
      subst hquote
      split
      · next hshort =>
        obtain ⟨hlong, hlt⟩ := Bool.and_eq_true_iff.1 hshort
        subst hlong
        have hlt : run < 2 := of_decide_eq_true hlt
        have hcounts : Counts true (run + 1) := by
          simp only [Counts, if_true]
          omega
        obtain ⟨chars, count, hgoes, hcount, hcollected⟩ := ih acc hcounts
        have hstep : step (inside true acc run) '"' = goOn (inside true acc (run + 1)) := by
          have hne : run ≠ 2 := by omega
          simp [inside, step, bodyStep, hne]
        refine ⟨chars, count, .cons hstep hgoes, hcount, ?_⟩
        rw [hcollected]
        simp [collected, List.replicate_succ]
      · obtain ⟨chars, count, hgoes, hcount, hcollected⟩ :=
          ih ('"' :: collected acc run) hzero
        refine ⟨chars, count, .cons (step_inside_backslash hrun)
          (.cons (step_escaped rfl (by decide)) hgoes), hcount, ?_⟩
        rw [hcollected]
        simp [collected]
    · next hquote =>
      obtain ⟨chars, count, hgoes, hcount, hcollected⟩ := ih (c :: collected acc run) hzero
      refine ⟨chars, count, (goes_escapeChar hrun hquote).append hgoes, hcount, ?_⟩
      rw [hcollected]
      simp [collected]

/-! ## Literal strings -/

/-- The count so far is part of the longest run. -/
lemma le_longestRun (mark : Char) (text : List Char) (run : Nat) :
    run ≤ longestRun mark text run := by
  induction text generalizing run with
  | nil => exact Nat.le_refl run
  | cons c text ih =>
    unfold longestRun
    split
    · exact Nat.le_trans (Nat.le_succ run) (ih (run + 1))
    · exact Nat.le_max_left ..

/-- A text without runs of a character is a text without the character. -/
lemma notMem_of_longestRun_eq_zero {mark : Char} (h : longestRun mark text 0 = 0) :
    mark ∉ text := by
  induction text with
  | nil => exact List.not_mem_nil
  | cons c text ih =>
    unfold longestRun at h
    split at h
    · have hle := le_longestRun mark text (0 + 1)
      omega
    · next hne =>
      rw [Nat.zero_max] at h
      rw [List.mem_cons, not_or]
      exact ⟨fun heq => hne heq.symm, ih h⟩

/-- A literal text on one line is collected. -/
lemma goes_line_literal (hquote : '\'' ∉ text) (hplain : ∀ c ∈ text, needsEscape c = false)
    (hline : '\n' ∉ text) (acc : List Char) :
    Goes (.line '\'' acc) text (.line '\'' (text.reverse ++ acc)) := by
  induction text generalizing acc with
  | nil => exact .nil
  | cons c text ih =>
    rw [List.mem_cons, not_or] at hquote hline
    obtain ⟨hcquote, hquote⟩ := hquote
    obtain ⟨hcline, hline⟩ := hline
    obtain ⟨hcplain, hplain⟩ := List.forall_mem_cons.1 hplain
    rw [List.reverse_cons, List.append_assoc, List.singleton_append]
    exact .cons (step_line_plain (Ne.symm hcquote) (fun _ => by decide) hcplain (Ne.symm hcline))
      (ih hquote hplain hline (c :: acc))

/-- A literal text on several lines is collected; no three quotes in a row end it too early. -/
lemma goes_body_literal (acc : List Char) (hplain : ∀ c ∈ text, needsEscape c = false)
    (hruns : longestRun '\'' text run ≤ 2) :
    ∃ chars count, Goes (.body '\'' acc run) text (.body '\'' chars count) ∧ count ≤ 2 ∧
      List.replicate count '\'' ++ chars = text.reverse ++ (List.replicate run '\'' ++ acc) := by
  induction text generalizing acc run with
  | nil => exact ⟨acc, run, .nil, hruns, rfl⟩
  | cons c text ih =>
    obtain ⟨hcplain, hrest⟩ := List.forall_mem_cons.1 hplain
    unfold longestRun at hruns
    split at hruns
    · next hquote =>
      subst hquote
      have hlt := le_longestRun '\'' text (run + 1)
      obtain ⟨chars, count, hgoes, hcount, hcollected⟩ := ih acc hrest hruns
      have hstep : step (.body '\'' acc run) '\'' = goOn (.body '\'' acc (run + 1)) := by
        have hne : run ≠ 2 := by omega
        simp [step, bodyStep, hne]
      refine ⟨chars, count, .cons hstep hgoes, hcount, ?_⟩
      rw [hcollected]
      simp [List.replicate_succ]
    · next hquote =>
      obtain ⟨chars, count, hgoes, hcount, hcollected⟩ :=
        ih (c :: (List.replicate run '\'' ++ acc)) hrest
          (Nat.le_trans (Nat.le_max_right ..) hruns)
      refine ⟨chars, count, .cons (step_body_plain hquote (fun _ => by decide) hcplain) hgoes,
        hcount, ?_⟩
      rw [hcollected]
      simp

/-- A text begins as its first part does. -/
lemma head?_toList_append {first second : String} {c : Char} (h : first.toList.head? = some c) :
    (first ++ second).toList.head? = some c := by
  rw [String.toList_append, List.head?_append, h, Option.some_or]

/-! ## Quotes -/

/-- A quote that opens a string. -/
lemma goes_quote (hq : q = '"' ∨ q = '\'') : Goes .idle [q] (.quote q) := by
  refine .single ?_
  obtain rfl | rfl := hq <;> rfl

/-- A string of one line. -/
lemma spellsBefore_line {body : List Char} (hq : q = '"' ∨ q = '\'') (hc : c ≠ q)
    (hgoes : Goes (.line q []) body (.line q text.reverse)) (hfirst : body.head? ≠ some q) :
    SpellsBefore c (q :: (body ++ [q])) [.text (String.ofList text) false] := by
  cases body with
  | nil =>
    obtain rfl : text = [] := by simpa [Goes, feed] using hgoes
    have htwo : Goes .idle [q, q] (.quotes q) := by
      refine (goes_quote hq).append (.single ?_)
      simp [step]
    refine htwo.spellsBefore ?_
    simp only [step, if_neg hc]
    rfl
  | cons first body =>
    have hne : first ≠ q := fun heq => hfirst (congrArg some heq)
    have hstart : step (.quote q) first = step (.line q []) first := by
      simp only [step, if_neg hne]
    have hin : Goes (.quote q) (first :: body) (.line q text.reverse) :=
      (feed_congr hstart body).trans hgoes
    refine ((goes_quote hq).append hin |>.spells ?_).before c
    simp [step, lineStep, textToken]

/-- Three quotes that open a string of several lines. -/
lemma goes_opening (hq : q = '"' ∨ q = '\'') : Goes .idle [q, q, q] (.opening q) := by
  refine (goes_quote hq).append (.cons (q := .quotes q) ?_ (.single ?_)) <;> simp [step]

/-- Three quotes that close a string of several lines, in front of which up to two have been
counted. -/
lemma goes_closing (h : run ≤ 2) :
    Goes (.body q acc run) [q, q, q] (.closing q acc run) := by
  have hbody (n : Nat) (hn : n ≠ 2) : step (.body q acc n) q = goOn (.body q acc (n + 1)) := by
    simp [step, bodyStep, hn]
  have hthird : step (.body q acc 2) q = goOn (.closing q acc 0) := by
    simp [step, bodyStep]
  have hmore (n : Nat) (hn : n < 2) :
      step (.closing q acc n) q = goOn (.closing q acc (n + 1)) := by
    simp [step, hn]
  obtain rfl | rfl | rfl : run = 0 ∨ run = 1 ∨ run = 2 := by omega
  · exact .cons (hbody 0 (by decide)) (.cons (hbody 1 (by decide)) (.single hthird))
  · exact .cons (hbody 1 (by decide)) (.cons hthird (.single (hmore 0 (by decide))))
  · exact .cons hthird (.cons (hmore 0 (by decide)) (.single (hmore 1 (by decide))))

/-- A string of several lines. -/
lemma spellsBefore_body {body : List Char} {chars : List Char} {count : Nat}
    (hq : q = '"' ∨ q = '\'') (hc : c ≠ q)
    (hgoes : Goes (.body q [] 0) body (.body q chars count)) (hcount : count ≤ 2)
    (hcollected : List.replicate count q ++ chars = text.reverse)
    (hbreak : '\n' ∉ text → ∀ first ∈ body.head?, first ≠ '\n' ∧ first ≠ '\r') :
    SpellsBefore c ([q, q, q] ++ openingBreak text ++ body ++ [q, q, q])
      [.text (String.ofList text) true] := by
  have hopen : Goes .idle ([q, q, q] ++ openingBreak text ++ body ++ [q, q, q])
      (.closing q chars count) := by
    have hend := hgoes.append (goes_closing hcount)
    unfold openingBreak
    split
    · exact ((goes_opening hq).append (.single rfl)).append hgoes |>.append (goes_closing hcount)
    · next hline =>
      have hstart : ∃ first rest, body ++ [q, q, q] = first :: rest ∧ first ≠ '\n' ∧
          first ≠ '\r' := by
        cases body with
        | nil => exact ⟨q, [q, q], rfl, by obtain rfl | rfl := hq <;> decide⟩
        | cons first body =>
          exact ⟨first, body ++ [q, q, q], rfl, hbreak (by simpa using hline) first rfl⟩
      obtain ⟨first, rest, hbody, hnotline, hreturn⟩ := hstart
      have hfirst : step (.opening q) first = step (.body q [] 0) first := by
        simp only [step, if_neg hnotline, if_neg hreturn]
      rw [List.append_nil, List.append_assoc]
      refine (goes_opening hq).append ?_
      rw [hbody] at hend ⊢
      exact (feed_congr hfirst rest).trans hend
  refine hopen.spellsBefore ?_
  have hne : ¬ (decide (c = q) && decide (count < 2)) = true := by simp [hc]
  simp only [step, if_neg hne, hcollected, textToken, List.reverse_reverse]

/-! ## Texts -/

/-- Whether a form may have several lines. -/
def StringForm.isLong : StringForm → Bool
  | .basic | .literal => false
  | .longBasic | .longLiteral => true

/-- The token of a text. -/
def valueToken (text : String) : Token := .text text (formOf text.toList).isLong

/-- A literal form on one line has neither escapes nor single quotes nor line ends. -/
lemma of_formOf_eq_literal (h : formOf text = .literal) :
    (∀ c ∈ text, needsEscape c = false) ∧ '\'' ∉ text ∧ '\n' ∉ text := by
  unfold formOf at h
  dsimp only at h
  split at h
  · cases h
  split at h
  · next hliteral =>
    simp only [Bool.and_eq_true, Bool.not_eq_true', List.any_eq_false, Bool.not_eq_true,
      decide_eq_true_eq, List.contains_eq_mem, decide_eq_false_iff_not] at hliteral
    exact ⟨hliteral.1.1, notMem_of_longestRun_eq_zero hliteral.1.2, hliteral.2⟩
  all_goals
    split at h
    · cases h
    split at h
    · cases h
    split at h <;> cases h

/-- A literal form on several lines has no escapes, and no three single quotes in a row. -/
lemma of_formOf_eq_longLiteral (h : formOf text = .longLiteral) :
    (∀ c ∈ text, needsEscape c = false) ∧ longestRun '\'' text 0 ≤ 2 := by
  unfold formOf at h
  dsimp only at h
  split at h
  · cases h
  split at h
  · cases h
  split at h
  · cases h
  split at h
  · next hliteral =>
    simp only [Bool.and_eq_true, Bool.not_eq_true', List.any_eq_false, Bool.not_eq_true,
      decide_eq_true_eq] at hliteral
    exact hliteral
  · split at h <;> cases h

/-- A character is written as an escape, or stands for itself and is no carriage return. -/
lemma escapeChar_cases (long : Bool) (c : Char) :
    (∃ rest, escapeChar long c = '\\' :: rest) ∨ (escapeChar long c = [c] ∧ c ≠ '\r') := by
  unfold escapeChar
  split
  · exact .inl ⟨_, rfl⟩
  split
  · exact .inl ⟨_, rfl⟩
  split
  · next hline =>
    subst hline
    cases long with
    | true => exact .inr ⟨rfl, by decide⟩
    | false => exact .inl ⟨_, rfl⟩
  split
  · exact .inl ⟨_, rfl⟩
  split
  · exact .inl ⟨_, rfl⟩
  next hreturn =>
  split
  · exact .inl ⟨_, rfl⟩
  split
  · exact .inl ⟨_, rfl⟩
  · exact .inr ⟨rfl, hreturn⟩

/-- What an escaped text begins with: on one line no quote, and never a line end that is not in the
text. -/
lemma head?_escapeText {first : Char} (h : first ∈ (escapeText long text run).head?) :
    first ≠ '\r' ∧ ('\n' ∉ text → first ≠ '\n') ∧ (long = false → first ≠ '"') := by
  have hbackslash (heq : '\\' = first) :
      first ≠ '\r' ∧ ('\n' ∉ text → first ≠ '\n') ∧ (long = false → first ≠ '"') := by
    subst heq
    exact ⟨by decide, fun _ => by decide, fun _ => by decide⟩
  cases text with
  | nil => cases h
  | cons c text =>
    unfold escapeText at h
    split at h
    · next hquote =>
      split at h
      · next hshort =>
        obtain rfl : c = first := by simpa using h
        subst hquote
        exact ⟨by decide, fun _ => by decide, fun hlong => by simp [hlong] at hshort⟩
      · exact hbackslash (by simpa using h)
    · next hquote =>
      obtain ⟨rest, hchar⟩ | ⟨hchar, hreturn⟩ := escapeChar_cases long c
      · exact hbackslash (by simpa [hchar] using h)
      · obtain rfl : c = first := by simpa [hchar] using h
        exact ⟨hreturn, fun hline heq => hline (heq ▸ List.mem_cons_self ..), fun _ => hquote⟩

/-- **A text that has been written spells its token** in front of anything but a quote.

**Proof sketch.** Escapes are possible in every form but the literal ones, which are chosen only for
texts that need none and do not end their string by themselves. -/
theorem spellsBefore_writeText (text : String) (hdouble : c ≠ '"') (hsingle : c ≠ '\'') :
    SpellsBefore c (writeText text).toList [valueToken text] := by
  have hofList : String.ofList text.toList = text := String.ofList_toList
  unfold writeText valueToken
  rw [String.toList_ofList]
  generalize hchars : text.toList = chars at hofList
  rw [← hofList]
  cases hform : formOf chars with
  | basic =>
    have hzero : Counts false 0 := rfl
    obtain ⟨done, count, hgoes, hcount, hcollected⟩ := goes_escapeText chars [] hzero
    obtain rfl : count = 0 := hcount
    obtain rfl : done = chars.reverse := by simpa [collected] using hcollected
    exact spellsBefore_line (.inl rfl) hdouble hgoes
      fun hhead => (head?_escapeText hhead).2.2 rfl rfl
  | literal =>
    obtain ⟨hplain, hquote, hline⟩ := of_formOf_eq_literal hform
    have hgoes := goes_line_literal hquote hplain hline []
    rw [List.append_nil] at hgoes
    exact spellsBefore_line (.inr rfl) hsingle hgoes
      fun hhead => hquote (List.mem_of_mem_head? hhead)
  | longBasic =>
    have hzero : Counts true 0 := Nat.zero_le 2
    obtain ⟨done, count, hgoes, hcount, hcollected⟩ := goes_escapeText chars [] hzero
    rw [collected, collected, List.replicate_zero, List.append_nil, List.append_nil] at hcollected
    exact spellsBefore_body (.inl rfl) hdouble hgoes hcount hcollected
      fun hline first hhead => ⟨(head?_escapeText hhead).2.1 hline, (head?_escapeText hhead).1⟩
  | longLiteral =>
    obtain ⟨hplain, hruns⟩ := of_formOf_eq_longLiteral hform
    obtain ⟨done, count, hgoes, hcount, hcollected⟩ := goes_body_literal [] hplain hruns
    rw [List.replicate_zero, List.append_nil, List.append_nil] at hcollected
    exact spellsBefore_body (.inr rfl) hsingle hgoes hcount hcollected fun hline first hhead =>
      ⟨fun heq => hline (heq ▸ List.mem_of_mem_head? hhead),
        ne_return_of_not_needsEscape (hplain first (List.mem_of_mem_head? hhead))⟩

/-- A text that has been written between two finished pieces. -/
lemma Spells.writeText {before after : String} {tokens later : List Token} (text : String)
    (hbefore : Spells before.toList tokens) (hafter : Spells (c :: after.toList) later)
    (hdouble : c ≠ '"') (hsingle : c ≠ '\'') :
    Spells (before ++ writeText text ++ String.singleton c ++ after).toList
      (tokens ++ valueToken text :: later) := by
  have hwhole := hbefore.append ((spellsBefore_writeText text hdouble hsingle).closed hafter)
  simpa only [String.toList_append, String.toList_singleton, List.append_assoc,
    List.singleton_append] using hwhole

end Toml

end RequestRouting
