import RequestRouting.Proofs.Condition.Path

/-!
# Paths behind a script

A path condition may look at the path behind the script that serves a request.  The delimiters at
the two ends of that path are no part of what the condition looks at, so that its first chunk and
its last one are not empty.

## Main results

* `UrlPathCondition.exists_chunks_at_ends` — the chunks at the ends of a text that neither begins
  nor ends with the delimiter.
* `UrlPathCondition.extra_subject` — what a condition looks at, and the chunks at its ends.
-/

set_option autoImplicit false

namespace RequestRouting

namespace UrlPathCondition

variable {condition : UrlPathCondition} {chunks : List String} {subject : String}

/-! ## The chunks at the ends -/

/-- The chunk with the index zero is the first one. -/
lemma chunk_zero (chunks : List String) :
    ((resolveChunkIndex 0 chunks.length).bind fun position => chunks[position]?) =
      chunks.head? := by
  cases chunks with
  | nil => rfl
  | cons first rest => simp [resolveChunkIndex]

/-- The chunk with the index minus one is the last one, if there is a number for it. -/
lemma chunk_minus_one {chunk : String}
    (h : ((resolveChunkIndex (-1) chunks.length).bind fun position => chunks[position]?) =
      some chunk) : chunks.getLast? = some chunk := by
  obtain ⟨position, hposition, hchunk⟩ := Option.bind_eq_some_iff.1 h
  have hlast : position = chunks.length - 1 := by
    simp only [resolveChunkIndex, Int.reduceNeg, Int.reduceLT, ↓reduceIte,
      Option.ite_none_right_eq_some, Option.some.injEq] at hposition
    omega
  rw [List.getLast?_eq_getElem?, ← hlast, hchunk]

/-- The chunks of a text, joined by the delimiter, are the text. -/
lemma AreChunks.intercalate_eq (h : condition.AreChunks subject chunks) :
    condition.delimiter.intercalate chunks = subject := by
  rw [← String.toList_inj, String.toList_intercalate]
  exact Splits.intercalate_eq h

/-- **The chunks at the ends of a text** that neither begins nor ends with the delimiter are not
empty, unless the text is. -/
theorem exists_chunks_at_ends (h : condition.AreChunks subject chunks)
    (hstart : ¬ condition.delimiter.toList <+: subject.toList)
    (hend : ¬ condition.delimiter.toList <:+ subject.toList) :
    ∃ first last, chunks.head? = some first ∧ chunks.getLast? = some last ∧
      (subject ≠ "" → first ≠ "" ∧ last ≠ "") := by
  have hchunks : chunks ≠ [] := by simpa using Splits.ne_nil h
  obtain ⟨first, hfirst⟩ : ∃ first, chunks.head? = some first :=
    ⟨_, List.head?_eq_some_head hchunks⟩
  obtain ⟨last, hlast⟩ : ∃ last, chunks.getLast? = some last :=
    ⟨_, List.getLast?_eq_some_getLast hchunks⟩
  refine ⟨first, last, hfirst, hlast, fun hsome => ⟨?_, ?_⟩⟩
  · rintro rfl
    have hhead : (chunks.map String.toList).head? = some [] := by
      rw [List.head?_map, hfirst]
      rfl
    rcases Splits.eq_nil_or_prefix h hhead with hnil | hbegins
    · exact hsome (String.toList_eq_nil_iff.1 hnil)
    · exact hstart hbegins
  · rintro rfl
    have hgetLast : (chunks.map String.toList).getLast? = some [] := by
      rw [List.getLast?_map, hlast]
      rfl
    rcases Splits.eq_nil_or_suffix h hgetLast with hnil | hends
    · exact hsome (String.toList_eq_nil_iff.1 hnil)
    · exact hend hends

/-! ## The text between the delimiters -/

/-- **What a condition on the path behind a script looks at.**  If that path is a text, then it is
some copies of the delimiter, the subject, and some copies of the delimiter again; the subject
neither begins nor ends with the delimiter, also where copies of it could overlap; and its chunks,
joined by the delimiter, are the subject.  The first chunk has the index zero, the last one has the
index minus one if any chunk has, and neither of them is empty unless the subject is.

**Proof sketch.** The copies at the end are taken away from a text that does not begin with the
delimiter, and no beginning of such a text does either.  An empty chunk at one end of the subject
would be next to a delimiter there. -/
theorem extra_subject (hsource : condition.source = .extra) (hdelimiter : condition.delimiter ≠ "")
    {knowledge : Knowledge} {text : String}
    (htext : knowledge.factText Knowledge.extraPathFact = .ok text) :
    ∃ subject front back, condition.subject knowledge = .ok subject ∧
      text.toList = copies front condition.delimiter.toList ++
        (subject.toList ++ copies back condition.delimiter.toList) ∧
      ¬ condition.delimiter.toList <+: subject.toList ∧
      ¬ condition.delimiter.toList <:+ subject.toList ∧
      ∃ chunks first last, condition.chunksOf subject = chunks ∧
        condition.delimiter.intercalate chunks = subject ∧
        chunks.head? = some first ∧ chunks.getLast? = some last ∧
        (subject ≠ "" → first ≠ "" ∧ last ≠ "") ∧
        ((resolveChunkIndex 0 chunks.length).bind fun position => chunks[position]?) =
          some first ∧
        ∀ chunk, ((resolveChunkIndex (-1) chunks.length).bind fun position => chunks[position]?) =
          some chunk → chunk = last := by
  have hsubject : condition.subject knowledge =
      .ok (String.ofList (trimText condition.delimiter.toList text.toList)) := by
    rw [UrlPathCondition.subject, hsource, htext]
    rfl
  generalize hrest : String.ofList (trimText condition.delimiter.toList text.toList) = subject
    at hsubject
  have htrims : Trims condition.delimiter.toList text.toList subject.toList := by
    rw [← trimText_eq_iff (toList_ne_nil hdelimiter), ← hrest, String.toList_ofList]
  have hchunks : condition.AreChunks subject (condition.chunksOf subject) :=
    (chunksOf_eq_iff hdelimiter).1 rfl
  have hstart := htrims.not_prefix
  obtain ⟨front, back, hcopies, -, hend⟩ := htrims
  obtain ⟨first, last, hfirst, hlast, hsome⟩ := exists_chunks_at_ends hchunks hstart hend
  refine ⟨subject, front, back, hsubject, hcopies, hstart, hend, _, first, last, rfl,
    hchunks.intercalate_eq, hfirst, hlast, hsome, ?_, fun chunk hchunk => ?_⟩
  · rw [chunk_zero, hfirst]
  · have hminus := chunk_minus_one hchunk
    rw [hlast] at hminus
    exact (Option.some.inj hminus).symm

/-- A condition on the path behind a script, with a delimiter that overlaps itself. -/
def overlapping : UrlPathCondition := ⟨.extra, "aba", none, []⟩

/-- A request whose path behind the script has the delimiter at both ends; at the end the copies of
it overlap. -/
def overlappingPath : Knowledge :=
  (Knowledge.forRequest "GET" "/").withFact Knowledge.extraPathFact (.string "abaxabayababa")

/-- Of two copies that overlap only one is taken away, and what is left of the other one is no
delimiter. -/
theorem extra_subject_overlapping :
    overlapping.source = .extra ∧ overlapping.delimiter ≠ "" ∧
    overlappingPath.factText Knowledge.extraPathFact = .ok "abaxabayababa" ∧
    overlapping.chunksOf "xabayab" = ["x", "yab"] ∧
    ∃ subject front back, overlapping.subject overlappingPath = .ok subject ∧
      subject = "xabayab" ∧
      "abaxabayababa".toList = copies front "aba".toList ++
        (subject.toList ++ copies back "aba".toList) ∧
      ¬ "aba".toList <+: subject.toList ∧ ¬ "aba".toList <:+ subject.toList ∧
      ∃ chunks first last, overlapping.chunksOf subject = chunks ∧
        "aba".intercalate chunks = subject ∧
        chunks.head? = some first ∧ chunks.getLast? = some last ∧
        (subject ≠ "" → first ≠ "" ∧ last ≠ "") := by
  have htext : overlappingPath.factText Knowledge.extraPathFact = .ok "abaxabayababa" := by rfl
  have hdelimiter : overlapping.delimiter ≠ "" := by decide
  obtain ⟨subject, front, back, hsubject, hcopies, hstart, hend, chunks, first, last, hchunks,
    hjoined, hfirst, hlast, hsome, -⟩ := extra_subject rfl hdelimiter htext
  have htrimmed : String.ofList (trimText "aba".toList "abaxabayababa".toList) = "xabayab" := by
    decide +kernel
  have hvalue : overlapping.subject overlappingPath = .ok "xabayab" := by
    rw [← htrimmed]
    rfl
  obtain rfl : "xabayab" = subject := Except.ok.inj (hvalue.symm.trans hsubject)
  have hsplit : overlapping.chunksOf "xabayab" = ["x", "yab"] := by decide +kernel
  exact ⟨rfl, hdelimiter, htext, hsplit, _, front, back, hsubject, rfl, hcopies, hstart, hend,
    chunks, first, last, hchunks, hjoined, hfirst, hlast, hsome⟩

end UrlPathCondition

end RequestRouting
