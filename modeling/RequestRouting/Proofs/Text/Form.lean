import RequestRouting.Proofs.Text.Percent
import RequestRouting.Proofs.Text.Split
import RequestRouting.Text.Form

/-!
# Form-encoded query strings are read back

Two standards meet in a query string.  It is written with percent escapes for everything but the
unreserved characters, and it is read as a form, where `+` is a blank, `&` and `=` are separators,
and percent escapes are decoded last.  They agree on every text, since an encoded text has none of
the three characters.

## Main definitions

* `Form.write` — the query string of some fields.

## Main results

* `Form.decode_encodeChars` — an encoded text is decoded to the text.
* `Form.pairs_write` — the fields of a written query string are read back.
-/

set_option autoImplicit false

namespace RequestRouting

/-! ## Fields -/

namespace Form

/-- The text of a field: the encoded name and the encoded value, joined by `=`. -/
def writeField (field : String × String) : List Char :=
  Percent.encodeChars field.1.toList ++ '=' :: Percent.encodeChars field.2.toList

/-- The query string of some fields. -/
def write (fields : List (String × String)) : List Char :=
  ['&'].intercalate (fields.map writeField)

/-- An encoded text is decoded to the text, since it has no `+` that would become a blank. -/
lemma decode_encodeChars (text : List Char) :
    decode (Percent.encodeChars text) = String.ofList text := by
  have hplus : '+' ∉ Percent.encodeChars text :=
    Percent.notMem_encodeChars (by decide) (by decide) text
  have hsame : ∀ c ∈ Percent.encodeChars text, (if c = '+' then ' ' else c) = id c := by
    intro c hc
    have hne : c ≠ '+' := ne_of_mem_of_not_mem hc hplus
    exact if_neg hne
  rw [decode, List.map_congr_left hsame, List.map_id, Percent.decodeChars_encodeChars]

/-- A field is read back, since the encoded name has no `=`. -/
lemma pair_writeField (field : String × String) : pair (writeField field) = field := by
  have hequals : '=' ∉ Percent.encodeChars field.1.toList :=
    Percent.notMem_encodeChars (by decide) (by decide) _
  simp [pair, writeField, splitFirst?_append_cons hequals, decode_encodeChars]

/-- A field has no `&`. -/
lemma ampersand_notMem_writeField (field : String × String) : '&' ∉ writeField field := by
  have hencoded : ∀ text, '&' ∉ Percent.encodeChars text :=
    Percent.notMem_encodeChars (by decide) (by decide)
  simp [writeField, hencoded]

/-- **The fields of a written query string are read back.**

**Proof sketch.** No field has an `&`, so splitting undoes joining; and no field is skipped, as it
has an `=` at least. -/
theorem pairs_write (fields : List (String × String)) : pairs (write fields) = fields := by
  cases fields with
  | nil => rfl
  | cons field rest =>
    generalize hfields : field :: rest = fields
    have hne : fields.map writeField ≠ [] := by simp [← hfields]
    have hmarks : ∀ piece ∈ fields.map writeField, '&' ∉ piece := by
      intro piece hpiece
      obtain ⟨field, -, rfl⟩ := List.mem_map.1 hpiece
      exact ampersand_notMem_writeField field
    have hkept : (fields.map writeField).filter (fun piece => !piece.isEmpty) =
        fields.map writeField := by
      refine List.filter_eq_self.2 fun piece hpiece => ?_
      obtain ⟨field, -, rfl⟩ := List.mem_map.1 hpiece
      simp [writeField]
    have hpair : pair ∘ writeField = id := funext pair_writeField
    rw [pairs, write, splitOnChar_intercalate hne hmarks, hkept, List.map_map, hpair, List.map_id]

end Form

end RequestRouting
