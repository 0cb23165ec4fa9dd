import RequestRouting.Proofs.Session.Setup
import RequestRouting.Proofs.Text.Form
import RequestRouting.Proofs.Url.RoundTrip
import RequestRouting.Proofs.Url.Written

/-!
# Query strings that patterns build are read back

A pattern may end in a query string whose values are placeholders.  The values are encoded as URL
components when the URL is built, and read as form fields when a request with the URL comes in;
nonetheless every value is read back as it was.

## Main definitions

* `QueryField` — a name, and the property path that the value comes from.
* `queryPattern` — the pattern of some text in front of a query string with given fields.

## Main results

* `template_queryPattern` — what such a pattern is compiled to.
* `RequestSpec.get?_parameters` — the query string gives what no assignment overrides.
* `queryPattern_read_back` — the values of a built URL are read back from its query string.
-/

set_option autoImplicit false

namespace RequestRouting

/-! ## Patterns with a query string -/

/-- A field of the query string of a pattern: a name, and the property path that the value comes
from. -/
structure QueryField where
  name : String
  path : PropertyPath

namespace QueryField

/-- How a field is written in a pattern. -/
def source (field : QueryField) : String := field.name ++ "=\x7b" ++ field.path.text ++ "\x7d"

/-- The name needs no encoding, and the property path is one that can be written. -/
structure Proper (field : QueryField) : Prop where
  unreserved : ∀ c ∈ field.name.toList, Percent.isUnreserved c = true
  spelled : field.path.Spelled

/-- The pieces of a field. -/
def pieces (field : QueryField) : List Template.Piece :=
  field.name.toList.map .char ++ [.char '=', .placeholder field.path]

/-- The pieces of some fields, joined by `&`. -/
def joined : List QueryField → List Template.Piece
  | [] => []
  | [field] => field.pieces
  | field :: next :: rest => field.pieces ++ .char '&' :: joined (next :: rest)

end QueryField

/-- The pattern of a text, a question mark, and a query string with the given fields. -/
def queryPattern (name base : String) (fields : List QueryField) : UrlPattern :=
  ⟨name, base ++ "?" ++ "&".intercalate (fields.map QueryField.source)⟩

section Pieces

open Template

variable {text values : List String} {fields : List QueryField}

/-- Characters are written as they are. -/
lemma flatMap_source_char (text : List Char) :
    (text.map Piece.char).flatMap Piece.source = text := by
  rw [List.flatMap_map]
  exact List.flatMap_singleton' text

/-- Characters have no property paths. -/
lemma filterMap_path?_char (text : List Char) : (text.map Piece.char).filterMap Piece.path? = [] :=
  List.filterMap_eq_nil_iff.2 (List.forall_mem_map.2 fun _ _ => rfl)

/-- Characters are filled as they are. -/
lemma fillPieces_char_append (text : List Char) (rest : List Piece) (values : List String) :
    fillPieces (text.map Piece.char ++ rest) values = text ++ fillPieces rest values := by
  induction text with
  | nil => rfl
  | cons c text ih => rw [List.map_cons, List.cons_append, fillPieces, ih, List.cons_append]

/-- The pieces of a field are written as the field is. -/
lemma QueryField.flatMap_source_pieces (field : QueryField) :
    field.pieces.flatMap Piece.source = field.source.toList := by
  simp [pieces, QueryField.source, flatMap_source_char, Piece.source]

/-- The pieces of some fields are written as the fields are. -/
lemma QueryField.flatMap_source_joined (fields : List QueryField) :
    (joined fields).flatMap Piece.source =
      ("&".intercalate (fields.map QueryField.source)).toList := by
  rw [String.toList_intercalate, List.map_map]
  fun_induction joined fields with
  | case1 => rfl
  | case2 field => simp [flatMap_source_pieces]
  | case3 field next rest ih =>
    rw [List.flatMap_append, flatMap_source_pieces, List.flatMap_cons, ih]
    simp [Piece.source, List.intercalate_cons_cons]

/-- The pieces of a field have its property path. -/
lemma QueryField.filterMap_path?_pieces (field : QueryField) :
    field.pieces.filterMap Piece.path? = [field.path] := by
  rw [pieces, List.filterMap_append, filterMap_path?_char]
  rfl

/-- The pieces of some fields have the property paths of the fields. -/
lemma QueryField.filterMap_path?_joined (fields : List QueryField) :
    (joined fields).filterMap Piece.path? = fields.map QueryField.path := by
  fun_induction joined fields with
  | case1 => rfl
  | case2 field => exact field.filterMap_path?_pieces
  | case3 field next rest ih =>
    rw [List.filterMap_append, filterMap_path?_pieces, List.filterMap_cons_none rfl, ih]
    rfl

/-- The pieces of proper fields are read as they are meant. -/
lemma QueryField.proper_of_mem_joined (h : ∀ field ∈ fields, field.Proper) :
    ∀ piece ∈ joined fields, piece.Proper := by
  have hpieces : ∀ field : QueryField, field.Proper → ∀ piece ∈ field.pieces, piece.Proper := by
    intro field hfield piece hpiece
    simp only [pieces, List.mem_append, List.mem_map, List.mem_cons, List.not_mem_nil,
      or_false] at hpiece
    rcases hpiece with ⟨c, hc, rfl⟩ | rfl | rfl
    · have hunreserved := hfield.unreserved c hc
      constructor <;> rintro rfl <;> revert hunreserved <;> decide
    · exact ⟨by decide, by decide⟩
    · exact hfield.spelled
  fun_induction joined fields with
  | case1 => exact List.forall_mem_nil _
  | case2 field => exact hpieces field (h field (List.mem_singleton_self field))
  | case3 field next rest ih =>
    obtain ⟨hfield, hrest⟩ := List.forall_mem_cons.1 h
    intro piece hpiece
    rcases List.mem_append.1 hpiece with hpiece | hpiece
    · exact hpieces field hfield piece hpiece
    · rcases List.mem_cons.1 hpiece with rfl | hpiece
      · exact ⟨by decide, by decide⟩
      · exact ih hrest piece hpiece

/-- A field is filled with the next text. -/
lemma QueryField.fillPieces_pieces_append (field : QueryField) (rest : List Piece)
    (values : List String) :
    fillPieces (field.pieces ++ rest) values =
      field.name.toList ++ '=' :: (values.headD "").toList ++ fillPieces rest values.tail := by
  rw [pieces, List.append_assoc, fillPieces_char_append]
  simp [fillPieces]

/-- Fields that are filled with encoded texts are a query string.

**Proof sketch.** Induction on the fields.  Each takes the next text, and its name stands for
itself. -/
lemma QueryField.fillPieces_joined (h : ∀ field ∈ fields, field.Proper) {texts : List String}
    (hlength : fields.length = texts.length) :
    fillPieces (joined fields) (texts.map Percent.encode) =
      Form.write ((fields.map QueryField.name).zip texts) := by
  have hfield : ∀ field : QueryField, field.Proper → ∀ text : String,
      field.name.toList ++ '=' :: (Percent.encode text).toList =
        Form.writeField (field.name, text) := by
    intro field hproper text
    rw [Form.writeField, Percent.encodeChars_of_isUnreserved hproper.unreserved,
      Percent.toList_encode]
  fun_induction joined fields generalizing texts with
  | case1 =>
    obtain rfl := List.length_eq_zero_iff.1 hlength.symm
    rfl
  | case2 field =>
    obtain ⟨text, rfl⟩ := List.length_eq_one_iff.1 hlength.symm
    have hproper := h field (List.mem_singleton_self field)
    rw [← List.append_nil field.pieces, fillPieces_pieces_append]
    simp [fillPieces, hfield field hproper, Form.write]
  | case3 field next rest ih =>
    obtain ⟨hproper, hrest⟩ := List.forall_mem_cons.1 h
    obtain _ | ⟨text, texts⟩ := texts
    · cases hlength
    have hlengths : (next :: rest).length = texts.length := by simpa using hlength
    obtain ⟨second, others, rfl⟩ : ∃ second others, texts = second :: others :=
      List.exists_cons_of_length_pos (by simp [← hlengths])
    rw [fillPieces_pieces_append, List.map_cons, List.headD_cons, List.tail_cons, fillPieces,
      ih hrest hlengths, hfield field hproper]
    simp [Form.write, List.intercalate_cons_cons]

/-- **What a pattern with a query string is compiled to**: its placeholders are the property paths
of the fields, and with encoded texts it is filled to the text in front and the query string of
these texts. -/
theorem template_queryPattern {name base : String}
    (hbase : ∀ c ∈ base.toList, c ≠ '\x7b' ∧ c ≠ '\x7d')
    (hproper : ∀ field ∈ fields, field.Proper) {template : Template}
    (hcompiles : (queryPattern name base fields).template = .ok template) :
    template.placeholders.map Placeholder.path = fields.map QueryField.path ∧
      ∀ texts : List String, fields.length = texts.length →
        (template.fill (texts.map Percent.encode)).toList =
          base.toList ++ '?' :: Form.write ((fields.map QueryField.name).zip texts) := by
  let all := base.toList.map Piece.char ++ Piece.char '?' :: QueryField.joined fields
  have hall : ∀ piece ∈ all, piece.Proper := by
    intro piece hpiece
    simp only [all, List.mem_append, List.mem_map, List.mem_cons] at hpiece
    rcases hpiece with ⟨c, hc, rfl⟩ | rfl | hpiece
    · exact hbase c hc
    · exact ⟨by decide, by decide⟩
    · exact QueryField.proper_of_mem_joined hproper piece hpiece
  have hsource : (queryPattern name base fields).text.toList = all.flatMap Piece.source := by
    simp [all, queryPattern, flatMap_source_char, QueryField.flatMap_source_joined, Piece.source]
  obtain ⟨hpaths, hfill⟩ := eq_pieces_of_compile hall hsource hcompiles
  refine ⟨?_, fun texts hlength => ?_⟩
  · rw [hpaths, List.filterMap_append, filterMap_path?_char, List.filterMap_cons_none rfl,
      QueryField.filterMap_path?_joined, List.nil_append]
  · rw [hfill, fillPieces_char_append, fillPieces, QueryField.fillPieces_joined hproper hlength]

end Pieces

/-! ## Parameters of query strings -/

/-- A query string that is written begins with no question mark. -/
lemma withoutMark_write (fields : List (String × String)) :
    Parameters.withoutMark (Form.write fields) = Form.write fields := by
  cases fields with
  | nil => rfl
  | cons field rest =>
    have hmark : '?' ∉ Form.writeField field := by
      have hencoded : ∀ text, '?' ∉ Percent.encodeChars text :=
        Percent.notMem_encodeChars (by decide) (by decide)
      simp [Form.writeField, hencoded]
    obtain ⟨c, more, hfield⟩ : ∃ c more, Form.writeField field = c :: more :=
      List.exists_cons_of_ne_nil (by simp [Form.writeField])
    obtain ⟨later, hwrite⟩ : ∃ later, Form.write (field :: rest) = c :: later := by
      cases rest with
      | nil => exact ⟨more, by simp [Form.write, hfield]⟩
      | cons next rest => exact ⟨_, by simp [Form.write, List.intercalate_cons_cons, hfield]; rfl⟩
    have hne : c ≠ '?' := by
      rintro rfl
      exact hmark (hfield ▸ List.mem_cons_self)
    rw [hwrite]
    unfold Parameters.withoutMark
    split
    · next heq => exact absurd (List.cons.inj heq).1 hne
    · rfl

/-- The parameters of a written query string are its fields, and none of the body. -/
theorem ofQuery_write (fields : List (String × String)) :
    Parameters.ofQuery (String.ofList (Form.write fields)) =
      ⟨.ofList (fields.map fun field => (field.1, .string field.2)), .empty⟩ := by
  rw [Parameters.ofQuery, String.toList_ofList, withoutMark_write, Form.pairs_write]

namespace RequestSpec

variable {spec : RequestSpec}

/-- Assignments to the query string are written over it, and assignments to the body leave it. -/
lemma query_parameters {get : List (String × Json)} (hget : readAssignments spec.get = .ok get)
    {parameters : Parameters} (h : spec.parameters = .ok parameters) :
    parameters.query = (Parameters.ofQuery spec.query).query.overlay get := by
  have hquery : ∀ (news : List (String × Json)) (base : Parameters),
      (news.foldl (fun acc field => acc.withQuery field.1 field.2) base).query =
        base.query.overlay news := by
    intro news
    induction news with
    | nil => intro base; rfl
    | cons new rest ih => intro base; exact ih _
  have hbody : ∀ (news : List (String × Json)) (base : Parameters),
      (news.foldl (fun acc field => acc.withBody field.1 field.2) base).query =
        base.query := by
    intro news
    induction news with
    | nil => intro base; rfl
    | cons new rest ih => intro base; exact ih _
  obtain ⟨get', hget', hpost⟩ := bind_eq_ok.1 h
  obtain ⟨post, -, hparameters⟩ := bind_eq_ok.1 hpost
  rw [hget] at hget'
  rw [← Except.ok.inj hparameters, hbody, hquery, ← Except.ok.inj hget']

/-- What is known about a request has the parameters of the request. -/
lemma parameters_knowledge {knowledge : Knowledge} (h : spec.knowledge = .ok knowledge) :
    ∃ parameters, spec.parameters = .ok parameters ∧ knowledge.parameters = some parameters := by
  obtain ⟨parameters, hparameters, hfacts⟩ := bind_eq_ok.1 h
  obtain ⟨base, -, hidentity⟩ := bind_eq_ok.1 hfacts
  obtain ⟨identity, -, hknowledge⟩ := bind_eq_ok.1 hidentity
  exact ⟨parameters, hparameters, by rw [← Except.ok.inj hknowledge]⟩

/-- **The query string gives what no assignment overrides.** -/
theorem get?_parameters {parameters : Parameters} (h : spec.parameters = .ok parameters)
    {name : String}
    (hname : ∀ input ∈ spec.get, ∀ value, parseAssignment input ≠ .ok (name, value)) :
    parameters.get? name .get = (Parameters.ofQuery spec.query).query.get? name := by
  obtain ⟨get, hget, -⟩ := bind_eq_ok.1 h
  have hnone : (Dict.ofList get).get? name = none := by
    refine Dict.get?_ofList_eq_none.2 fun assignment hmem heq => ?_
    obtain ⟨input, hinput, hparse⟩ := exists_mem_of_forall₂ (readAssignments_eq_ok.1 hget).flip hmem
    exact hname input hinput assignment.2 (heq ▸ hparse)
  rw [Parameters.get?, query_parameters hget h, Dict.get?_overlay, hnone, Option.none_or]

end RequestSpec

/-! ## Built URLs -/

/-- **The values of a built URL are read back from its query string.**  Let a pattern be a text
without question marks and braces, then a question mark, and then fields with distinct names that
need no encoding; and let it compile, which it does unless there are so many fields that its matcher
is too large.  If the property path of every field leads to a scalar, then the URL is built;
what follows its first question mark is read as the names with the texts of the scalars, and
nothing else; and a request with the URL as its path has these texts under all names that no
assignment overrides.

**Proof sketch.** The template is filled with encoded texts, so the query string is written as a
form is, and every field of it is read back. -/
theorem queryPattern_read_back {name base : String} {fields : List QueryField} {params : Json}
    {template : Template} (hcompiles : (queryPattern name base fields).template = .ok template)
    (hbase : ∀ c ∈ base.toList, c ≠ '?' ∧ c ≠ '\x7b' ∧ c ≠ '\x7d')
    (hproper : ∀ field ∈ fields, field.Proper)
    (hdistinct : (fields.map QueryField.name).Nodup)
    (hscalars : ∀ field ∈ fields, ∃ text, field.path.Reads params text) :
    ∃ texts url query,
      List.Forall₂ (fun field text => field.path.Reads params text) fields texts ∧
      (queryPattern name base fields).build params true = .ok url ∧
      splitFirst? '?' url.toList = some (base.toList, query.toList) ∧
      (Parameters.ofQuery query).body = .empty ∧
      (Parameters.ofQuery query).query.entries.Perm
        ((fields.map QueryField.name).zip (texts.map Json.string)) ∧
      ∀ spec : RequestSpec, spec.path = url → spec.Acceptable →
        ∃ knowledge parameters, spec.knowledge = .ok knowledge ∧
          knowledge.parameters = some parameters ∧
          ∀ entry ∈ (fields.map QueryField.name).zip texts,
            (∀ input ∈ spec.get, ∀ value, parseAssignment input ≠ .ok (entry.1, value)) →
            parameters.get? entry.1 .get = some (.string entry.2) := by
  obtain ⟨hpaths, hfill⟩ := template_queryPattern (fun c hc => (hbase c hc).2) hproper hcompiles
  obtain ⟨texts, hreads⟩ := exists_forall₂.2 hscalars
  have hlength : fields.length = texts.length := hreads.length_eq
  have hplaceholders : List.Forall₂ (fun placeholder text => placeholder.path.Reads params text)
      template.placeholders texts := by
    have hpaths' := List.forall₂_map_left_iff (f := QueryField.path)
      (R := fun path text => path.Reads params text) |>.2 hreads
    rw [← hpaths] at hpaths'
    exact List.forall₂_map_left_iff.1 hpaths'
  let written := (fields.map QueryField.name).zip texts
  -- the base has no question mark, so the query string begins where the pattern has it
  have hurl := hfill texts hlength
  have hnames : (written.map fun field => (field.1, Json.string field.2)).map Prod.fst =
      fields.map QueryField.name := by
    rw [List.map_map]
    exact List.map_fst_zip (by simp [hlength])
  have hsplit : splitFirst? '?' (template.fill (texts.map Percent.encode)).toList =
      some (base.toList, Form.write written) := by
    rw [hurl]
    exact splitFirst?_append_cons (fun hmem => (hbase '?' hmem).1 rfl) _
  refine ⟨texts, template.fill (texts.map Percent.encode), String.ofList (Form.write written),
    hreads, ?_, ?_, ?_, ?_, ?_⟩
  · exact UrlPattern.build_eq_fill hcompiles hplaceholders
  · rw [hsplit, String.toList_ofList]
  · rw [ofQuery_write]
  · rw [ofQuery_write, List.zip_map_right]
    exact Fields.ofList_perm (hnames ▸ hdistinct)
  · rintro spec hpath hspec
    obtain ⟨knowledge, hknowledge, -⟩ := hspec.exists_knowledge
    obtain ⟨parameters, hparameters, hsome⟩ := RequestSpec.parameters_knowledge hknowledge
    refine ⟨knowledge, parameters, hknowledge, hsome, fun entry hentry hname => ?_⟩
    have hquery : spec.query = String.ofList (Form.write written) := by
      rw [RequestSpec.query, hpath, hsplit]
    have hmem : (entry.1, Json.string entry.2) ∈
        written.map fun field => (field.1, Json.string field.2) := List.mem_map_of_mem hentry
    rw [RequestSpec.get?_parameters hparameters hname, hquery, ofQuery_write,
      Dict.get?_ofList (hnames ▸ hdistinct), Fields.get?_of_mem (hnames ▸ hdistinct) hmem]

/-- The fields of a search form. -/
def searchFields : List QueryField :=
  [⟨"q", ⟨["text"]⟩⟩, ⟨"page.size", ⟨["page", "size"]⟩⟩, ⟨"~", ⟨["mark"]⟩⟩]

/-- Parameters for a search: a text with separators, blanks and escapes of its own, a number, and
an empty text. -/
def searchParameters : Json :=
  .object [("mark", .string ""), ("page", .object [("size", .int 20)]),
    ("text", .string "a&b=c + 100%41 #é")]

/-- A request for the search, with a size of its own. -/
def searchRequest : RequestSpec where
  method := "GET"
  path := "/search?q=a%26b%3Dc%20%2B%20100%2541%20%23%C3%A9&page.size=20&~="
  extraPath := none
  get := ["page.size=50"]
  post := []
  facts := []
  user := none
  groups := []

/-- The search is read back; but the request has a size of its own. -/
theorem queryPattern_read_back_searchFields :
    (∃ template, (queryPattern "search" "/search" searchFields).template = .ok template) ∧
    (∀ c ∈ "/search".toList, c ≠ '?' ∧ c ≠ '\x7b' ∧ c ≠ '\x7d') ∧
    (∀ field ∈ searchFields, field.Proper) ∧ (searchFields.map QueryField.name).Nodup ∧
    (queryPattern "search" "/search" searchFields).build searchParameters true =
      .ok searchRequest.path ∧
    (∃ query, splitFirst? '?' searchRequest.path.toList = some ("/search".toList, query.toList) ∧
      (Parameters.ofQuery query).body = .empty ∧
      (Parameters.ofQuery query).query.entries.Perm
        [("q", .string "a&b=c + 100%41 #é"), ("page.size", .string "20"), ("~", .string "")]) ∧
    searchRequest.Acceptable ∧
    ∃ knowledge parameters, searchRequest.knowledge = .ok knowledge ∧
      knowledge.parameters = some parameters ∧
      parameters.get? "q" .get = some (.string "a&b=c + 100%41 #é") ∧
      parameters.get? "~" .get = some (.string "") := by
  obtain ⟨template, hcompiles⟩ :
      ∃ template, (queryPattern "search" "/search" searchFields).template = .ok template := ⟨_, rfl⟩
  have hbase : ∀ c ∈ "/search".toList, c ≠ '?' ∧ c ≠ '\x7b' ∧ c ≠ '\x7d' := by simp
  have hproper : ∀ field ∈ searchFields, field.Proper := by
    simp only [searchFields, List.forall_mem_cons]
    exact ⟨⟨List.all_eq_true.1 (by decide), by decide⟩, ⟨List.all_eq_true.1 (by decide), by decide⟩,
      ⟨List.all_eq_true.1 (by decide), by decide⟩, List.forall_mem_nil _⟩
  have hdistinct : (searchFields.map QueryField.name).Nodup := by decide
  have hexpected : List.Forall₂ (fun field text => field.path.Reads searchParameters text)
      searchFields ["a&b=c + 100%41 #é", "20", ""] :=
    .cons ⟨_, rfl, rfl⟩ <| .cons ⟨_, rfl, rfl⟩ <| .cons ⟨_, rfl, rfl⟩ .nil
  have hbuilt : (queryPattern "search" "/search" searchFields).build searchParameters true =
      .ok searchRequest.path := by rfl
  have hacceptable : searchRequest.Acceptable :=
    ⟨List.forall_mem_singleton.2 ⟨_, rfl⟩, List.forall_mem_nil _, List.forall_mem_nil _,
      fun _ => rfl⟩
  obtain ⟨texts, url, query, hreads, hbuild, hsplit, hbody, hfields, hrequest⟩ :=
    queryPattern_read_back hcompiles hbase hproper hdistinct (exists_forall₂.1 ⟨_, hexpected⟩)
  obtain rfl : texts = ["a&b=c + 100%41 #é", "20", ""] :=
    List.right_unique_forall₂' (fun _ _ _ h h' => h.text_eq h') hreads hexpected
  obtain rfl : url = searchRequest.path := Except.ok.inj (hbuild.symm.trans hbuilt)
  obtain ⟨knowledge, parameters, hknowledge, hparameters, hvalues⟩ :=
    hrequest searchRequest rfl hacceptable
  have hassignment : ∀ name, name ≠ "page.size" → ∀ input ∈ searchRequest.get, ∀ value,
      parseAssignment input ≠ .ok (name, value) := by
    intro name hname input hinput value hparse
    obtain rfl := List.mem_singleton.1 hinput
    cases hparse
    exact hname rfl
  exact ⟨⟨template, hcompiles⟩, hbase, hproper, hdistinct, hbuild, ⟨query, hsplit, hbody, hfields⟩,
    hacceptable, knowledge, parameters, hknowledge, hparameters,
    hvalues ("q", "a&b=c + 100%41 #é") (by simp [searchFields]) (hassignment _ (by decide)),
    hvalues ("~", "") (by simp [searchFields]) (hassignment _ (by decide))⟩

end RequestRouting
