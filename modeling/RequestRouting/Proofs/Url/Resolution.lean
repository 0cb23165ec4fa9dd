import RequestRouting.Proofs.Url.Build
import RequestRouting.Proofs.Url.Written

/-!
# Where property paths lead

A property path leads through a bag of parameters, by key through objects and by index through
arrays.  It leads to a scalar, it leads to a container, or there is a first name on it that leads
nowhere or to null.  A URL is built if all paths of a pattern lead to scalars, and the leftmost one
that does not is reported.

## Main definitions

* `Json.Child`, `Json.Leads` — one step from a value, and the steps along a list of names.
* `Resolution`, `PropertyPath.Resolves` — where a property path leads in a bag of parameters.

## Main results

* `PropertyPath.existsUnique_resolves` — a property path with a name leads to one end.
* `PropertyPath.Resolves.resolve_eq` — it is resolved to this end.
* `UrlPattern.build_resolves` — when a URL is built, and what is reported if it is not.
-/

set_option autoImplicit false

namespace RequestRouting

/-! ## Steps -/

namespace Json

/-- A value has another one under a name: an object has what stands under its key, and an array has
what stands at the index that the name spells in decimal digits. -/
inductive Child : Json → String → Json → Prop where
  | key {fields : List (String × Json)} {name : String} {value : Json}
      (h : Fields.get? name fields = some value) : Child (.object fields) name value
  | index {items : List Json} {digits : List Char} {value : Json} (hsome : digits ≠ [])
      (hdigits : ∀ c ∈ digits, c.isDigit) (h : items[ofDigits digits]? = some value) :
    Child (.array items) (String.ofList digits) value

/-- Names lead from a value to another one, and none of them leads to null. -/
inductive Leads : Json → List String → Json → Prop where
  | here (value : Json) : Leads value [] value
  | step {value next target : Json} {name : String} {names : List String}
      (hchild : value.Child name next) (hnull : next ≠ .null) (h : Leads next names target) :
    Leads value (name :: names) target

/-- A value is null if it is found to be. -/
lemma isNull_iff {value : Json} : value.isNull = true ↔ value = .null := by
  cases value <;> simp [isNull]

end Json

/-- A number that is read from a text is spelled by its digits. -/
lemma readNatural?_eq_some {text : List Char} {n : Nat} :
    readNatural? text = some n ↔ text ≠ [] ∧ (∀ c ∈ text, c.isDigit) ∧ ofDigits text = n := by
  unfold readNatural?
  by_cases hnil : text = []
  · simp [hnil]
  · simp [hnil]

namespace PropertyPath

variable {value next target : Json} {name : String} {names : List String}

/-- One name leads to what the value has under it, unless that is null. -/
lemma stepInto_eq_some :
    stepInto value name = some next ↔ value.Child name next ∧ next ≠ .null := by
  simp only [stepInto, Option.filter_eq_some_iff, Bool.not_eq_true', ← Bool.not_eq_true,
    Json.isNull_iff]
  refine and_congr_left fun _ => ⟨fun h => ?_, fun h => ?_⟩
  · cases value with
    | object fields => exact .key h
    | array items =>
      obtain ⟨index, hindex, hitem⟩ := Option.bind_eq_some_iff.1 h
      obtain ⟨hsome, hdigits, rfl⟩ := readNatural?_eq_some.1 hindex
      have hchild := Json.Child.index hsome hdigits hitem
      rwa [String.ofList_toList] at hchild
    | null | bool | number | string => cases h
  · cases h with
    | key h => exact h
    | index hsome hdigits h =>
      have hindex := readNatural?_eq_some.2 ⟨hsome, hdigits, rfl⟩
      simp only [String.toList_ofList, hindex, Option.bind_some, h]

/-- Otherwise it leads nowhere. -/
lemma stepInto_eq_none :
    stepInto value name = none ↔ ∀ next, value.Child name next → next = .null := by
  simp only [Option.eq_none_iff_forall_ne_some, ne_eq, stepInto_eq_some, not_and, not_not]

/-- Names that can be followed to the end lead there. -/
lemma follow_eq_ok : follow value names = .ok target ↔ value.Leads names target := by
  constructor
  · intro h
    fun_induction follow value names with
    | case1 =>
      cases h
      exact .here target
    | case2 value name rest next hstep ih =>
      obtain ⟨hchild, hnull⟩ := stepInto_eq_some.1 hstep
      exact .step hchild hnull (ih h)
    | case3 => cases h
  · intro h
    induction h with
    | here => rfl
    | step hchild hnull _ ih =>
      rw [follow, stepInto_eq_some.2 ⟨hchild, hnull⟩]
      exact ih

/-- Names that cannot be followed to the end are followed up to the first that leads nowhere or to
null. -/
lemma follow_eq_error :
    follow value names = .error name ↔ ∃ before after reached, names = before ++ name :: after ∧
      value.Leads before reached ∧ ∀ next, reached.Child name next → next = .null := by
  constructor
  · intro h
    fun_induction follow value names with
    | case1 => cases h
    | case2 value first rest next hstep ih =>
      obtain ⟨before, after, reached, rfl, hleads, hlast⟩ := ih h
      obtain ⟨hchild, hnull⟩ := stepInto_eq_some.1 hstep
      exact ⟨first :: before, after, reached, rfl, .step hchild hnull hleads, hlast⟩
    | case3 value first rest hstep =>
      cases h
      exact ⟨[], rest, value, rfl, .here value, stepInto_eq_none.1 hstep⟩
  · rintro ⟨before, after, reached, rfl, hleads, hlast⟩
    induction hleads with
    | here => rw [List.nil_append, follow, stepInto_eq_none.2 hlast]
    | step hchild hnull _ ih =>
      rw [List.cons_append, follow, stepInto_eq_some.2 ⟨hchild, hnull⟩]
      exact ih hlast

end PropertyPath

/-! ## Ends of property paths -/

/-- Where a property path leads. -/
inductive Resolution where
  /-- To a scalar, which has a text. -/
  | scalar (text : String)
  /-- Nowhere, or to null, from this name on. -/
  | missing (name : String)
  /-- To an array or an object. -/
  | container

/-- What a placeholder comes to: the text of a scalar, or an error that names the pattern and the
property path, and the first name without a value if there is one. -/
def Resolution.result (resolution : Resolution) (pattern : String) (path : PropertyPath) :
    Except UrlError String :=
  match resolution with
  | .scalar text => .ok text
  | .missing name => .error (.missingParameter pattern path.text name)
  | .container => .error (.unprintableParameter pattern path.text)

namespace PropertyPath

/-- Where a property path leads in a bag of parameters. -/
inductive Resolves (path : PropertyPath) (params : Json) : Resolution → Prop where
  | string {text : String} (h : params.Leads path.names (.string text)) :
    Resolves path params (.scalar text)
  | number {number : Number} (h : params.Leads path.names (.number number)) :
    Resolves path params (.scalar number.text)
  | bool {value : Bool} (h : params.Leads path.names (.bool value)) :
    Resolves path params (.scalar (if value then "true" else "false"))
  | array {items : List Json} (h : params.Leads path.names (.array items)) :
    Resolves path params .container
  | object {fields : List (String × Json)} (h : params.Leads path.names (.object fields)) :
    Resolves path params .container
  /-- All names in front of this one lead on, and this one leads nowhere or to null. -/
  | missing {before after : List String} {name : String} {reached : Json}
      (hnames : path.names = before ++ name :: after) (h : params.Leads before reached)
      (hlast : ∀ next, reached.Child name next → next = .null) :
    Resolves path params (.missing name)

variable {path : PropertyPath} {params : Json} {resolution : Resolution} {text : String}

/-- A property path is resolved to where it leads. -/
lemma Resolves.resolve_eq (h : path.Resolves params resolution) (pattern : String) :
    path.resolve pattern params = resolution.result pattern path := by
  unfold resolve
  cases h with
  | string h | number h | bool h | array h | object h =>
    rw [follow_eq_ok.2 h]
    rfl
  | missing hnames h hlast =>
    rw [follow_eq_error.2 ⟨_, _, _, hnames, h, hlast⟩]
    rfl

/-- Names do not lead to null, if there are any. -/
lemma ne_null_of_leads {value target : Json} {names : List String} (h : value.Leads names target)
    (hnames : names ≠ []) : target ≠ .null := by
  induction h with
  | here => exact absurd rfl hnames
  | @step _ _ _ _ names _ hnull h ih =>
    cases h with
    | here => exact hnull
    | step => exact ih (List.cons_ne_nil _ _)

/-- **A property path with a name leads to one end**, in every bag of parameters. -/
theorem existsUnique_resolves (hnames : path.names ≠ []) (params : Json) :
    ∃! resolution, path.Resolves params resolution := by
  have hexists : ∃ resolution, path.Resolves params resolution := by
    cases hfollow : follow params path.names with
    | error name =>
      obtain ⟨before, after, reached, hsplit, hleads, hlast⟩ := follow_eq_error.1 hfollow
      exact ⟨.missing name, .missing hsplit hleads hlast⟩
    | ok target =>
      have hleads := follow_eq_ok.1 hfollow
      cases target with
      | null => exact absurd rfl (ne_null_of_leads hleads hnames)
      | bool value => exact ⟨_, .bool hleads⟩
      | number number => exact ⟨_, .number hleads⟩
      | string text => exact ⟨_, .string hleads⟩
      | array items => exact ⟨_, .array hleads⟩
      | object fields => exact ⟨_, .object hleads⟩
  obtain ⟨resolution, h⟩ := hexists
  refine ⟨resolution, h, fun other hother => ?_⟩
  -- Different ends come to different results.
  have hresult := (hother.resolve_eq "").symm.trans (h.resolve_eq "")
  cases other <;> cases resolution <;> simp_all [Resolution.result]

/-- A text is found where a property path leads to a scalar. -/
lemma resolve_eq_ok_iff (hnames : path.names ≠ []) {pattern : String} :
    path.resolve pattern params = .ok text ↔ path.Resolves params (.scalar text) := by
  constructor
  · intro hresolve
    obtain ⟨resolution, h, -⟩ := existsUnique_resolves hnames params
    rw [h.resolve_eq] at hresolve
    cases resolution <;> cases hresolve
    exact h
  · exact fun h => h.resolve_eq pattern

/-- An error is reported where it leads anywhere else. -/
lemma resolve_eq_error_iff (hnames : path.names ≠ []) {pattern : String} {e : UrlError} :
    path.resolve pattern params = .error e ↔
      (∃ name, path.Resolves params (.missing name) ∧
        e = .missingParameter pattern path.text name) ∨
      path.Resolves params .container ∧ e = .unprintableParameter pattern path.text := by
  constructor
  · intro hresolve
    obtain ⟨resolution, h, -⟩ := existsUnique_resolves hnames params
    rw [h.resolve_eq] at hresolve
    cases resolution with
    | scalar text => cases hresolve
    | missing name => exact .inl ⟨name, h, (Except.error.inj hresolve).symm⟩
    | container => exact .inr ⟨h, (Except.error.inj hresolve).symm⟩
  · rintro (⟨name, h, rfl⟩ | ⟨h, rfl⟩) <;> exact h.resolve_eq pattern

/-- Bags in which a property path leads to the same end give it the same result. -/
lemma resolve_congr (hnames : path.names ≠ []) {params' : Json}
    (h : ∀ resolution, path.Resolves params resolution ↔ path.Resolves params' resolution)
    (pattern : String) : path.resolve pattern params = path.resolve pattern params' := by
  obtain ⟨resolution, hresolves, -⟩ := existsUnique_resolves hnames params
  rw [hresolves.resolve_eq, ((h resolution).1 hresolves).resolve_eq]

/-- A property path that is written between braces has a name. -/
lemma Spelled.names_ne_nil (h : path.Spelled) : path.names ≠ [] := by
  unfold Spelled Template.readPath at h
  split at h
  · cases h
  · cases hread : (splitOnChar '.' path.text.toList).mapM Template.readName with
    | error fault =>
      rw [hread] at h
      cases h
    | ok names =>
      rw [hread] at h
      obtain rfl : PropertyPath.mk names = path := Except.ok.inj h
      rintro rfl
      exact splitOnChar_ne_nil _ _ (List.forall₂_nil_right_iff.1 (mapM_eq_ok.1 hread))

end PropertyPath

/-! ## Patterns -/

/-- The error of the leftmost placeholder that does not lead to a scalar is reported. -/
lemma Template.resolve_eq_error {template : Template} {params : Json} {pattern : String}
    {e : UrlError} (hnames : ∀ placeholder ∈ template.placeholders, placeholder.path.names ≠ []) :
    template.resolve pattern params = .error e ↔
      ∃ before placeholder after, template.placeholders = before ++ placeholder :: after ∧
        (∀ earlier ∈ before, ∃ text, earlier.path.Resolves params (.scalar text)) ∧
        ((∃ name, placeholder.path.Resolves params (.missing name) ∧
            e = .missingParameter pattern placeholder.path.text name) ∨
          placeholder.path.Resolves params .container ∧
            e = .unprintableParameter pattern placeholder.path.text) := by
  rw [resolve, mapM_eq_error]
  refine exists_congr fun before => exists_congr fun placeholder => exists_congr fun after =>
    and_congr_right fun hsplit => ?_
  rw [hsplit] at hnames
  refine and_congr (forall₂_congr fun earlier hearlier => exists_congr fun text => ?_) ?_
  · exact PropertyPath.resolve_eq_ok_iff (hnames earlier (List.mem_append_left _ hearlier))
  · exact PropertyPath.resolve_eq_error_iff (hnames placeholder (by simp))

namespace UrlPattern

variable {pattern : UrlPattern} {template : Template} {params : Json}

/-- The property paths of a pattern that compiles have names. -/
lemma names_ne_nil (hcompiles : pattern.template = .ok template) :
    ∀ placeholder ∈ template.placeholders, placeholder.path.names ≠ [] :=
  fun placeholder hplaceholder =>
    (Template.spelled_of_compile hcompiles placeholder hplaceholder).names_ne_nil

/-- A URL is built from the texts of the placeholders. -/
lemma build_eq_bind (hcompiles : pattern.template = .ok template) (params : Json) (escape : Bool) :
    pattern.build params escape = (template.resolve pattern.text params).bind fun texts =>
      .ok (template.fill (if escape then texts.map Percent.encode else texts)) := by
  rw [build, hcompiles]
  rfl

/-- A URL is built if all placeholders lead to scalars, and only then. -/
lemma exists_build_iff (hcompiles : pattern.template = .ok template) {escape : Bool} :
    (∃ url, pattern.build params escape = .ok url) ↔
      ∀ placeholder ∈ template.placeholders,
        ∃ text, placeholder.path.Resolves params (.scalar text) := by
  have hnames := names_ne_nil hcompiles
  constructor
  · rintro ⟨url, hbuild⟩ placeholder hplaceholder
    obtain ⟨template', texts, hcompiles', hreads, -⟩ := build_eq_ok.1 hbuild
    obtain rfl : template' = template := Except.ok.inj (hcompiles'.symm.trans hcompiles)
    obtain ⟨text, -, hread⟩ := exists_mem_of_forall₂ hreads hplaceholder
    exact ⟨text, (PropertyPath.resolve_eq_ok_iff (hnames placeholder hplaceholder)).1
      (hread.resolve_eq pattern.text)⟩
  · intro hscalars
    obtain ⟨texts, hreads⟩ := PropertyPath.exists_reads fun placeholder hplaceholder => by
      obtain ⟨text, h⟩ := hscalars placeholder hplaceholder
      exact ⟨text, PropertyPath.resolve_eq_ok.1 (h.resolve_eq pattern.text)⟩
    exact ⟨_, build_eq_ok.2 ⟨template, texts, hcompiles, hreads, rfl⟩⟩

/-- If no URL is built, then the error is that of the placeholders, whether texts are encoded or
not. -/
lemma build_eq_error_iff (hcompiles : pattern.template = .ok template) {escape : Bool}
    {e : UrlError} :
    pattern.build params escape = .error e ↔ template.resolve pattern.text params = .error e := by
  rw [build_eq_bind hcompiles]
  cases template.resolve pattern.text params <;> simp [Except.bind]

/-- **Building resolves exactly the placeholders.**  Let a pattern compile.  In every bag of
parameters each of its property paths leads to one end: to a scalar, to a container, or to a first
name that is absent or null.

A URL is built if and only if all of them lead to scalars.  Otherwise the error is about the
leftmost one that does not: it names the first name without a value, or it says that there is a
container.  Encoding plays no part in this; and two bags in which all property paths of the pattern
lead to the same ends give the same URL or the same error, whatever else is in them.

**Proof sketch.** The placeholders are resolved one after another up to the first error, and each is
resolved to where its path leads. -/
theorem build_resolves (hcompiles : pattern.template = .ok template) (params : Json) :
    (∀ placeholder ∈ template.placeholders,
      ∃! resolution, placeholder.path.Resolves params resolution) ∧
    (∀ escape, (∃ url, pattern.build params escape = .ok url) ↔
      ∀ placeholder ∈ template.placeholders,
        ∃ text, placeholder.path.Resolves params (.scalar text)) ∧
    (∀ escape e, pattern.build params escape = .error e ↔
      ∃ before placeholder after, template.placeholders = before ++ placeholder :: after ∧
        (∀ earlier ∈ before, ∃ text, earlier.path.Resolves params (.scalar text)) ∧
        ((∃ name, placeholder.path.Resolves params (.missing name) ∧
            e = .missingParameter pattern.text placeholder.path.text name) ∨
          placeholder.path.Resolves params .container ∧
            e = .unprintableParameter pattern.text placeholder.path.text)) ∧
    (∀ e, pattern.build params true = .error e ↔ pattern.build params false = .error e) ∧
    ∀ params', (∀ placeholder ∈ template.placeholders, ∀ resolution,
        placeholder.path.Resolves params resolution ↔
          placeholder.path.Resolves params' resolution) →
      ∀ escape, pattern.build params escape = pattern.build params' escape := by
  have hnames := names_ne_nil hcompiles
  refine ⟨?_, ?_, ?_, ?_, ?_⟩
  · exact fun placeholder hplaceholder =>
      PropertyPath.existsUnique_resolves (hnames placeholder hplaceholder) params
  · exact fun escape => exists_build_iff hcompiles
  · intro escape e
    rw [build_eq_error_iff hcompiles, Template.resolve_eq_error hnames]
  · intro e
    rw [build_eq_error_iff hcompiles, build_eq_error_iff hcompiles]
  · intro params' hsame escape
    have hresolve : template.resolve pattern.text params =
        template.resolve pattern.text params' :=
      mapM_congr fun placeholder hplaceholder =>
        PropertyPath.resolve_congr (hnames placeholder hplaceholder)
          (hsame placeholder hplaceholder) pattern.text
    rw [build_eq_bind hcompiles, build_eq_bind hcompiles, hresolve]

/-- A pattern with an index that is written with a zero in front. -/
def tagPattern : UrlPattern := ⟨"tag", "/\x7bowner.name\x7d/\x7btags.01\x7d/\x7bid\x7d"⟩

/-- The template of `tagPattern`. -/
def tagTemplate : Template where
  placeholders := [⟨1, ⟨["owner", "name"]⟩⟩, ⟨2, ⟨["tags", "01"]⟩⟩, ⟨3, ⟨["id"]⟩⟩]
  segments := [.literal "/", .slot 0, .literal "/", .slot 1, .literal "/", .slot 2]
  printFormat := "/%1$s/%2$s/%3$s"

/-- Parameters for `tagPattern` with two defects: the second tag is null, and the number is an
array. -/
def defectiveTags : Json :=
  .object [("id", .array [.int 7]), ("owner", .object [("name", .string "Ada")]),
    ("tags", .array [.string "new", .null])]

/-- The defect on the left is reported, with the name that leads to null. -/
theorem build_resolves_tagPattern :
    tagPattern.template = .ok tagTemplate ∧
    (∀ escape, ¬ ∃ url, tagPattern.build defectiveTags escape = .ok url) ∧
    (∀ escape, tagPattern.build defectiveTags escape =
      .error (.missingParameter tagPattern.text "tags.01" "01")) := by
  have hcompiles : tagPattern.template = .ok tagTemplate := by rfl
  obtain ⟨-, -, herror, -, -⟩ := build_resolves hcompiles defectiveTags
  have howner : (PropertyPath.mk ["owner", "name"]).Resolves defectiveTags (.scalar "Ada") :=
    .string (PropertyPath.follow_eq_ok.1 rfl)
  have hnames : (PropertyPath.mk ["tags", "01"]).names = ["tags"] ++ "01" :: [] := rfl
  have htags : (PropertyPath.mk ["tags", "01"]).Resolves defectiveTags (.missing "01") :=
    .missing hnames (PropertyPath.follow_eq_ok.1 rfl) (PropertyPath.stepInto_eq_none.1 rfl)
  have hreported (escape : Bool) : tagPattern.build defectiveTags escape =
      .error (.missingParameter tagPattern.text "tags.01" "01") :=
    (herror escape _).2 ⟨[⟨1, ⟨["owner", "name"]⟩⟩], ⟨2, ⟨["tags", "01"]⟩⟩,
      [⟨3, ⟨["id"]⟩⟩], rfl, List.forall_mem_singleton.2 ⟨"Ada", howner⟩, .inl ⟨"01", htags, rfl⟩⟩
  refine ⟨hcompiles, fun escape hsome => ?_, hreported⟩
  obtain ⟨url, hurl⟩ := hsome
  rw [hreported] at hurl
  cases hurl

end UrlPattern

end RequestRouting
