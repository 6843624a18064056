import ToolPack.Proofs.Package.Headers

/-!
# Package headers can be decoded

Headers on lines of their own give back everything that was put into them.  The name of a field has
no colon in it, so a line falls apart at its first colon, whatever comes behind that; an extra has
its requirements right behind its name, so they are the lines up to the next field of another name;
and a requirement has its condition at its end, with a length that the name of the extra tells, so
it does not matter what the requirement itself looks like.

## What is here

* `Contents`, `contents`: what is rendered of a package;
* `decode?`: reads it back;
* `field?_fieldLine`, `extrasOf_fields`, `unconditional_conditional`: each step of the decoder
  undoes one of rendering;
* `extraLines`: the lines that name the extras;
* `render_is_decoded`: whatever is rendered is read back, so that no two packages look the same, and
  the extras are named in ascending order.
-/

set_option autoImplicit false

namespace ToolPack

namespace PkgInfo

/-! ## The decoder -/

/-- What the headers of a package and the text behind them tell. -/
structure Contents where
  name : String
  version : String
  description : String
  url : String
  author : String
  authorEmail : String
  pythonRequires : String
  extras : List (String × List String)
  contentType : String
  longDescription : String
  deriving DecidableEq, Repr

/-- What is rendered of a package. -/
def contents (m : Metadata) (longDescription : String) : Contents where
  name := m.name
  version := m.version
  description := m.description
  url := m.url
  author := m.author
  authorEmail := m.authorEmail
  pythonRequires := m.pythonRequires
  extras := m.extras.entries
  contentType := m.contentType
  longDescription := longDescription

/-- A line as a field: the name in front of the first colon, and the value behind the blank that
follows it. -/
def field? (line : String) : Option (String × String) :=
  match line.toList.dropWhile (· != ':') with
  | ':' :: ' ' :: value =>
    some (String.ofList (line.toList.takeWhile (· != ':')), String.ofList value)
  | _ => none

/-- A requirement without the condition that an extra puts behind it. -/
def unconditional (extra requirement : String) : String :=
  let condition := conditional extra ""
  String.ofList (requirement.toList.take
    (requirement.toList.length - condition.toList.length))

/-- The requirements at the front of fields. -/
def requirementsOf (extra : String) (fields : List (String × String)) : List String :=
  (fields.takeWhile (·.1 == "Requires-Dist")).map fun field => unconditional extra field.2

/-- The extras of fields, each with the requirements right behind its name. -/
def extrasOf : List (String × String) → List (String × List String)
  | [] => []
  | field :: fields =>
    if field.1 = "Provides-Extra" then (field.2, requirementsOf field.2 fields) :: extrasOf fields
    else extrasOf fields

/-- Reads what a text with headers tells. -/
def decode? (text : String) : Option Contents := do
  let (lines, longDescription) ← Text.cutAtEmptyLine text
  let fields := lines.filterMap field?
  let name ← fields.lookup "Name"
  let version ← fields.lookup "Version"
  let description ← fields.lookup "Summary"
  let url ← fields.lookup "Home-page"
  let author ← fields.lookup "Author"
  let authorEmail ← fields.lookup "Author-email"
  let pythonRequires ← fields.lookup "Requires-Python"
  let contentType ← fields.lookup "Description-Content-Type"
  return ⟨name, version, description, url, author, authorEmail, pythonRequires, extrasOf fields,
    contentType, longDescription⟩

/-- The lines that name extras. -/
def extraLines (text : String) : List String :=
  match Text.cutAtEmptyLine text with
  | none => []
  | some (lines, _) => lines.filter fun line => (field? line).any (·.1 == "Provides-Extra")

/-! ## Lines -/

/-- The line of a field is cut where it was joined. -/
theorem field?_fieldLine {field : String × String} (h : ':' ∉ field.1.toList) :
    field? (fieldLine field) = some field := by
  have hline : (fieldLine field).toList = field.1.toList ++ ':' :: ' ' :: field.2.toList := by
    simp [fieldLine]
  have hname : ∀ c ∈ field.1.toList, (c != ':') = true := fun c hc =>
    bne_iff_ne.mpr fun hcolon => h (hcolon ▸ hc)
  rw [field?, hline, List.dropWhile_append_of_pos hname, List.takeWhile_append_of_pos hname]
  simp

theorem field?_of_mem_fields {m : Metadata} {field : String × String} (h : field ∈ fields m) :
    field? (fieldLine field) = some field := by
  have hcolon : ∀ name ∈ fieldNames, ':' ∉ name.toList := by decide
  exact field?_fieldLine (hcolon _ (name_mem_fieldNames field h))

/-- The lines of a package are its fields again. -/
theorem filterMap_field? (m : Metadata) :
    ((fields m).map fieldLine).filterMap field? = fields m := by
  rw [List.filterMap_map]
  exact (List.filterMap_congr fun field => field?_of_mem_fields).trans List.filterMap_some

/-! ## Values -/

/-- A value is found under its name among those that are not an extra's. -/
theorem lookup_fields {key : String} (h : key ∉ ["Provides-Extra", "Requires-Dist"])
    (m : Metadata) :
    (fields m).lookup key
      = [("Metadata-Version", "2.1"), ("Name", m.name), ("Version", m.version),
          ("Summary", m.description), ("Home-page", m.url), ("Author", m.author),
          ("Author-email", m.authorEmail), ("Requires-Python", m.pythonRequires),
          ("Description-Content-Type", m.contentType)].lookup key := by
  have hextras : (m.extras.entries.flatMap extraFields).lookup key = none := by
    rw [List.lookup_eq_none_iff]
    intro field hfield
    obtain ⟨extra, -, hfield⟩ := List.mem_flatMap.mp hfield
    rw [bne_iff_ne]
    rintro rfl
    exact h (name_mem_of_mem_extraFields hfield)
  rw [fields, List.lookup_append, List.lookup_append, hextras, Option.or_none,
    ← List.lookup_append]
  rfl

/-! ## Extras -/

/-- A condition is taken off where it was put on, whatever the requirement looks like. -/
theorem unconditional_conditional (extra requirement : String) :
    unconditional extra (conditional extra requirement) = requirement := by
  have hsplit : (conditional extra requirement).toList
      = requirement.toList ++ (conditional extra "").toList := by
    simp [conditional]
  rw [unconditional, hsplit, List.length_append, Nat.add_sub_cancel, List.take_left,
    String.ofList_toList]

/-- Fields that name no extra have none. -/
theorem extrasOf_append {front : List (String × String)}
    (h : ∀ field ∈ front, field.1 ≠ "Provides-Extra") (fields : List (String × String)) :
    extrasOf (front ++ fields) = extrasOf fields := by
  induction front with
  | nil => rfl
  | cons field front ih =>
    obtain ⟨hfield, hfront⟩ := List.forall_mem_cons.mp h
    rw [List.cons_append, extrasOf, if_neg hfield, ih hfront]

/-- No requirement stands at the front of fields. -/
def StartsAfresh (fields : List (String × String)) : Prop :=
  fields.takeWhile (·.1 == "Requires-Dist") = []

theorem startsAfresh_flatMap {fields : List (String × String)} (h : StartsAfresh fields)
    (es : List (String × List String)) : StartsAfresh (es.flatMap extraFields ++ fields) := by
  cases es with
  | nil => exact h
  | cons e es => rfl

/-- An extra is read with all its requirements and no others. -/
theorem extrasOf_extraFields {fields : List (String × String)} (h : StartsAfresh fields)
    (extra : String × List String) :
    extrasOf (extraFields extra ++ fields) = extra :: extrasOf fields := by
  obtain ⟨name, requirements⟩ := extra
  let fieldOf := fun requirement => ("Requires-Dist", conditional name requirement)
  have hsplit : extraFields (name, requirements) ++ fields
      = ("Provides-Extra", name) :: (requirements.map fieldOf ++ fields) := rfl
  have hfields : ∀ field ∈ requirements.map fieldOf, field.1 = "Requires-Dist" := by
    simp [fieldOf]
  have hrequirements : requirementsOf name (requirements.map fieldOf ++ fields) = requirements := by
    -- The requirements end where the next field has another name.
    rw [requirementsOf, List.takeWhile_append_of_pos fun field hfield =>
      beq_iff_eq.mpr (hfields field hfield), h, List.append_nil, List.map_map]
    exact List.map_id'' (unconditional_conditional name) requirements
  have hrest : extrasOf (requirements.map fieldOf ++ fields) = extrasOf fields :=
    extrasOf_append (fun field hfield => by rw [hfields field hfield]; decide) fields
  rw [hsplit, extrasOf, if_pos rfl, hrequirements, hrest]

/-- Extras are read one after the other. -/
theorem extrasOf_flatMap {fields : List (String × String)} (h : StartsAfresh fields)
    (es : List (String × List String)) :
    extrasOf (es.flatMap extraFields ++ fields) = es ++ extrasOf fields := by
  induction es with
  | nil => rfl
  | cons e es ih =>
    rw [List.flatMap_cons, List.append_assoc, extrasOf_extraFields (startsAfresh_flatMap h es), ih]
    rfl

theorem extrasOf_fields (m : Metadata) : extrasOf (fields m) = m.extras.entries := by
  have hlast : StartsAfresh [("Description-Content-Type", m.contentType)] := rfl
  rw [fields, List.append_assoc, extrasOf_append (by simp), extrasOf_flatMap hlast]
  simp [extrasOf]

/-! ## What is read -/

/-- None of the texts that are rendered has a line feed in it. -/
def OneLined (m : Metadata) : Prop := ∀ text ∈ m.version :: freeTexts m, '\n' ∉ text.toList

instance (m : Metadata) : Decidable (OneLined m) :=
  inferInstanceAs (Decidable (∀ text ∈ m.version :: freeTexts m, '\n' ∉ text.toList))

theorem OneLined.cutAtEmptyLine {m : Metadata} (h : OneLined m) (longDescription : String) :
    Text.cutAtEmptyLine (render m longDescription)
      = some ((fields m).map fieldLine, longDescription) :=
  cutAtEmptyLine_render (forall_fieldLine_iff.mpr (List.forall_mem_cons.mp h)) longDescription

theorem OneLined.decode? {m : Metadata} (h : OneLined m) (longDescription : String) :
    PkgInfo.decode? (render m longDescription) = some (contents m longDescription) := by
  rw [PkgInfo.decode?, h.cutAtEmptyLine]
  simp only [Option.bind_eq_bind, Option.bind_some, filterMap_field?, extrasOf_fields]
  simp (disch := decide) only [lookup_fields]
  rfl

/-! ## The lines of the extras -/

/-- The fields that name extras. -/
theorem filter_fields (m : Metadata) :
    (fields m).filter (·.1 == "Provides-Extra")
      = m.extras.entries.map fun extra => ("Provides-Extra", extra.1) := by
  have hextra : ∀ extra, (extraFields extra).filter (·.1 == "Provides-Extra")
      = [("Provides-Extra", extra.1)] := by
    intro extra
    have hrequirements : ∀ field ∈ extra.2.map fun requirement =>
        ("Requires-Dist", conditional extra.1 requirement),
        ¬(field.1 == "Provides-Extra") = true := by
      simp
    exact congrArg (("Provides-Extra", extra.1) :: ·) (List.filter_eq_nil_iff.mpr hrequirements)
  rw [fields, List.filter_append, List.filter_append, List.filter_flatMap, funext hextra,
    ← List.map_eq_flatMap]
  simp

theorem OneLined.extraLines {m : Metadata} (h : OneLined m) (longDescription : String) :
    PkgInfo.extraLines (render m longDescription)
      = (m.extras.entries.map (·.1)).map (header "Provides-Extra") := by
  have hfilter : (fields m).filter
      ((fun line => (field? line).any (·.1 == "Provides-Extra")) ∘ fieldLine)
      = (fields m).filter (·.1 == "Provides-Extra") := by
    refine List.filter_congr fun field hfield => ?_
    rw [Function.comp_apply, field?_of_mem_fields hfield, Option.any_some]
  rw [PkgInfo.extraLines, h.cutAtEmptyLine]
  simp only [List.filter_map, hfilter, filter_fields, List.map_map]
  rfl

/-- Headers of one name are ordered as their values are. -/
theorem header_lt_header {key value value' : String} (h : value < value') :
    header key value < header key value' := by
  show (key ++ ": " ++ value).toList < (key ++ ": " ++ value').toList
  simp only [String.toList_append]
  exact List.append_left_lt h

/-- **Whatever is rendered of a package is read back.**  If no text that is rendered has a line feed
in it, a decoder finds the long description and every field again, the extras with their
requirements in order among them.  So what two such packages render to is different unless they
agree in all of this.  The lines that name the extras are in strictly ascending order, and whatever
the order in which extras were declared, they are the lines of those that were. -/
theorem render_is_decoded {m : Metadata} (h : OneLined m) (longDescription : String) :
    decode? (render m longDescription) = some (contents m longDescription)
      ∧ (∀ m' longDescription', OneLined m' →
          (render m longDescription = render m' longDescription'
            ↔ contents m longDescription = contents m' longDescription'))
      ∧ (extraLines (render m longDescription)).Pairwise (· < ·)
      ∧ ∀ declared, m.extras = Extras.ofList declared → ∀ line,
          line ∈ extraLines (render m longDescription)
            ↔ ∃ extra ∈ declared, line = header "Provides-Extra" extra.1 := by
  refine ⟨h.decode? longDescription,
    fun m' longDescription' h' => ⟨fun hsame => ?_, fun hsame => ?_⟩,
    ?_, fun declared hdeclared line => ?_⟩
  · have hdecoded := h.decode? longDescription
    rw [hsame, h'.decode? longDescription'] at hdecoded
    exact (Option.some.inj hdecoded).symm
  · simp only [contents, Contents.mk.injEq] at hsame
    obtain ⟨hname, hversion, hdescription, hurl, hauthor, hemail, hpython, hextras, htype, hbody⟩ :=
      hsame
    simp only [render, headers, hname, hversion, hdescription, hurl, hauthor, hemail, hpython,
      hextras, htype, hbody]
  · rw [h.extraLines, List.pairwise_map, List.pairwise_map]
    exact m.extras.ascending.imp header_lt_header
  · rw [h.extraLines, hdeclared, List.mem_map]
    simp only [Extras.mem_map_ofList]
    simp [eq_comm]

/-- A package whose description looks like a header, whose first extra has a colon and a quote in
its name and no requirements, and whose second one has a requirement that looks as if it had a
condition already; its long description starts with empty lines and goes on with a header. -/
theorem imitation_is_decoded :
    let m : Metadata := { Package.kitMetadata with
      description := "Name: other",
      extras := Extras.ofList [("test", ["tox; extra == \"doc\"", "pytest"]), ("a: b\"", [])] }
    let longDescription := "\n\nProvides-Extra: none\n"
    OneLined m
      ∧ decode? (render m longDescription) = some (contents m longDescription)
      ∧ (extraLines (render m longDescription)).Pairwise (· < ·)
      ∧ "Provides-Extra: a: b\"" ∈ extraLines (render m longDescription) := by
  intro m longDescription
  have h : OneLined m := by decide +kernel
  obtain ⟨hdecoded, -, hordered, hlines⟩ := render_is_decoded h longDescription
  exact ⟨h, hdecoded, hordered, (hlines _ rfl _).mpr ⟨("a: b\"", []), by decide, rfl⟩⟩

end PkgInfo
end ToolPack
