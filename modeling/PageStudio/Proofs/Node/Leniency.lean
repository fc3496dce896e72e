import PageStudio.Node.Content
import PageStudio.Proofs.Json.Object

/-!
# What contents forgive

The fields of contents, told in one table, and what an object is read as: every field by itself,
from the member of its name. A plain field counts as missing where its value has another shape, so
it never keeps an object from being read. A text or a list of items of another shape does.

## Main statements

* `Content.get_eq_value?`: what every field has that was read.
* `Content.exists_read_iff`: when an object is read.
* `Content.read_object_iff`: in an object whose texts are texts, the lists of items alone decide.
-/

namespace PageStudio

open Json

namespace Content

/-! ## Fields -/

/-- The shapes that the values of fields have. -/
inductive Shape where
  | text
  /-- A list of items. -/
  | items
  /-- A number, a truth value or a choice. -/
  | plain
deriving DecidableEq

/-- A field of contents. -/
structure Field where
  name : String
  shape : Shape
  Value : Type
  get : Content → Option Value
  read : Reader Value
  refuses_null : read .null = none
  takes_texts : shape = .text → ∀ s, ∃ a, read (.string (some s)) = some a

namespace Field

def ofText (name : String) (get : Content → Option String) : Field :=
  ⟨name, .text, String, get, Reader.text, rfl, fun _ s => ⟨s, rfl⟩⟩

def ofItems {α : Type} (name : String) (get : Content → Option (List α)) (read : Reader α) :
    Field := ⟨name, .items, List α, get, Reader.list read, rfl, nofun⟩

def ofPlain {α : Type} (name : String) (get : Content → Option α) (read : Reader α)
    (refuses_null : read .null = none) : Field :=
  ⟨name, .plain, α, get, read, refuses_null, nofun⟩

end Field

/-- The fields of contents, in the order of `fieldNames`. -/
def fields : List Field :=
  [.ofText "text" text, .ofText "htmlFor" htmlFor, .ofPlain "checked" checked Reader.flag rfl,
   .ofText "imageUrl" imageUrl, .ofText "buttonText" buttonText,
   .ofItems "dropdownOptions" dropdownOptions DropdownOption.read,
   .ofText "selectOptions" selectOptions, .ofText "placeholder" placeholder,
   .ofText "videoUrl" videoUrl, .ofText "mapQuery" mapQuery, .ofText "iconName" iconName,
   .ofPlain "progress" progress Reader.float rfl, .ofText "alertText" alertText,
   .ofPlain "alertType" alertType AlertType.read rfl,
   .ofItems "accordionItems" accordionItems AccordionItem.read, .ofItems "tabs" tabs Tab.read,
   .ofPlain "activeTab" activeTab Reader.word64 rfl, .ofItems "navLinks" navLinks NavLink.read,
   .ofItems "socialLinks" socialLinks SocialLink.read, .ofText "tableData" tableData,
   .ofText "listItems" listItems, .ofPlain "listType" listType ListType.read rfl,
   .ofText "quote" quote, .ofText "cite" cite, .ofPlain "rating" rating Reader.word32 rfl,
   .ofPlain "maxRating" maxRating Reader.word32 rfl,
   .ofItems "carouselImages" carouselImages CarouselImage.read, .ofText "formAction" formAction,
   .ofPlain "formMethod" formMethod FormMethod.read rfl, .ofText "formEnctype" formEnctype,
   .ofText "inputType" inputType, .ofText "inputName" inputName,
   .ofPlain "isRequired" isRequired Reader.flag rfl, .ofText "autocomplete" autocomplete,
   .ofText "legendText" legendText]

theorem map_name_fields : fields.map Field.name = fieldNames := rfl

theorem nodup_fieldNames : fieldNames.Nodup := by decide

theorem Field.eq_of_name_eq {f g : Field} (first : f ∈ fields) (second : g ∈ fields)
    (same : f.name = g.name) : f = g :=
  List.inj_on_of_nodup_map (map_name_fields ▸ nodup_fieldNames) first second same

theorem Field.name_mem {f : Field} (mem : f ∈ fields) : f.name ∈ fieldNames :=
  map_name_fields ▸ List.mem_map_of_mem mem

/-! ## Reading a field -/

namespace Field

/-- A field of a record, read. -/
def readIn (f : Field) (record : Fields) : Option (Option f.Value) :=
  match f.shape with
  | .plain => record.lenient f.name f.read
  | .text | .items => record.optional f.name f.read

/-- What a field has where its member has some value: nothing where the member is missing and
nothing where its value has another shape. -/
def value? (f : Field) (member : Option Json) : Option f.Value :=
  member.bind fun v =>
    match f.shape with
    | .plain => f.read v.sorted.toSource
    | .text | .items => f.read v.toSource

/-- Whether the member of a field is missing, `null` or of the shape of the field. -/
def fits (f : Field) (member : Option Json) : Bool := Reader.fits f.read member

/-- Only a plain field takes what does not fit, and it has nothing then. -/
theorem readIn_eq_some_iff (f : Field) {record : Fields} {member : Option Json}
    (here : record.get? f.name = member.map toSource) {x : Option f.Value} :
    f.readIn record = some x ↔ (f.shape = .plain ∨ f.fits member = true) ∧ x = f.value? member := by
  obtain ⟨name, shape, Value, get, read, refuses_null, takes_texts⟩ := f
  have strict : record.optional name read = some x ↔
      Reader.fits read member = true ∧ x = member.bind fun v => read v.toSource :=
    Fields.optional_eq_some_iff here refuses_null
  cases shape with
  | plain =>
    show record.lenient name read = some x ↔ _
    rw [Fields.lenient_eq here read, Option.some.injEq]
    exact ⟨fun same => ⟨.inl rfl, same.symm⟩, fun h => h.2.symm⟩
  | text => exact strict.trans (and_congr_left' (or_iff_right nofun).symm)
  | items => exact strict.trans (and_congr_left' (or_iff_right nofun).symm)

end Field

/-! ## Reading contents -/

variable {c : Content}

/-- Where a content was read, each of its fields was. -/
theorem exists_readIn_of_read {v : Source} (read : Content.read v = some c) :
    ∃ record, Fields.read? fieldNames v = some record ∧
      ∀ f ∈ fields, f.readIn record = some (f.get c) := by
  obtain ⟨record, found, read⟩ := exists_of_bind_eq_some read
  obtain ⟨text, text_read, read⟩ := exists_of_bind_eq_some read
  obtain ⟨htmlFor, htmlFor_read, read⟩ := exists_of_bind_eq_some read
  obtain ⟨checked, checked_read, read⟩ := exists_of_bind_eq_some read
  obtain ⟨imageUrl, imageUrl_read, read⟩ := exists_of_bind_eq_some read
  obtain ⟨buttonText, buttonText_read, read⟩ := exists_of_bind_eq_some read
  obtain ⟨dropdownOptions, dropdownOptions_read, read⟩ := exists_of_bind_eq_some read
  obtain ⟨selectOptions, selectOptions_read, read⟩ := exists_of_bind_eq_some read
  obtain ⟨placeholder, placeholder_read, read⟩ := exists_of_bind_eq_some read
  obtain ⟨videoUrl, videoUrl_read, read⟩ := exists_of_bind_eq_some read
  obtain ⟨mapQuery, mapQuery_read, read⟩ := exists_of_bind_eq_some read
  obtain ⟨iconName, iconName_read, read⟩ := exists_of_bind_eq_some read
  obtain ⟨progress, progress_read, read⟩ := exists_of_bind_eq_some read
  obtain ⟨alertText, alertText_read, read⟩ := exists_of_bind_eq_some read
  obtain ⟨alertType, alertType_read, read⟩ := exists_of_bind_eq_some read
  obtain ⟨accordionItems, accordionItems_read, read⟩ := exists_of_bind_eq_some read
  obtain ⟨tabs, tabs_read, read⟩ := exists_of_bind_eq_some read
  obtain ⟨activeTab, activeTab_read, read⟩ := exists_of_bind_eq_some read
  obtain ⟨navLinks, navLinks_read, read⟩ := exists_of_bind_eq_some read
  obtain ⟨socialLinks, socialLinks_read, read⟩ := exists_of_bind_eq_some read
  obtain ⟨tableData, tableData_read, read⟩ := exists_of_bind_eq_some read
  obtain ⟨listItems, listItems_read, read⟩ := exists_of_bind_eq_some read
  obtain ⟨listType, listType_read, read⟩ := exists_of_bind_eq_some read
  obtain ⟨quote, quote_read, read⟩ := exists_of_bind_eq_some read
  obtain ⟨cite, cite_read, read⟩ := exists_of_bind_eq_some read
  obtain ⟨rating, rating_read, read⟩ := exists_of_bind_eq_some read
  obtain ⟨maxRating, maxRating_read, read⟩ := exists_of_bind_eq_some read
  obtain ⟨carouselImages, carouselImages_read, read⟩ := exists_of_bind_eq_some read
  obtain ⟨formAction, formAction_read, read⟩ := exists_of_bind_eq_some read
  obtain ⟨formMethod, formMethod_read, read⟩ := exists_of_bind_eq_some read
  obtain ⟨formEnctype, formEnctype_read, read⟩ := exists_of_bind_eq_some read
  obtain ⟨inputType, inputType_read, read⟩ := exists_of_bind_eq_some read
  obtain ⟨inputName, inputName_read, read⟩ := exists_of_bind_eq_some read
  obtain ⟨isRequired, isRequired_read, read⟩ := exists_of_bind_eq_some read
  obtain ⟨autocomplete, autocomplete_read, read⟩ := exists_of_bind_eq_some read
  obtain ⟨legendText, legendText_read, read⟩ := exists_of_bind_eq_some read
  cases read
  refine ⟨record, found, ?_⟩
  simp only [fields, List.forall_mem_cons]
  exact ⟨text_read, htmlFor_read, checked_read, imageUrl_read, buttonText_read,
    dropdownOptions_read, selectOptions_read, placeholder_read, videoUrl_read, mapQuery_read,
    iconName_read, progress_read, alertText_read, alertType_read, accordionItems_read, tabs_read,
    activeTab_read, navLinks_read, socialLinks_read, tableData_read, listItems_read, listType_read,
    quote_read, cite_read, rating_read, maxRating_read, carouselImages_read, formAction_read,
    formMethod_read, formEnctype_read, inputType_read, inputName_read, isRequired_read,
    autocomplete_read, legendText_read, nofun⟩

/-- Where something is read and what stands behind it is, both are. -/
theorem exists_bind_eq_some {α β : Type} {x : Option α} {a : α} {rest : α → Option β}
    (first : x = some a) (behind : ∃ b, rest a = some b) : ∃ b, (x >>= rest) = some b := by
  obtain ⟨b, read⟩ := behind
  exact ⟨b, bind_eq_some first read⟩

/-- Where each field is read, a content is. -/
theorem exists_read_of_readIn {v : Source} {record : Fields}
    (found : Fields.read? fieldNames v = some record)
    (each : ∀ f ∈ fields, ∃ x, f.readIn record = some x) : ∃ c, Content.read v = some c := by
  simp only [fields, List.forall_mem_cons] at each
  obtain ⟨⟨text, text_read⟩, ⟨htmlFor, htmlFor_read⟩, ⟨checked, checked_read⟩,
    ⟨imageUrl, imageUrl_read⟩, ⟨buttonText, buttonText_read⟩,
    ⟨dropdownOptions, dropdownOptions_read⟩, ⟨selectOptions, selectOptions_read⟩,
    ⟨placeholder, placeholder_read⟩, ⟨videoUrl, videoUrl_read⟩, ⟨mapQuery, mapQuery_read⟩,
    ⟨iconName, iconName_read⟩, ⟨progress, progress_read⟩, ⟨alertText, alertText_read⟩,
    ⟨alertType, alertType_read⟩, ⟨accordionItems, accordionItems_read⟩, ⟨tabs, tabs_read⟩,
    ⟨activeTab, activeTab_read⟩, ⟨navLinks, navLinks_read⟩, ⟨socialLinks, socialLinks_read⟩,
    ⟨tableData, tableData_read⟩, ⟨listItems, listItems_read⟩, ⟨listType, listType_read⟩,
    ⟨quote, quote_read⟩, ⟨cite, cite_read⟩, ⟨rating, rating_read⟩, ⟨maxRating, maxRating_read⟩,
    ⟨carouselImages, carouselImages_read⟩, ⟨formAction, formAction_read⟩,
    ⟨formMethod, formMethod_read⟩, ⟨formEnctype, formEnctype_read⟩, ⟨inputType, inputType_read⟩,
    ⟨inputName, inputName_read⟩, ⟨isRequired, isRequired_read⟩, ⟨autocomplete, autocomplete_read⟩,
    ⟨legendText, legendText_read⟩, -⟩ := each
  refine exists_bind_eq_some found ?_
  refine exists_bind_eq_some text_read ?_
  refine exists_bind_eq_some htmlFor_read ?_
  refine exists_bind_eq_some checked_read ?_
  refine exists_bind_eq_some imageUrl_read ?_
  refine exists_bind_eq_some buttonText_read ?_
  refine exists_bind_eq_some dropdownOptions_read ?_
  refine exists_bind_eq_some selectOptions_read ?_
  refine exists_bind_eq_some placeholder_read ?_
  refine exists_bind_eq_some videoUrl_read ?_
  refine exists_bind_eq_some mapQuery_read ?_
  refine exists_bind_eq_some iconName_read ?_
  refine exists_bind_eq_some progress_read ?_
  refine exists_bind_eq_some alertText_read ?_
  refine exists_bind_eq_some alertType_read ?_
  refine exists_bind_eq_some accordionItems_read ?_
  refine exists_bind_eq_some tabs_read ?_
  refine exists_bind_eq_some activeTab_read ?_
  refine exists_bind_eq_some navLinks_read ?_
  refine exists_bind_eq_some socialLinks_read ?_
  refine exists_bind_eq_some tableData_read ?_
  refine exists_bind_eq_some listItems_read ?_
  refine exists_bind_eq_some listType_read ?_
  refine exists_bind_eq_some quote_read ?_
  refine exists_bind_eq_some cite_read ?_
  refine exists_bind_eq_some rating_read ?_
  refine exists_bind_eq_some maxRating_read ?_
  refine exists_bind_eq_some carouselImages_read ?_
  refine exists_bind_eq_some formAction_read ?_
  refine exists_bind_eq_some formMethod_read ?_
  refine exists_bind_eq_some formEnctype_read ?_
  refine exists_bind_eq_some inputType_read ?_
  refine exists_bind_eq_some inputName_read ?_
  refine exists_bind_eq_some isRequired_read ?_
  refine exists_bind_eq_some autocomplete_read ?_
  refine exists_bind_eq_some legendText_read ?_
  exact ⟨_, rfl⟩

/-! ## Reading objects -/

variable {members : List (String × Json)}

/-- Every field that was read has what its member says, whatever the other members are. -/
theorem get_eq_value? (read : Content.read (Json.object members).toSource = some c) :
    ∀ f ∈ fields, f.get c = f.value? (members.lookup f.name) := by
  intro f mem
  obtain ⟨record, found, each⟩ := exists_readIn_of_read read
  obtain ⟨-, rfl⟩ := Fields.read?_object_iff.mp found
  have here : Fields.get? ⟨known fieldNames members, true⟩ f.name =
      (members.lookup f.name).map toSource := Fields.get?_known (f.name_mem mem)
  exact ((f.readIn_eq_some_iff here).mp (each f mem)).2

/-- An object is read where no field stands there twice and each fits that is not plain. -/
theorem exists_read_iff : (∃ c, Content.read (Json.object members).toSource = some c) ↔
    NamedOnce fieldNames members ∧
      ∀ f ∈ fields, f.shape = .plain ∨ f.fits (members.lookup f.name) = true := by
  have here : ∀ f ∈ fields, Fields.get? ⟨known fieldNames members, true⟩ f.name =
      (members.lookup f.name).map toSource := fun f mem => Fields.get?_known (f.name_mem mem)
  constructor
  · rintro ⟨c, read⟩
    obtain ⟨record, found, each⟩ := exists_readIn_of_read read
    obtain ⟨once, rfl⟩ := Fields.read?_object_iff.mp found
    exact ⟨once, fun f mem => ((f.readIn_eq_some_iff (here f mem)).mp (each f mem)).1⟩
  · rintro ⟨once, each⟩
    refine exists_read_of_readIn (Fields.read?_object_iff.mpr ⟨once, rfl⟩) fun f mem => ?_
    exact ⟨_, (f.readIn_eq_some_iff (here f mem)).mpr ⟨each f mem, rfl⟩⟩

/-! ## What plain fields decide -/

/-- Whether the member of a text is missing, `null` or a text. -/
def isText : Option Json → Bool
  | none | some .null | some (.string _) => true
  | some _ => false

/-- Some values under the names of fields are those of other members, but for one name. -/
def AgreeBut (name : String) (first second : List (String × Json)) : Prop :=
  ∀ other ∈ fieldNames, other ≠ name → first.lookup other = second.lookup other

theorem Field.fits_of_isText {f : Field} (textual : f.shape = .text) {member : Option Json}
    (text : isText member = true) : f.fits member = true := by
  unfold isText at text
  split at text
  next => rfl
  next => rfl
  next s => exact Option.isSome_iff_exists.mpr (f.takes_texts textual s)
  next => cases text

/-- In an object in which every text is missing, `null` or a text, the lists of items decide whether
it is read; what its plain fields hold does not. A field that is not a text has nothing where its
value has another shape, and another value for it changes no other field. -/
theorem read_object_iff {v : Source} (object : v.toJson? = some (.object members))
    (texts : ∀ f ∈ fields, f.shape = .text → isText (members.lookup f.name) = true) :
    ((∃ c, Content.read v = some c) ↔ NamedOnce fieldNames members ∧
      ∀ f ∈ fields, f.shape = .items → f.fits (members.lookup f.name) = true) ∧
    ∀ c, Content.read v = some c → ∀ f ∈ fields, f.shape ≠ .text →
      f.get c = f.value? (members.lookup f.name) ∧
      ∀ others, NamedOnce fieldNames others → AgreeBut f.name others members →
        (f.shape = .plain → ∃ c', Content.read (Json.object others).toSource = some c') ∧
        ∀ c', Content.read (Json.object others).toSource = some c' →
          ∀ g ∈ fields, g.name ≠ f.name → g.get c' = g.get c := by
  obtain rfl := eq_toSource_of_toJson? object
  have textual : ∀ f ∈ fields, f.shape = .text → f.fits (members.lookup f.name) = true :=
    fun f mem shape => Field.fits_of_isText shape (texts f mem shape)
  refine ⟨exists_read_iff.trans (and_congr_right fun _ => ?_), fun c read f mem _ => ?_⟩
  · refine forall₂_congr fun f mem => ?_
    have fits := textual f mem
    cases shape : f.shape with
    | text => exact ⟨fun _ => nofun, fun _ => .inr (fits shape)⟩
    | items => exact ⟨fun h _ => h.resolve_left nofun, fun h => .inr (h rfl)⟩
    | plain => exact ⟨fun _ => nofun, fun _ => .inl rfl⟩
  · refine ⟨get_eq_value? read f mem, fun others once agree => ⟨fun plain => ?_, ?_⟩⟩
    · refine exists_read_iff.mpr ⟨once, fun g there => ?_⟩
      by_cases same : g.name = f.name
      · exact .inl (Field.eq_of_name_eq there mem same ▸ plain)
      · rw [agree g.name (g.name_mem there) same]
        exact (exists_read_iff.mp ⟨c, read⟩).2 g there
    · intro c' read' g there other
      rw [get_eq_value? read g there, get_eq_value? read' g there,
        agree g.name (g.name_mem there) other]

/-- A content with a rating that is a text and a tone that is written as an object. -/
def forgiven : List (String × Json) :=
  [("text", .string "kept"), ("rating", .string "4"), ("tabs", .array []),
    ("alertType", .object [("Info", .null)]), ("text ", .bool true)]

theorem read_object_iff_forgiven :
    (Json.object forgiven).toSource.toJson? = some (.object forgiven) ∧
    (∀ f ∈ fields, f.shape = .text → isText (forgiven.lookup f.name) = true) ∧
    ∃ c, Content.read (Json.object forgiven).toSource = some c ∧ c.rating = none ∧
      ∀ others, NamedOnce fieldNames others → AgreeBut "rating" others forgiven →
        ∃ c', Content.read (Json.object others).toSource = some c' ∧
          ∀ g ∈ fields, g.name ≠ "rating" → g.get c' = g.get c := by
  have object := toJson?_toSource (.object forgiven)
  have texts : ∀ f ∈ fields, f.shape = .text → isText (forgiven.lookup f.name) = true := by decide
  obtain ⟨when_read, alone⟩ := read_object_iff object texts
  obtain ⟨c, read⟩ := when_read.mpr (by decide)
  obtain ⟨missing, free⟩ :=
    alone c read (.ofPlain "rating" rating Reader.word32 rfl) (by simp [fields]) nofun
  refine ⟨object, texts, c, read, missing, fun others once agree => ?_⟩
  obtain ⟨reads, keeps⟩ := free others once agree
  obtain ⟨c', read'⟩ := reads rfl
  exact ⟨c', read', keeps c' read'⟩

/-- A list of items of another shape keeps an object from being read, although it is no text. -/
theorem not_forall_read : ¬∀ members : List (String × Json), NamedOnce fieldNames members →
    (∀ f ∈ fields, f.shape = .text → isText (members.lookup f.name) = true) →
      ∃ c, Content.read (Json.object members).toSource = some c := by
  intro all
  obtain ⟨c, read⟩ := all [("tabs", .number (.natural 5))] (by decide) (by decide)
  cases read

end Content

end PageStudio
