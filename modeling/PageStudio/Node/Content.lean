import PageStudio.Json.Reading

/-!
# Content of nodes

What a node holds beside its styles and children. All fields are optional, and each kind of node
uses those it understands. Texts and lists of items must have their right shape where they are
given; of the other fields, a value of another shape counts as missing.
-/

namespace PageStudio

open Json

/-! ## Choices -/

/-- The tone of an alert. -/
inductive AlertType where
  | info
  | success
  | warning
  | error
  | unknown
deriving DecidableEq, Inhabited

namespace AlertType

def name : AlertType → String
  | .info => "Info"
  | .success => "Success"
  | .warning => "Warning"
  | .error => "Error"
  | .unknown => "Unknown"

/-- The name of the icon beside an alert, which is also read as a name of the tone. -/
def iconName? : AlertType → Option String
  | .info => some "info"
  | .success => some "success"
  | .warning => some "warning"
  | .error => some "error"
  | .unknown => none

/-- The tone of a name. Any other name is an unknown tone. -/
def ofName (name : String) : AlertType :=
  ([info, success, warning, error].find? fun t => t.name == name || t.iconName? == some name).getD
    .unknown

def read (v : Source) : Option AlertType := (Reader.name v).map ofName

end AlertType

/-- A social network. -/
inductive SocialNetwork where
  | facebook
  | twitter
  | instagram
  | linkedin
  | github
  | unknown
deriving DecidableEq, Inhabited

namespace SocialNetwork

def name : SocialNetwork → String
  | .facebook => "facebook"
  | .twitter => "twitter"
  | .instagram => "instagram"
  | .linkedin => "linkedin"
  | .github => "github"
  | .unknown => "unknown"

/-- The network of a name. Any other name is an unknown network. -/
def ofName (name : String) : SocialNetwork :=
  ([facebook, twitter, instagram, linkedin, github].find? fun n => n.name == name).getD .unknown

def read (v : Source) : Option SocialNetwork := (Reader.name v).map ofName

end SocialNetwork

/-- Whether the items of a list are numbered. -/
inductive ListType where
  | ordered
  | unordered
deriving DecidableEq, Inhabited

namespace ListType

/-- The name of a type of list. -/
def name : ListType → String
  | .ordered => "ordered"
  | .unordered => "unordered"

def read (v : Source) : Option ListType := do
  let name ← Reader.name v
  [ordered, unordered].find? fun t => t.name == name

end ListType

/-- How a form is sent. -/
inductive FormMethod where
  | get
  | post
deriving DecidableEq, Inhabited

namespace FormMethod

def name : FormMethod → String
  | .get => "GET"
  | .post => "POST"

def read (v : Source) : Option FormMethod := do
  let name ← Reader.name v
  [get, post].find? fun m => m.name == name

end FormMethod

/-! ## Items -/

/-- An entry of a dropdown. -/
structure DropdownOption where
  id : String
  label : String
  url : String
deriving DecidableEq, Inhabited

namespace DropdownOption

def toJson (i : DropdownOption) : Json :=
  .object [("id", .string i.id), ("label", .string i.label), ("url", .string i.url)]

def read (v : Source) : Option DropdownOption := do
  let fields ← Fields.read? ["id", "label", "url"] v
  let id ← fields.required "id" Reader.text
  let label ← fields.required "label" Reader.text
  let url ← fields.required "url" Reader.text
  return { id, label, url }

end DropdownOption

/-- A part of an accordion. -/
structure AccordionItem where
  id : String
  title : String
  content : String
deriving DecidableEq, Inhabited

namespace AccordionItem

def toJson (i : AccordionItem) : Json :=
  .object [("id", .string i.id), ("title", .string i.title), ("content", .string i.content)]

def read (v : Source) : Option AccordionItem := do
  let fields ← Fields.read? ["id", "title", "content"] v
  let id ← fields.required "id" Reader.text
  let title ← fields.required "title" Reader.text
  let content ← fields.required "content" Reader.text
  return { id, title, content }

end AccordionItem

/-- A tab. -/
structure Tab where
  id : String
  title : String
deriving DecidableEq, Inhabited

namespace Tab

def toJson (i : Tab) : Json :=
  .object [("id", .string i.id), ("title", .string i.title)]

def read (v : Source) : Option Tab := do
  let fields ← Fields.read? ["id", "title"] v
  let id ← fields.required "id" Reader.text
  let title ← fields.required "title" Reader.text
  return { id, title }

end Tab

/-- An entry of a navigation bar. -/
structure NavLink where
  id : String
  text : String
  url : String
deriving DecidableEq, Inhabited

namespace NavLink

def toJson (i : NavLink) : Json :=
  .object [("id", .string i.id), ("text", .string i.text), ("url", .string i.url)]

def read (v : Source) : Option NavLink := do
  let fields ← Fields.read? ["id", "text", "url"] v
  let id ← fields.required "id" Reader.text
  let text ← fields.required "text" Reader.text
  let url ← fields.required "url" Reader.text
  return { id, text, url }

end NavLink

/-- A profile in a social network. -/
structure SocialLink where
  id : String
  network : SocialNetwork
  url : String
deriving DecidableEq, Inhabited

namespace SocialLink

def toJson (i : SocialLink) : Json :=
  .object [("id", .string i.id), ("network", .string i.network.name), ("url", .string i.url)]

def read (v : Source) : Option SocialLink := do
  let fields ← Fields.read? ["id", "network", "url"] v
  let id ← fields.required "id" Reader.text
  let network ← fields.required "network" SocialNetwork.read
  let url ← fields.required "url" Reader.text
  return { id, network, url }

end SocialLink

/-- A slide of a carousel. -/
structure CarouselImage where
  id : String
  src : String
  alt : String
deriving DecidableEq, Inhabited

namespace CarouselImage

def toJson (i : CarouselImage) : Json :=
  .object [("id", .string i.id), ("src", .string i.src), ("alt", .string i.alt)]

def read (v : Source) : Option CarouselImage := do
  let fields ← Fields.read? ["id", "src", "alt"] v
  let id ← fields.required "id" Reader.text
  let src ← fields.required "src" Reader.text
  let alt ← fields.required "alt" Reader.text
  return { id, src, alt }

end CarouselImage

/-! ## Content -/

/-- What a node holds. -/
structure Content where
  /-- What a text, button, card and the like say. -/
  text : Option String := none
  /-- The id of the field that a label belongs to. -/
  htmlFor : Option String := none
  /-- Whether a box is ticked. -/
  checked : Option Bool := none
  /-- The address of an image. -/
  imageUrl : Option String := none
  /-- What a button says. -/
  buttonText : Option String := none
  /-- The entries of a dropdown. -/
  dropdownOptions : Option (List DropdownOption) := none
  /-- The choices of a select field, between commas. -/
  selectOptions : Option String := none
  /-- What an empty field shows. -/
  placeholder : Option String := none
  /-- The address of a video. -/
  videoUrl : Option String := none
  /-- The place that a map shows. -/
  mapQuery : Option String := none
  /-- The name of an icon. -/
  iconName : Option String := none
  /-- How far a progress bar is, in percent. -/
  progress : Option Float := none
  /-- What an alert says. -/
  alertText : Option String := none
  /-- The tone of an alert. -/
  alertType : Option AlertType := none
  /-- The parts of an accordion. -/
  accordionItems : Option (List AccordionItem) := none
  /-- The tabs of a tab bar. -/
  tabs : Option (List Tab) := none
  /-- The place of the tab that shows first. -/
  activeTab : Option UInt64 := none
  /-- The entries of a navigation bar. -/
  navLinks : Option (List NavLink) := none
  /-- The profiles behind social icons. -/
  socialLinks : Option (List SocialLink) := none
  /-- The rows of a table, one a line, with commas between cells; the first is the header. -/
  tableData : Option String := none
  /-- The items of a list, one a line. -/
  listItems : Option String := none
  /-- Whether the items of a list are numbered. -/
  listType : Option ListType := none
  /-- What a quotation says. -/
  quote : Option String := none
  /-- Who is quoted. -/
  cite : Option String := none
  /-- How many stars are filled. -/
  rating : Option UInt32 := none
  /-- How many stars there are. -/
  maxRating : Option UInt32 := none
  /-- The slides of a carousel. -/
  carouselImages : Option (List CarouselImage) := none
  /-- Where a form is sent. -/
  formAction : Option String := none
  /-- How a form is sent. -/
  formMethod : Option FormMethod := none
  /-- How the values of a form are packed. -/
  formEnctype : Option String := none
  /-- The type of an input field. -/
  inputType : Option String := none
  /-- The name that a field is sent under. -/
  inputName : Option String := none
  /-- Whether a field must be filled. -/
  isRequired : Option Bool := none
  /-- What a browser may fill in. -/
  autocomplete : Option String := none
  /-- The heading of a group of fields. -/
  legendText : Option String := none
deriving DecidableEq, Inhabited

namespace Content

/-- Whether two progresses are the same number. -/
def sameProgress : Option Float → Option Float → Bool
  | none, none => true
  | some x, some y => x == y
  | _, _ => false

/-- Whether two contents are the same. Both zeros are the same progress. -/
def same (a b : Content) : Bool :=
  sameProgress a.progress b.progress && { a with progress := none } = { b with progress := none }

def fieldNames : List String :=
  ["text", "htmlFor", "checked", "imageUrl", "buttonText", "dropdownOptions", "selectOptions",
   "placeholder", "videoUrl", "mapQuery", "iconName", "progress", "alertText", "alertType",
   "accordionItems", "tabs", "activeTab", "navLinks", "socialLinks", "tableData", "listItems",
   "listType", "quote", "cite", "rating", "maxRating", "carouselImages", "formAction",
   "formMethod", "formEnctype", "inputType", "inputName", "isRequired", "autocomplete",
   "legendText"]

/-- A text that may be missing, written. -/
def textJson (s : Option String) : Option Json := s.map .string

/-- A list that may be missing, written. -/
def listJson {α : Type} (write : α → Json) (items : Option (List α)) : Option Json :=
  items.map fun items => .array (items.map write)

def toJson (c : Content) : Json :=
  ofFields [
    ("text", textJson c.text),
    ("htmlFor", textJson c.htmlFor),
    ("checked", c.checked.map .bool),
    ("imageUrl", textJson c.imageUrl),
    ("buttonText", textJson c.buttonText),
    ("dropdownOptions", listJson DropdownOption.toJson c.dropdownOptions),
    ("selectOptions", textJson c.selectOptions),
    ("placeholder", textJson c.placeholder),
    ("videoUrl", textJson c.videoUrl),
    ("mapQuery", textJson c.mapQuery),
    ("iconName", textJson c.iconName),
    ("progress", c.progress.map ofFloat),
    ("alertText", textJson c.alertText),
    ("alertType", c.alertType.map fun t => .string t.name),
    ("accordionItems", listJson AccordionItem.toJson c.accordionItems),
    ("tabs", listJson Tab.toJson c.tabs),
    ("activeTab", c.activeTab.map fun n => .number (.natural n.toNat)),
    ("navLinks", listJson NavLink.toJson c.navLinks),
    ("socialLinks", listJson SocialLink.toJson c.socialLinks),
    ("tableData", textJson c.tableData),
    ("listItems", textJson c.listItems),
    ("listType", c.listType.map fun t => .string t.name),
    ("quote", textJson c.quote),
    ("cite", textJson c.cite),
    ("rating", c.rating.map fun n => .number (.natural n.toNat)),
    ("maxRating", c.maxRating.map fun n => .number (.natural n.toNat)),
    ("carouselImages", listJson CarouselImage.toJson c.carouselImages),
    ("formAction", textJson c.formAction),
    ("formMethod", c.formMethod.map fun t => .string t.name),
    ("formEnctype", textJson c.formEnctype),
    ("inputType", textJson c.inputType),
    ("inputName", textJson c.inputName),
    ("isRequired", c.isRequired.map .bool),
    ("autocomplete", textJson c.autocomplete),
    ("legendText", textJson c.legendText)]

def read (v : Source) : Option Content := do
  let fields ← Fields.read? fieldNames v
  let text ← fields.optional "text" Reader.text
  let htmlFor ← fields.optional "htmlFor" Reader.text
  let checked ← fields.lenient "checked" Reader.flag
  let imageUrl ← fields.optional "imageUrl" Reader.text
  let buttonText ← fields.optional "buttonText" Reader.text
  let dropdownOptions ← fields.optional "dropdownOptions" (Reader.list DropdownOption.read)
  let selectOptions ← fields.optional "selectOptions" Reader.text
  let placeholder ← fields.optional "placeholder" Reader.text
  let videoUrl ← fields.optional "videoUrl" Reader.text
  let mapQuery ← fields.optional "mapQuery" Reader.text
  let iconName ← fields.optional "iconName" Reader.text
  let progress ← fields.lenient "progress" Reader.float
  let alertText ← fields.optional "alertText" Reader.text
  let alertType ← fields.lenient "alertType" AlertType.read
  let accordionItems ← fields.optional "accordionItems" (Reader.list AccordionItem.read)
  let tabs ← fields.optional "tabs" (Reader.list Tab.read)
  let activeTab ← fields.lenient "activeTab" Reader.word64
  let navLinks ← fields.optional "navLinks" (Reader.list NavLink.read)
  let socialLinks ← fields.optional "socialLinks" (Reader.list SocialLink.read)
  let tableData ← fields.optional "tableData" Reader.text
  let listItems ← fields.optional "listItems" Reader.text
  let listType ← fields.lenient "listType" ListType.read
  let quote ← fields.optional "quote" Reader.text
  let cite ← fields.optional "cite" Reader.text
  let rating ← fields.lenient "rating" Reader.word32
  let maxRating ← fields.lenient "maxRating" Reader.word32
  let carouselImages ← fields.optional "carouselImages" (Reader.list CarouselImage.read)
  let formAction ← fields.optional "formAction" Reader.text
  let formMethod ← fields.lenient "formMethod" FormMethod.read
  let formEnctype ← fields.optional "formEnctype" Reader.text
  let inputType ← fields.optional "inputType" Reader.text
  let inputName ← fields.optional "inputName" Reader.text
  let isRequired ← fields.lenient "isRequired" Reader.flag
  let autocomplete ← fields.optional "autocomplete" Reader.text
  let legendText ← fields.optional "legendText" Reader.text
  return { text, htmlFor, checked, imageUrl, buttonText, dropdownOptions, selectOptions,
           placeholder, videoUrl, mapQuery, iconName, progress, alertText, alertType,
           accordionItems, tabs, activeTab, navLinks, socialLinks, tableData, listItems,
           listType, quote, cite, rating, maxRating, carouselImages, formAction, formMethod,
           formEnctype, inputType, inputName, isRequired, autocomplete, legendText }

end Content

end PageStudio
