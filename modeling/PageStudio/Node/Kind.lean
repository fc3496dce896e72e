import PageStudio.Json.Reading

/-!
# Kinds of nodes

What a node is. A document may name kinds that are not known here; they all read as `unknown`, which
has no markup of its own.
-/

namespace PageStudio

open Json

/-- The kind of a node. -/
inductive Kind where
  | container
  | text
  | button
  | image
  | dropdown
  | input
  | textarea
  | video
  | divider
  | card
  | icon
  | progressBar
  | alert
  | accordion
  | tabs
  | navbar
  | footer
  | form
  | label
  | checkbox
  | radio
  | select
  | map
  | socialIcons
  | table
  | list
  | blockquote
  | spinner
  | rating
  | carousel
  | fieldset
  | unknown
deriving DecidableEq, Repr, Inhabited

namespace Kind

/-- The kinds that the palette offers, in its order. -/
def palette : List Kind :=
  [.container, .text, .button, .image, .dropdown, .input, .textarea, .video, .divider, .card, .icon,
   .progressBar, .alert, .accordion, .tabs, .navbar, .footer, .form, .label, .checkbox, .radio,
   .select, .map, .socialIcons, .table, .list, .blockquote, .spinner, .rating, .carousel, .fieldset]

def name : Kind → String
  | .container => "Container"
  | .text => "Text"
  | .button => "Button"
  | .image => "Image"
  | .dropdown => "Dropdown"
  | .input => "Input"
  | .textarea => "Textarea"
  | .video => "Video"
  | .divider => "Divider"
  | .card => "Card"
  | .icon => "Icon"
  | .progressBar => "ProgressBar"
  | .alert => "Alert"
  | .accordion => "Accordion"
  | .tabs => "Tabs"
  | .navbar => "Navbar"
  | .footer => "Footer"
  | .form => "Form"
  | .label => "Label"
  | .checkbox => "Checkbox"
  | .radio => "Radio"
  | .select => "Select"
  | .map => "Map"
  | .socialIcons => "SocialIcons"
  | .table => "Table"
  | .list => "List"
  | .blockquote => "Blockquote"
  | .spinner => "Spinner"
  | .rating => "Rating"
  | .carousel => "Carousel"
  | .fieldset => "Fieldset"
  | .unknown => "Unknown"

/-- The kind of a name. Any other name is an unknown kind. -/
def ofName (name : String) : Kind := (palette.find? fun k => k.name == name).getD .unknown

/-- The kind of a name is the kind. -/
theorem ofName_name (k : Kind) : ofName k.name = k := by cases k <;> decide

/-- A name in lower case, with a hyphen in front of each later capital. -/
def hyphenate : List Char → List Char
  | [] => []
  | c :: rest => c.toLower :: rest.flatMap fun d => if d.isUpper then ['-', d.toLower] else [d]

/-- The beginning of the ids that nodes of a kind get. -/
def slug (k : Kind) : String := String.ofList (hyphenate k.name.toList)

/-- Whether nodes of a kind are boxes for any other nodes. -/
def isContainer : Kind → Bool
  | .container | .card | .form | .fieldset => true
  | _ => false

/-- Whether nodes of a kind show their children one at a time. -/
def isComposite : Kind → Bool
  | .tabs | .accordion | .carousel => true
  | _ => false

/-- Whether nodes of a kind show their children. -/
def acceptsChildren (k : Kind) : Bool := k.isContainer || k.isComposite

def read (v : Source) : Option Kind := (Reader.name v).map ofName

end Kind

end PageStudio
