import PageStudio.Node.IdSource
import PageStudio.Node.Tree

/-!
# The palette

What a new node of each kind looks like and holds: a size, colours where the kind wants some, and
content to be edited. Items of a new node are numbered behind its id.
-/

namespace PageStudio

open Style

namespace Kind

/-- The width and the height of a new node. -/
def newSize : Kind → String × String
  | .container | .form | .fieldset => ("400px", "300px")
  | .card | .image => ("300px", "200px")
  | .text | .label => ("200px", "40px")
  | .button | .dropdown => ("140px", "44px")
  | .input | .select => ("240px", "40px")
  | .textarea => ("300px", "120px")
  | .video | .map => ("480px", "270px")
  | .divider => ("300px", "2px")
  | .icon | .checkbox | .radio => ("24px", "24px")
  | .progressBar => ("300px", "16px")
  | .alert => ("400px", "60px")
  | .accordion | .tabs => ("400px", "240px")
  | .navbar | .footer => ("1280px", "64px")
  | .socialIcons | .rating => ("160px", "32px")
  | .table | .list | .blockquote => ("320px", "160px")
  | .spinner => ("48px", "48px")
  | .carousel => ("800px", "400px")
  | .unknown => ("100px", "100px")

/-- What a new node wears beside its place and size. -/
def newDress : Kind → List (Property × String)
  | .container => [(.backgroundColor, "bg-gray-100"), (.padding, "p-4")]
  | .card =>
    [(.backgroundColor, "bg-white"), (.padding, "p-4"), (.borderRadius, "rounded-lg"),
     (.boxShadow, "shadow-md")]
  | .text => [(.fontSize, "text-base"), (.textColor, "text-gray-900")]
  | .button =>
    [(.backgroundColor, "bg-blue-600"), (.textColor, "text-white"), (.borderRadius, "rounded-md"),
     (.fontWeight, "font-semibold")]
  | .dropdown => [(.backgroundColor, "bg-gray-200")]
  | .input | .textarea =>
    [(.border, "border"), (.borderColor, "border-gray-300"), (.padding, "p-2")]
  | .divider => [(.backgroundColor, "bg-gray-300")]
  | .icon => [(.textColor, "text-yellow-400")]
  | .progressBar =>
    [(.backgroundColor, "bg-gray-200"), (.barColor, "bg-blue-600"), (.borderRadius, "rounded-full")]
  | .alert =>
    [(.backgroundColor, "bg-blue-500"), (.textColor, "text-white"), (.padding, "p-4"),
     (.borderRadius, "rounded-md")]
  | .navbar | .footer =>
    [(.backgroundColor, "bg-gray-800"), (.textColor, "text-white"), (.padding, "p-4")]
  | .select => [(.border, "border")]
  | .rating => [(.textColor, "text-yellow-400")]
  | .fieldset => [(.border, "border"), (.padding, "p-4")]
  | _ => []

/-- The base layer of a new node: at the top left corner, in its size. -/
def newBase (k : Kind) : Layer :=
  Dict.ofList ([(.top, "0px"), (.left, "0px"), (.width, k.newSize.1), (.height, k.newSize.2)] ++
    k.newDress)

/-- What a new node holds. `item` makes the id of an item from what the item is and its number. -/
def newContent (item : String → Nat → String) : Kind → Content
  | .text => { text := some "Edit this text" }
  | .button => { buttonText := some "Click me" }
  | .image => { imageUrl := some "https://picsum.photos/400/300" }
  | .dropdown =>
    { dropdownOptions := some
        [⟨item "option" 1, "Option 1", "#"⟩, ⟨item "option" 2, "Option 2", "#"⟩] }
  | .input => { placeholder := some "Type here...", inputType := some "text" }
  | .textarea => { placeholder := some "Type here..." }
  | .video => { videoUrl := some "https://www.youtube.com/embed/dQw4w9WgXcQ" }
  | .icon => { iconName := some "star" }
  | .progressBar => { progress := some 50 }
  | .alert =>
    { alertText := some "This is an informational alert.", alertType := some .info }
  | .accordion =>
    { accordionItems := some
        [⟨item "item" 1, "Section 1", "Content for section 1."⟩,
         ⟨item "item" 2, "Section 2", "Content for section 2."⟩] }
  | .tabs =>
    { tabs := some [⟨item "tab" 1, "Tab 1"⟩, ⟨item "tab" 2, "Tab 2"⟩], activeTab := some 0 }
  | .navbar | .footer =>
    { navLinks := some [⟨item "link" 1, "Home", "#"⟩, ⟨item "link" 2, "About", "#"⟩] }
  | .form => { formAction := some "#", formMethod := some .post }
  | .label => { text := some "Label" }
  | .checkbox | .radio => { checked := some false }
  | .select => { selectOptions := some "Option 1, Option 2, Option 3" }
  | .map => { mapQuery := some "Eiffel Tower, Paris" }
  | .socialIcons =>
    { socialLinks := some
        [⟨item "social" 1, .twitter, "https://twitter.com"⟩,
         ⟨item "social" 2, .github, "https://github.com"⟩] }
  | .table => { tableData := some "Name,Role\nAda,Engineer\nGrace,Admiral" }
  | .list =>
    { listItems := some "First item\nSecond item\nThird item", listType := some .unordered }
  | .blockquote =>
    { quote := some "Simplicity is prerequisite for reliability.",
      cite := some "Edsger W. Dijkstra" }
  | .rating => { rating := some 4, maxRating := some 5 }
  | .carousel =>
    { carouselImages := some
        [⟨item "slide" 1, "https://picsum.photos/seed/1/800/400", "Slide 1"⟩,
         ⟨item "slide" 2, "https://picsum.photos/seed/2/800/400", "Slide 2"⟩,
         ⟨item "slide" 3, "https://picsum.photos/seed/3/800/400", "Slide 3"⟩] }
  | .fieldset => { legendText := some "Details" }
  | .container | .card | .divider | .spinner | .unknown => {}

end Kind

namespace Node

/-- The id of an item inside the node of an id. -/
def itemId (id what : String) (n : Nat) : String :=
  id ++ "-" ++ what ++ "-" ++ String.ofList (Nat.toDigits 10 n)

/-- A new node of a kind with a given id. -/
def fresh (id : String) (kind : Kind) : Node :=
  ((bare id kind kind.name).withBase kind.newBase).withContent (kind.newContent (itemId id))

/-- A new node has styles for the reference viewport only. -/
theorem styles_fresh (id : String) (kind : Kind) (viewport : String) :
    (fresh id kind).element.styles.get? viewport =
      if viewport = Viewport.referenceName then some { base := kind.newBase } else none :=
  Dict.get?_insert _ _ _ _

end Node

/-- A new node of a kind, and the source of ids behind it. -/
def IdSource.newNode (ids : IdSource) (kind : Kind) : Node × IdSource :=
  let (id, ids) := ids.nodeId kind
  (Node.fresh id kind, ids)

end PageStudio
