import PageStudio.Html.Icon
import PageStudio.Node.Tree
import PageStudio.Text.Blank
import PageStudio.Text.Percent
import PageStudio.Text.Piece

/-!
# The markup of nodes

Every node is one block, inside an anchor where it has a link. The element of a node carries its
id, the code of its events and what the fields of a form need. Only boxes and tabs show their
children.
-/

namespace PageStudio.Html

/-! ## Links -/

/-- How links to pages are written. -/
inductive LinkMode where
  /-- To the files of pages, by the ids of the pages. -/
  | project (files : Dict String String)
  /-- To nowhere, because there is no other page. -/
  | singlePage

/-- The address that leads nowhere. -/
def inertAddress : String := "javascript:void(0)"

/-- The address that a link is written with. -/
def LinkMode.address (mode : LinkMode) : Link → String
  | .external address => address
  | .page id =>
    match mode with
    | .project files => (files.get? id).getD "#"
    | .singlePage => inertAddress

/-! ## Attributes -/

/-- Whether the code of an event is written: the name has letters and digits only. -/
def isWrittenEvent (event code : String) : Bool :=
  !code.isEmpty && event.toList.all Char.isAlphanum

/-- The attributes of every element that carries the id of a node. -/
def nodeAttributes (e : Element) : List Attribute :=
  .value "id" e.id ::
    ((e.events.entries.filter fun v => isWrittenEvent v.1 v.2).map fun v => .value v.1 v.2) ++
    (e.content.inputName.map (.value "name")).toList ++
    (if e.content.isRequired == some true then [.flag "required"] else []) ++
    (e.content.autocomplete.map (.value "autocomplete")).toList

/-! ## Pieces of markup -/

/-- An optional text, empty where it is missing. -/
def shown (s : Option String) : List Inline := [.text (s.getD "")]

/-- A class. -/
def cls (name : String) : Attribute := .value "class" name

/-- An icon by its name, or nothing. -/
def iconContent (name : String) (more : List Attribute) : List Inline :=
  ((Icon.find? name).map fun icon => icon.markup more).toList

/-- The pieces of a text between commas, without the blanks around them. -/
def commaPieces (s : List Char) : List (List Char) := (Text.splitAt ',' s).map Text.trim

/-- A line with a single element. -/
def lineOf (tag : String) (attributes : List Attribute) (content : List Inline) : Block :=
  .line (.element tag attributes content)

/-! ## Kinds -/

/-- The element of an icon node; a comment where there is no such icon. -/
def iconBlock (attributes : List Attribute) (name : String) : Block :=
  match Icon.find? name with
  | some icon => lineOf "div" attributes [icon.markup []]
  | none => .line (.comment ("Icon not found: " ++ name))

/-- What stands in front of the text of an alert. -/
def alertGlyph (type : AlertType) : List Inline :=
  match type.iconName? with
  | some name => iconContent name [.value "style" "flex-shrink: 0;"]
  | none => [.comment "Unknown alert type"]

/-- The entry of a dropdown. -/
def dropdownEntry (o : DropdownOption) : Block :=
  lineOf "li" [] [.element "a" [.value "href" o.url] [.text o.label]]

/-- The part of an accordion. -/
def accordionPart (i : AccordionItem) : Block :=
  .group "div" [cls "accordion-item"] [
    lineOf "button" [cls "accordion-title"]
      [.element "span" [] [.text i.title],
       .element "span" [cls "accordion-icon"] [.entity "plus"]],
    lineOf "div" [cls "accordion-content"] [.element "p" [] [.text i.content]]]

/-- A class name, with `active` behind it at the active place. -/
def stateClass (name : String) (active : UInt64) (index : Nat) : Attribute :=
  cls (if index = active.toNat then name ++ " active" else name)

/-- The button of a tab. -/
def tabButton (active : UInt64) (t : Tab × Nat) : Block :=
  lineOf "button" [stateClass "tab-button" active t.2, .value "data-tab-index" (Css.digits t.2)]
    [.text t.1.title]

/-- The panel of a tab around a child. -/
def tabPanel (active : UInt64) (child : Block × Nat) : Block :=
  .group "div"
    [stateClass "tab-content" active child.2, .value "data-tab-content" (Css.digits child.2)]
    [child.1]

/-- The entry of a navigation bar. -/
def navEntry (l : NavLink) : Block := lineOf "a" [.value "href" l.url] [.text l.text]

/-- A tick box or a radio button. -/
def toggle (attributes : List Attribute) (type : String) (checked : Option Bool) : Block :=
  .line (.empty "input" (attributes ++ .value "type" type ::
    if checked == some true then [.flag "checked"] else []))

/-- The choices of a select field. -/
def choices (options : String) : List Block :=
  ((commaPieces options.toList).filter fun s => !s.isEmpty).map fun s =>
    lineOf "option" [] [.text (String.ofList s)]

/-- The address of a map that shows a place. -/
def mapAddress (query : String) : String :=
  "https://www.google.com/maps/embed/v1/place?key=YOUR_API_KEY&q=" ++ Text.percentEncode query

/-- A profile in a social network. -/
def profile (l : SocialLink) : Block :=
  if l.network = .unknown then .line (.comment "Unknown social network")
  else
    lineOf "a" [.value "href" l.url, .value "aria-label" l.network.name]
      (iconContent l.network.name [])

/-- A row of a table. The first row is the header. -/
def tableRow (row : List Char × Nat) : Block :=
  let tag := if row.2 = 0 then "th" else "td"
  lineOf "tr" [] ((commaPieces row.1).map fun s => .element tag [] [.text (String.ofList s)])

/-- The items of a list. -/
def listItems (items : String) : List Block :=
  (Text.lines items.toList).map fun s => lineOf "li" [] [.text (String.ofList s)]

/-- How many stars a rating shows at most. -/
def mostStars : UInt32 := 10

/-- The stars of a rating, the filled ones in front. -/
def stars (rating most : UInt32) : List Inline :=
  (List.range (min most mostStars).toNat).map fun i =>
    .element "span" (if i < rating.toNat then [cls "filled"] else []) [.entity "#9733"]

/-- A slide of a carousel. -/
def slide (i : CarouselImage) : Block :=
  lineOf "div" [cls "carousel-slide"]
    [.empty "img" [.value "src" i.src, .value "alt" i.alt]]

/-- The block of an element around the blocks of its children. -/
def elementBlock (e : Element) (children : List Block) : Block :=
  let as := nodeAttributes e
  let c := e.content
  match e.kind with
  | .container | .card => .group "div" as children
  | .form =>
    .group "form"
      (as ++ [.value "action" (c.formAction.getD "#"),
        .value "method" (c.formMethod.getD .post).name] ++
        (c.formEnctype.map (.value "enctype")).toList)
      children
  | .fieldset => .group "fieldset" as (lineOf "legend" [] (shown c.legendText) :: children)
  | .text => lineOf "p" as (shown c.text)
  | .button => lineOf "button" as (shown c.buttonText)
  | .image =>
    .line (.empty "img"
      (as ++ [.value "src" (c.imageUrl.getD "https://picsum.photos/200"), .value "alt" e.name]))
  | .input =>
    .line (.empty "input"
      (as ++ [.value "type" (c.inputType.getD "text"),
        .value "placeholder" (c.placeholder.getD "")]))
  | .textarea => lineOf "textarea" (as ++ [.value "placeholder" (c.placeholder.getD "")]) []
  | .video =>
    lineOf "iframe"
      (as ++ [.value "src" (c.videoUrl.getD ""), .value "frameborder" "0",
        .value "allow" ("accelerometer; autoplay; clipboard-write; encrypted-media; " ++
          "gyroscope; picture-in-picture"),
        .flag "allowfullscreen"])
      []
  | .divider => .line (.empty "hr" as)
  | .icon => iconBlock as (c.iconName.getD "")
  | .alert =>
    lineOf "div" as
      (alertGlyph (c.alertType.getD .info) ++ [.element "span" [] (shown c.alertText)])
  | .progressBar => lineOf "div" as [.element "div" [cls "progress-bar-inner"] []]
  | .dropdown =>
    .group "div" (as ++ [cls "dropdown-container"]) [
      lineOf "button" [cls "dropdown-button"]
        [.text (c.buttonText.getD "Dropdown"), .text " ", .entity "#9662"],
      .group "ul" [cls "dropdown-content"] ((c.dropdownOptions.getD []).map dropdownEntry)]
  | .accordion =>
    .group "div" (as ++ [cls "accordion-container"])
      ((c.accordionItems.getD []).map accordionPart)
  | .tabs =>
    let active := c.activeTab.getD 0
    .group "div" (as ++ [cls "tabs-container"]) [
      .group "div" [cls "tabs-nav"] ((c.tabs.getD []).zipIdx.map (tabButton active)),
      .group "div" [cls "tabs-content-wrapper"] (children.zipIdx.map (tabPanel active))]
  | .navbar | .footer => .group "nav" as ((c.navLinks.getD []).map navEntry)
  | .label => lineOf "label" (as ++ [.value "for" (c.htmlFor.getD "")]) (shown c.text)
  | .checkbox => toggle as "checkbox" c.checked
  | .radio => toggle as "radio" c.checked
  | .select => .group "select" as (choices (c.selectOptions.getD ""))
  | .map =>
    lineOf "iframe"
      (as ++ [.value "loading" "lazy", .flag "allowfullscreen",
        .value "src" (mapAddress (c.mapQuery.getD ""))])
      []
  | .socialIcons => .group "div" as ((c.socialLinks.getD []).map profile)
  | .table =>
    .group "table" as ((Text.lines (c.tableData.getD "").toList).zipIdx.map tableRow)
  | .list =>
    .group (if c.listType == some .ordered then "ol" else "ul") as
      (listItems (c.listItems.getD ""))
  | .blockquote =>
    .group "blockquote" as [
      lineOf "p" [] (shown c.quote),
      lineOf "footer" [] (.text "- " :: shown c.cite)]
  | .spinner => lineOf "div" as []
  | .rating =>
    lineOf "div" (as ++ [cls "rating"]) (stars (c.rating.getD 0) (c.maxRating.getD 5))
  | .carousel =>
    .group "div" (as ++ [cls "carousel-container"]) [
      .group "div" [cls "carousel-track"] ((c.carouselImages.getD []).map slide),
      lineOf "button" [cls "carousel-prev"] [.entity "#8249"],
      lineOf "button" [cls "carousel-next"] [.entity "#8250"]]
  | .unknown => .line (.comment ("Unknown: " ++ e.kind.name))

/-! ## Nodes -/

/-- A block inside the anchor of a link, where there is one. -/
def linked (mode : LinkMode) (link : Option Link) (b : Block) : Block :=
  match link with
  | some l => .group "a" [.value "href" (mode.address l)] [b]
  | none => b

mutual
/-- The block of a node. -/
def nodeBlock (mode : LinkMode) : Node → Block
  | .mk e children => linked mode e.link (elementBlock e (forestBlocks mode children))

/-- The blocks of nodes. -/
def forestBlocks (mode : LinkMode) : List Node → List Block
  | [] => []
  | n :: rest => nodeBlock mode n :: forestBlocks mode rest
end

/-- The markup of a layout. -/
def layoutText (mode : LinkMode) (format : Format) (layout : List Node) : String :=
  write format (forestBlocks mode layout)

end PageStudio.Html
