import PageStudio.Proofs.Html.Ids
import PageStudio.Proofs.Site.Export

/-!
# The ids in the files of pages

A page has its nodes in a frame, which has an id of its own, and no other part around the nodes has
one. Nodes with distinct ids give the elements of a page distinct ids, but none of them is compared
with that of the frame, and a node may be named like it.

What an author adds to the head of a page and to its scripts is text of any kind, so the pages here
are those to which nothing is added.

## Main statements

* `ids_projectFiles`: the ids that are read in the file of a page.
* `exists_repeated_frame`: a valid document with a page in whose file an id is repeated.
-/

namespace PageStudio.Site

open Html Style

/-! ## Texts and their ids -/

/-- A text reads as marks, with these ids in their attributes. -/
def HasIds (s : String) (ids : List String) : Prop :=
  ∃ marks, Emits s.toList marks ∧ idsOf marks = ids

section

variable {s s' : String} {ids ids' : List String}

theorem HasIds.append (first : HasIds s ids) (second : HasIds s' ids') :
    HasIds (s ++ s') (ids ++ ids') := by
  obtain ⟨marks, emits, rfl⟩ := first
  obtain ⟨marks', emits', rfl⟩ := second
  refine ⟨marks ++ marks', ?_, List.flatMap_append⟩
  rw [String.toList_append]
  exact emits.append emits'

theorem hasIds_of_read? {ts : List Token} (read : read? s = some ts) : HasIds s (idsOf ts) :=
  ⟨_, emits_of_read? read, foundIn_filter_isMark overlooks_idOf ts⟩

theorem hasIds_of_map (read : (read? s).map idsOf = some ids) : HasIds s ids := by
  obtain ⟨ts, found, rfl⟩ := Option.map_eq_some_iff.mp read
  exact hasIds_of_read? found

theorem HasIds.read? (has : HasIds s ids) : ∃ ts, Html.read? s = some ts ∧ idsOf ts = ids := by
  obtain ⟨marks, emits, rfl⟩ := has
  obtain ⟨ts, read, same⟩ := emits.read?
  exact ⟨ts, read, same ▸ (foundIn_filter_isMark overlooks_idOf ts).symm⟩

/-- Lines without ids are a text without ids. -/
theorem hasIds_linesText {lines : List String} (each : ∀ line ∈ lines, HasIds line []) :
    HasIds (linesText lines) [] := by
  induction lines with
  | nil => exact ⟨[], emits_plain plain_nil, rfl⟩
  | cons line rest ih =>
    have ending : HasIds "\n" [] := ⟨[], emits_plain (by decide), rfl⟩
    have here := (each line List.mem_cons_self).append ending
    exact here.append (ih fun l mem => each l (List.mem_cons_of_mem _ mem))

end

/-! ## The parts around the nodes -/

/-- The id of the frame that the nodes of a page stand in. -/
def frameId : String := "page-frame"

/-- Only the title and the description of a page are the author's in what stands around its nodes,
and the style sheet and the scripts are elements without ids. -/
structure Unadorned (s : Shell) : Prop where
  globalHead : s.settings.globalHeadContent = none
  pageHead : s.page.customHeadContent = none
  stylesheet : HasIds s.stylesheet []
  scripts : ∀ script ∈ s.scripts, HasIds script []

theorem hasIds_escape (s : String) : HasIds (escape s) [] := by
  refine ⟨[], emits_plain fun c mem => ?_, rfl⟩
  have char := isValueChar_of_mem_escape mem
  exact ⟨ne_of_class char (by decide), ne_of_class char (by decide)⟩

theorem hasIds_title (title : String) : HasIds ("  <title>" ++ escape title ++ "</title>") [] := by
  have opening : HasIds "  <title>" [] := hasIds_of_map (by decide)
  have closing : HasIds "</title>" [] := hasIds_of_map (by decide)
  exact (opening.append (hasIds_escape title)).append closing

theorem hasIds_openTag {tag : String} {as : List Attribute} (name : isTagName tag = true)
    (plain : Plainly as) : HasIds (openTag tag as) [] := by
  have legible : (Token.opening tag (as.map Attribute.asRead)).Legible :=
    ⟨name, List.forall_mem_map.mpr fun a mem => (plain a mem).1⟩
  refine ⟨_, toList_openTag tag as ▸ emits_written legible rfl, ?_⟩
  exact (List.append_nil _).trans (overlooks_idOf.plainly plain)

theorem hasIds_description (d : String) :
    HasIds ("  <meta name=\"description\" content=\"" ++ escape d ++ "\">") [] := by
  have blanks : HasIds "  " [] := hasIds_of_map (by decide)
  have tag : HasIds (openTag "meta" [.value "name" "description", .value "content" d]) [] :=
    hasIds_openTag (by decide) (plainly_values _ _ (by decide) (by decide))
  have line : "  " ++ openTag "meta" [.value "name" "description", .value "content" d] =
      "  <meta name=\"description\" content=\"" ++ escape d ++ "\">" := by
    refine String.toList_inj.mp ?_
    have same : escape "description" = "description" := by decide
    simp [openTag, attributesText, Css.concat, Attribute.written, same]
  exact line ▸ blanks.append tag

theorem hasIds_navLine (n : NavLine) : HasIds n.text [] := by
  have blanks : HasIds "        " [] := hasIds_of_map (by decide)
  have fragment := n.inline.fragment (fun _ => And.left) n.proper_inline
  exact blanks.append ⟨_, fragment.emits, foundIn_eq_nil overlooks_idOf fragment.attributes⟩

theorem hasIds_headLines {s : Shell} (unadorned : Unadorned s) :
    ∀ line ∈ s.headLines, HasIds line [] := by
  intro line mem
  simp only [Shell.headLines, unadorned.globalHead, unadorned.pageHead, Option.toList_none,
    List.append_nil, List.mem_append, List.mem_cons, List.not_mem_nil, or_false] at mem
  rcases mem with ((rfl | rfl | rfl) | described) | rfl
  · exact hasIds_of_map (by decide)
  · exact hasIds_of_map (by decide)
  · exact hasIds_title s.page.title
  · obtain ⟨d, -, rfl⟩ := Option.map_eq_some_iff.mp (Option.mem_toList.mp described)
    exact hasIds_description d
  · have blanks : HasIds "  " [] := hasIds_of_map (by decide)
    exact blanks.append unadorned.stylesheet

/-- The lines of a page in front of the frame. -/
def linesUpToFrame (s : Shell) : List String :=
  ["<html lang=\"en\">", "<head>"] ++ s.headLines ++ ["</head>", "<body>", "  <header>",
    "    <nav class=\"main-nav\">", "      <ul>"] ++ s.nav.map NavLine.text ++
    ["      </ul>", "    </nav>", "  </header>", "  <main>"]

/-- The lines of a page behind its nodes. -/
def linesAfter (s : Shell) : List String :=
  ["    </div>", "  </main>"] ++ s.scripts.map ("  " ++ ·) ++ ["</body>", "</html>"]

/-- A page without the declaration of its type, which is no element. -/
def markup (s : Shell) : String :=
  linesText (linesUpToFrame s) ++ linesText ["    <div id=\"page-frame\">"] ++ s.layout ++
    linesText (linesAfter s)

theorem text_eq_markup (s : Shell) : s.text = "<!DOCTYPE html>\n" ++ markup s := by
  have lines : ["<!DOCTYPE html>", "<html lang=\"en\">", "<head>"] ++ s.headLines ++
      ["</head>", "<body>"] ++ s.navLines =
      ["<!DOCTYPE html>"] ++ linesUpToFrame s ++ ["    <div id=\"page-frame\">"] := by
    simp only [Shell.navLines, linesUpToFrame, List.append_assoc, List.cons_append, List.nil_append]
  unfold Shell.text markup linesAfter
  rw [lines, linesText_append, linesText_append]
  simp only [String.append_assoc]
  rfl

theorem hasIds_of_mem {lines : List String}
    (each : ∀ line ∈ lines, (read? line).map idsOf = some []) : ∀ line ∈ lines, HasIds line [] :=
  fun line mem => hasIds_of_map (each line mem)

theorem hasIds_linesUpToFrame {s : Shell} (unadorned : Unadorned s) :
    HasIds (linesText (linesUpToFrame s)) [] := by
  have nav : ∀ line ∈ s.nav.map NavLine.text, HasIds line [] :=
    List.forall_mem_map.mpr fun n _ => hasIds_navLine n
  refine hasIds_linesText ?_
  simp only [linesUpToFrame, List.forall_mem_append]
  exact ⟨⟨⟨⟨hasIds_of_mem (by decide), hasIds_headLines unadorned⟩, hasIds_of_mem (by decide)⟩, nav⟩,
    hasIds_of_mem (by decide)⟩

theorem hasIds_linesAfter {s : Shell} (unadorned : Unadorned s) :
    HasIds (linesText (linesAfter s)) [] := by
  have blanks : HasIds "  " [] := hasIds_of_map (by decide)
  have scripts : ∀ line ∈ s.scripts.map ("  " ++ ·), HasIds line [] :=
    List.forall_mem_map.mpr fun script mem => blanks.append (unadorned.scripts script mem)
  refine hasIds_linesText ?_
  simp only [linesAfter, List.forall_mem_append]
  exact ⟨⟨hasIds_of_mem (by decide), scripts⟩, hasIds_of_mem (by decide)⟩

/-- The ids in a page are that of the frame and those of the nodes. -/
theorem hasIds_markup {s : Shell} (unadorned : Unadorned s) {ids : List String}
    (nodes : HasIds s.layout ids) : HasIds (markup s) (frameId :: ids) := by
  have frame : HasIds (linesText ["    <div id=\"page-frame\">"]) [frameId] :=
    hasIds_of_map (by decide)
  have inside := ((hasIds_linesUpToFrame unadorned).append frame).append nodes
  have whole := inside.append (hasIds_linesAfter unadorned)
  rwa [List.append_nil] at whole

/-! ## The files of a project -/

/-- The author adds nothing to the heads of pages, and no scripts to pages. -/
structure AddsNothing (d : Document) (settings : Settings) : Prop where
  globalHead : settings.globalHeadContent = none
  pageHead : ∀ p ∈ d.pages, p.customHeadContent = none
  pageScript : ∀ p ∈ d.pages, p.customJs.getD "" = ""

variable {d : Document} {settings : Settings}

theorem projectScripts_eq {p : Page} (none : p.customJs.getD "" = "") :
    projectScripts p = ["<script src=\"script.js\"></script>"] := by
  have own : (p.customJs.filter fun js => !js.isEmpty) = Option.none := by
    cases code : p.customJs with
    | none => rfl
    | some js =>
      rw [code] at none
      obtain rfl : js = "" := none
      rfl
  rw [projectScripts, own]
  rfl

theorem AddsNothing.unadorned (nothing : AddsNothing d settings) {p : Page} (mem : p ∈ d.pages) :
    Unadorned (projectShell d settings p) where
  globalHead := nothing.globalHead
  pageHead := nothing.pageHead p mem
  stylesheet :=
    show HasIds ("<link rel=\"stylesheet\" href=\"" ++ stylesheetFile ++ "\">") [] from
      hasIds_of_map (by decide)
  scripts := by
    show ∀ script ∈ projectScripts p, HasIds script []
    rw [projectScripts_eq (nothing.pageScript p mem)]
    exact hasIds_of_mem (by decide)

/-- The text of a page is the declaration of its type and markup in which these ids are read. -/
def ReadsIds (text : String) (ids : List String) : Prop :=
  ∃ markup ts, text = "<!DOCTYPE html>\n" ++ markup ∧ read? markup = some ts ∧ idsOf ts = ids

/-- No event of a node of a document is named like the id. -/
def LeavesIds (d : Document) : Prop :=
  ∀ p ∈ d.pages, ∀ n ∈ Node.forestNodes (d.layout p.id), LeavesId n.element

instance (d : Document) : Decidable (LeavesIds d) :=
  inferInstanceAs
    (Decidable (∀ p ∈ d.pages, ∀ n ∈ Node.forestNodes (d.layout p.id), LeavesId n.element))

theorem readsIds_projectPage (nothing : AddsNothing d settings) (leaves : LeavesIds d) {p : Page}
    (mem : p ∈ d.pages) :
    ReadsIds (projectPage d settings (fileNames d.pages) p)
      (frameId :: forestWrittenIds (d.layout p.id)) := by
  have nodes : HasIds (projectShell d settings p).layout (forestWrittenIds (d.layout p.id)) := by
    obtain ⟨ts, read, ids⟩ := exists_idsOf_layoutText (.project (fileNames d.pages)) layoutFormat
      (by decide) (d.layout p.id)
    rw [← idsOf_forestBlocks_of_leaves (.project (fileNames d.pages)) (leaves p mem), ← ids]
    exact hasIds_of_read? read
  obtain ⟨ts, read, ids⟩ := (hasIds_markup (nothing.unadorned mem) nodes).read?
  exact ⟨_, ts, text_eq_markup (projectShell d settings p), read, ids⟩

/-- Every file of a project but the style sheet and the script is that of a page, in which the id of
the frame is read and then those of the elements of its layout. These ids are distinct exactly where
no element has the id of the frame. -/
theorem ids_projectFiles (d : Document) (valid : d.Valid) (theme : Theme) (settings : Settings)
    (viewports : List Viewport) (nothing : AddsNothing d settings) (leaves : LeavesIds d) :
    (∀ p ∈ d.pages, ∃ text,
      (projectFiles d theme settings viewports).get? (fileOf d.pages p.id) = some text) ∧
    ∀ name text, (projectFiles d theme settings viewports).get? name = some text →
      name ≠ stylesheetFile → name ≠ scriptFile →
      ∃ p ∈ d.pages, name = fileOf d.pages p.id ∧
        ∃ ids, ids = frameId :: forestWrittenIds (d.layout p.id) ∧ ReadsIds text ids ∧
          (ids.Nodup ↔ frameId ∉ forestWrittenIds (d.layout p.id)) := by
  have distinct := valid.pageIds_nodup
  refine ⟨fun p mem => ⟨_, get?_projectFiles distinct mem theme settings viewports⟩,
    fun name text file sheet script => ?_⟩
  rcases List.mem_cons.mp ((get?_projectFiles_iff distinct).mp file) with same | later
  · exact absurd (congrArg Prod.fst same) sheet
  rcases List.mem_cons.mp later with same | page
  · exact absurd (congrArg Prod.fst same) script
  obtain ⟨p, mem, same⟩ := List.mem_map.mp page
  cases same
  have nodes : (forestWrittenIds (d.layout p.id)).Nodup :=
    (valid.layout_nodup (List.mem_map_of_mem mem)).sublist
      (sublist_forestIds_forestWrittenIds (d.layout p.id))
  refine ⟨p, mem, rfl, _, rfl, readsIds_projectPage nothing leaves mem, ?_⟩
  rw [List.nodup_cons, and_iff_left nodes]

theorem ids_projectFiles_linkedDocument :
    linkedDocument.Valid ∧
      ∃ text ids,
        (projectFiles linkedDocument {} { globalJs := some "go();" } Viewport.builtIn).get?
          "about-2.html" = some text ∧
        ReadsIds text ids ∧ ids = ["page-frame", "b"] ∧ ids.Nodup := by
  have nothing : AddsNothing linkedDocument { globalJs := some "go();" } :=
    ⟨rfl, by decide, by decide⟩
  have leaves : LeavesIds linkedDocument := by decide
  obtain ⟨there, files⟩ := ids_projectFiles linkedDocument valid_linkedDocument {}
    { globalJs := some "go();" } Viewport.builtIn nothing leaves
  obtain ⟨text, file⟩ :=
    there _ (List.mem_cons_of_mem _ (List.mem_cons_of_mem _ List.mem_cons_self))
  have file := fileOf_team ▸ file
  obtain ⟨p, mem, named, ids, same, read, distinct⟩ := files _ text file (by decide) (by decide)
  -- Of the three pages, only the last has this file.
  have others : fileOf linkedDocument.pages "home" ≠ "about-2.html" ∧
      fileOf linkedDocument.pages "about" ≠ "about-2.html" := by decide
  rcases List.mem_cons.mp mem with rfl | later
  · exact absurd named.symm others.1
  rcases List.mem_cons.mp later with rfl | last
  · exact absurd named.symm others.2
  obtain rfl := List.mem_singleton.mp last
  subst same
  exact ⟨valid_linkedDocument, text, _, file, read, rfl, distinct.mpr (by decide)⟩

/-- A document with a node that is named like the frame. -/
def framedDocument : Document :=
  let d := Document.ofPage { id := "home", name := "Home" }
  { d with layouts := d.layouts.insert "home" [.bare frameId .text "T"] }

theorem valid_framedDocument : framedDocument.Valid :=
  (Document.valid_ofPage { id := "home", name := "Home" }).withLayout
    (Document.withLayout_ok_iff.mpr ⟨List.mem_cons_self, rfl⟩) (by decide) (by decide)

/-- Distinct ids of nodes do not make the ids in a page distinct. -/
theorem exists_repeated_frame :
    framedDocument.Valid ∧ AddsNothing framedDocument {} ∧ LeavesIds framedDocument ∧
      ∃ text, (projectFiles framedDocument {} {} Viewport.builtIn).get? "index.html" = some text ∧
        ReadsIds text ["page-frame", "page-frame"] := by
  have nothing : AddsNothing framedDocument {} := ⟨rfl, by decide, by decide⟩
  have leaves : LeavesIds framedDocument := by decide
  have index : fileOf framedDocument.pages "home" = "index.html" := fileOf_head (by decide)
  have home : ({ id := "home", name := "Home" } : Page) ∈ framedDocument.pages := List.mem_cons_self
  refine ⟨valid_framedDocument, nothing, leaves, _, ?_, readsIds_projectPage nothing leaves home⟩
  rw [← index]
  exact get?_projectFiles valid_framedDocument.pageIds_nodup home {} {} Viewport.builtIn

end PageStudio.Site
