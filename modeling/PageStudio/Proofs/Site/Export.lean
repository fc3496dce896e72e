import PageStudio.Proofs.Document.NodeIds
import PageStudio.Proofs.Html.Links
import PageStudio.Proofs.Site.FileNames
import PageStudio.Site.Export

/-!
# The files of a project

A project has a file for every page and two that all pages share, and no file is written over
another. Its links lead to its own files: those of the navigation to all pages in turn, and those of
nodes to the page of the link, or nowhere if there is no such page.

## Main statements

* `projectFiles_linked`: the files of a project and their links.
* `unwritten_link`: a node whose link is missing in the file of its page.
-/

namespace PageStudio.Site

open Html Style

variable {d : Document}

/-! ## File names as addresses -/

theorem escape_eq_self {s : String} (safe : ∀ c ∈ s.toList, escapeChar c = [c]) :
    escape s = s := by
  refine String.toList_inj.mp ?_
  rw [toList_escape]
  calc s.toList.flatMap escapeChar
      = s.toList.flatMap fun c => [c] := List.flatMap_congr safe
    _ = s.toList := List.flatMap_singleton' _

theorem escapeChar_of_isNameChar {c : Char} (safe : Text.isNameChar c = true) :
    escapeChar c = [c] := by
  have ne : ∀ d : Char, Text.isNameChar d = false → c ≠ d := fun d => ne_of_class safe
  simp only [escapeChar, ne '&' rfl, ne '<' rfl, ne '>' rfl, ne '"' rfl, ne '\'' rfl, if_false]

theorem escapeChar_of_all {s : List Char} (plain : (s.all fun c => escapeChar c == [c]) = true)
    {c : Char} (mem : c ∈ s) : escapeChar c = [c] := eq_of_beq (List.all_eq_true.mp plain c mem)

/-- The addresses of pages are written as they are. -/
theorem escape_fileOf (pages : List Page) (id : String) :
    escape (fileOf pages id) = fileOf pages id := by
  refine escape_eq_self fun c mem => ?_
  by_cases page : id ∈ pages.map (·.id)
  · obtain ⟨front, chars, safe⟩ := isPageFile_fileOf page
    rw [chars] at mem
    rcases List.mem_append.mp mem with inside | ending
    · exact escapeChar_of_isNameChar (safe c inside)
    · exact escapeChar_of_all (by decide) ending
  · rw [fileOf_of_not_mem page] at mem
    exact escapeChar_of_all (by decide) mem

/-! ## The files -/

/-- No page has the file of the style sheet or that of the script. -/
theorem not_isPageFile_shared : ¬ IsPageFile stylesheetFile ∧ ¬ IsPageFile scriptFile := by
  constructor
  · exact fun page => page.ne (by decide) rfl
  · exact fun page => page.ne (by decide) rfl

/-- The files of a project in the order in which they are made. -/
def projectEntries (d : Document) (theme : Theme) (settings : Settings)
    (viewports : List Viewport) : List (String × String) :=
  (stylesheetFile, projectStylesheet d theme viewports) ::
    (scriptFile, sharedScript settings) ::
    d.pages.map fun p => (fileOf d.pages p.id, projectPage d settings (fileNames d.pages) p)

theorem projectFiles_eq (d : Document) (theme : Theme) (settings : Settings)
    (viewports : List Viewport) :
    projectFiles d theme settings viewports =
      Dict.ofList (projectEntries d theme settings viewports) := by
  unfold projectFiles projectEntries Dict.ofList
  rw [List.foldl_cons, List.foldl_cons, List.foldl_map]
  refine List.foldl_ext _ _ _ fun files p mem => ?_
  rw [get?_fileNames (List.mem_map_of_mem mem)]

theorem map_fst_projectEntries (d : Document) (theme : Theme) (settings : Settings)
    (viewports : List Viewport) :
    (projectEntries d theme settings viewports).map (·.1) =
      stylesheetFile :: scriptFile :: d.pages.map fun p => fileOf d.pages p.id := by
  unfold projectEntries
  rw [List.map_cons, List.map_cons, List.map_map]
  rfl

/-- The names of the files of a project are distinct. -/
theorem nodup_files (distinct : d.pageIds.Nodup) :
    (stylesheetFile :: scriptFile :: d.pages.map fun p => fileOf d.pages p.id).Nodup := by
  have pages : ∀ name ∈ d.pages.map fun p => fileOf d.pages p.id, IsPageFile name := by
    refine List.forall_mem_map.mpr fun p mem => ?_
    exact isPageFile_fileOf (List.mem_map_of_mem mem)
  refine List.nodup_cons.mpr ⟨fun again => ?_, List.nodup_cons.mpr ⟨fun again => ?_, ?_⟩⟩
  · rcases List.mem_cons.mp again with same | page
    · exact absurd same (by decide)
    · exact not_isPageFile_shared.1 (pages _ page)
  · exact not_isPageFile_shared.2 (pages _ again)
  · exact nodup_fileOf distinct

/-- The files of a project are its style sheet, its script and those of its pages. -/
theorem get?_projectFiles_iff (distinct : d.pageIds.Nodup) {theme : Theme} {settings : Settings}
    {viewports : List Viewport} {name text : String} :
    (projectFiles d theme settings viewports).get? name = some text ↔
      (name, text) ∈ projectEntries d theme settings viewports := by
  have once : ((projectEntries d theme settings viewports).map (·.1)).Nodup := by
    rw [map_fst_projectEntries]
    exact nodup_files distinct
  rw [projectFiles_eq]
  exact ⟨Dict.mem_of_get?_ofList, Dict.get?_ofList_of_mem once⟩

/-- The file of a page has the text of the page. -/
theorem get?_projectFiles {p : Page} (distinct : d.pageIds.Nodup) (mem : p ∈ d.pages)
    (theme : Theme) (settings : Settings) (viewports : List Viewport) :
    (projectFiles d theme settings viewports).get? (fileOf d.pages p.id) =
      some (projectPage d settings (fileNames d.pages) p) :=
  (get?_projectFiles_iff distinct).mpr
    (List.mem_cons_of_mem _ (List.mem_cons_of_mem _ (List.mem_map_of_mem mem)))

/-! ## The text of a page -/

theorem linesText_append (front back : List String) :
    linesText (front ++ back) = linesText front ++ linesText back := by
  rw [linesText, List.map_append, Css.concat_append]
  rfl

/-- The lines of a page in front of the entries of the navigation. -/
def linesBefore (s : Shell) : List String :=
  ["<!DOCTYPE html>", "<html lang=\"en\">", "<head>"] ++ s.headLines ++
    ["</head>", "<body>", "  <header>", "    <nav class=\"main-nav\">"]

/-- The lines of a page between the entries of the navigation and the nodes. -/
def linesBetween : List String :=
  ["    </nav>", "  </header>", "  <main>", "    <div id=\"page-frame\">"]

/-- The text of a page has the entries of the navigation as the only items of its list, and the
markup of the nodes behind it. -/
theorem exists_text_eq (s : Shell) :
    ∃ back, s.text = linesText (linesBefore s) ++ "      <ul>\n" ++
      linesText (s.nav.map NavLine.text) ++ "      </ul>\n" ++ linesText linesBetween ++
      s.layout ++ back := by
  refine ⟨linesText (["    </div>", "  </main>"] ++ s.scripts.map ("  " ++ ·) ++
    ["</body>", "</html>"]), ?_⟩
  have lines : ["<!DOCTYPE html>", "<html lang=\"en\">", "<head>"] ++ s.headLines ++
      ["</head>", "<body>"] ++ s.navLines =
      linesBefore s ++ ["      <ul>"] ++ s.nav.map NavLine.text ++ ["      </ul>"] ++
        linesBetween := by
    simp only [Shell.navLines, linesBefore, linesBetween, List.append_assoc, List.cons_append,
      List.nil_append]
  unfold Shell.text
  rw [lines]
  simp only [linesText_append]
  rfl

/-! ## The navigation -/

/-- An entry of the navigation as markup. -/
def NavLine.inline (n : NavLine) : Inline :=
  .element "li" [] [.element "a"
    [.value "href" n.address, cls (if n.active then "nav-link active" else "nav-link")]
    [.text n.label]]

theorem NavLine.proper_inline (n : NavLine) : n.inline.Proper PlainAttribute :=
  ⟨⟨by decide, nofun⟩, ⟨⟨by decide, plainly_values _ _ (by decide) (by decide)⟩, trivial, trivial⟩,
    trivial⟩

theorem NavLine.addressesOf_inline (n : NavLine) : addressesOf n.inline.marks = [n.address] := by
  have address : addressOf ("href", some (escape n.address)) = some n.address :=
    congrArg some (decode_escape n.address)
  have other : ∀ text, addressOf ("class", text) = none := fun _ =>
    if_neg (show "class" ≠ "href" by decide)
  simp only [inline, Inline.marks, contentMarks, cls, addressesOf, Token.attributes,
    List.map_cons, List.map_nil, Attribute.asRead, List.cons_append, List.nil_append,
    List.flatMap_cons, List.flatMap_nil, List.filterMap_cons, List.filterMap_nil, address, other]

/-- The entries of a navigation read as their marks. -/
theorem emits_navText (nav : List NavLine) :
    Emits (linesText (nav.map NavLine.text)).toList (nav.flatMap (·.inline.marks)) := by
  induction nav with
  | nil => exact emits_plain plain_nil
  | cons n rest ih =>
    have entry := (n.inline.fragment (fun _ => And.left) n.proper_inline).emits
    have blanks : Emits "        ".toList [] := emits_plain (by decide)
    have ending : Emits "\n".toList [] := emits_plain (by decide)
    have line := ((blanks.append entry).append ending).append ih
    have text : linesText ((n :: rest).map NavLine.text) =
        "        " ++ n.inline.written ++ "\n" ++ linesText (rest.map NavLine.text) := rfl
    rw [text, String.toList_append, String.toList_append, String.toList_append, List.flatMap_cons]
    rwa [List.nil_append, List.append_nil] at line

/-- The addresses of a navigation are read in its text. -/
theorem exists_read?_navText (nav : List NavLine) :
    ∃ ts, read? (linesText (nav.map NavLine.text)) = some ts ∧
      addressesOf ts = nav.map (·.address) := by
  obtain ⟨ts, read, marks⟩ := (emits_navText nav).read?
  refine ⟨ts, read, ?_⟩
  rw [← addressesOf_filter_isMark, marks]
  calc addressesOf (nav.flatMap (·.inline.marks))
      = nav.flatMap fun n => addressesOf n.inline.marks := List.flatMap_assoc
    _ = nav.flatMap fun n => [n.address] := by simp only [NavLine.addressesOf_inline]
    _ = nav.map (·.address) := List.map_eq_flatMap.symm

/-- The navigation of every page has an entry for each page in turn. -/
theorem projectNav_eq (d : Document) (p : Page) :
    projectNav d (fileNames d.pages) p =
      d.pages.map fun q => ⟨"./" ++ fileOf d.pages q.id, q.name, q.id == p.id⟩ := by
  unfold projectNav
  rw [← List.filterMap_eq_map]
  refine List.filterMap_congr fun q mem => ?_
  rw [get?_fileNames (List.mem_map_of_mem mem)]
  rfl

/-! ## The links of a page -/

/-- The page of a project as what its text is made of. -/
def projectShell (d : Document) (settings : Settings) (p : Page) : Shell where
  page := p
  settings
  nav := projectNav d (fileNames d.pages) p
  stylesheet := "<link rel=\"stylesheet\" href=\"" ++ stylesheetFile ++ "\">"
  scripts := projectScripts p
  layout := layoutText (.project (fileNames d.pages)) layoutFormat (d.layout p.id)

theorem projectPage_eq (d : Document) (settings : Settings) (p : Page) :
    projectPage d settings (fileNames d.pages) p = (projectShell d settings p).text := rfl

/-- The links in the text of a page of a project. The entries of the navigation lead to all pages in
turn, and every shown node with a link to a page stands in an anchor with the address of that page.
-/
structure LinksOf (d : Document) (settings : Settings) (p : Page) : Prop where
  text : ∃ back, projectPage d settings (fileNames d.pages) p =
    linesText (linesBefore (projectShell d settings p)) ++
      "      <ul>\n" ++ linesText ((projectNav d (fileNames d.pages) p).map NavLine.text) ++
      "      </ul>\n" ++ linesText linesBetween ++
      layoutText (.project (fileNames d.pages)) layoutFormat (d.layout p.id) ++ back
  nav : ∃ ts, read? (linesText ((projectNav d (fileNames d.pages) p).map NavLine.text)) = some ts ∧
    addressesOf ts = d.pages.map fun q => "./" ++ fileOf d.pages q.id
  nodes : ∃ ts,
    read? (layoutText (.project (fileNames d.pages)) layoutFormat (d.layout p.id)) = some ts ∧
    ∀ n ∈ Node.forestNodes (shownForest (d.layout p.id)), ∀ id,
      n.element.link = some (.page id) →
      .opening "a" [("href", some (fileOf d.pages id))] ::
        elementMarks (.project (fileNames d.pages)) n ++ [.closing "a"] <:+:
          ts.filter Token.isMark

theorem linksOf (d : Document) (settings : Settings) (p : Page) : LinksOf d settings p := by
  refine ⟨?_, ?_, ?_⟩
  · rw [projectPage_eq]
    exact exists_text_eq (projectShell d settings p)
  · obtain ⟨ts, read, addresses⟩ := exists_read?_navText (projectNav d (fileNames d.pages) p)
    refine ⟨ts, read, addresses.trans ?_⟩
    rw [projectNav_eq, List.map_map]
    rfl
  · obtain ⟨ts, read, marks⟩ := exists_read?_layoutText (.project (fileNames d.pages))
      layoutFormat (by decide) (d.layout p.id)
    refine ⟨ts, read, fun n mem id link => ?_⟩
    have anchor := anchored_infix (.project (fileNames d.pages)) mem link
    have address : (LinkMode.project (fileNames d.pages)).address (.page id) =
        fileOf d.pages id := rfl
    rw [address, anchored, escape_fileOf] at anchor
    rw [marks]
    exact anchor

/-! ## The files and their links -/

/-- A project has its two shared files and, under the name of each page, the text of that page, and
nothing else; the first page is the index. Its links to pages have the addresses of files that are
there, and links to pages that are not there lead nowhere. -/
theorem projectFiles_linked (d : Document) (valid : d.Valid) (theme : Theme) (settings : Settings)
    (viewports : List Viewport) :
    let files := projectFiles d theme settings viewports
    let file := fileOf d.pages
    let names := stylesheetFile :: scriptFile :: d.pages.map fun p => file p.id
    (names.Nodup ∧ files.keys.Perm names ∧ files.size = d.pages.length + 2) ∧
    (files.get? stylesheetFile = some (projectStylesheet d theme viewports) ∧
      files.get? scriptFile = some (sharedScript settings)) ∧
    (∀ p ∈ d.pages, (fileNames d.pages).get? p.id = some (file p.id) ∧
      files.get? (file p.id) = some (projectPage d settings (fileNames d.pages) p) ∧
      LinksOf d settings p) ∧
    (∀ p, d.pages.head? = some p → file p.id = "index.html") ∧
    (∀ id ∈ d.pageIds, file id ∈ files.keys) ∧ ∀ id ∉ d.pageIds, file id = "#" := by
  intro files file names
  have distinct := valid.pageIds_nodup
  let entries := projectEntries d theme settings viewports
  have made : files = Dict.ofList entries := projectFiles_eq d theme settings viewports
  have keys : entries.map (·.1) = names := map_fst_projectEntries d theme settings viewports
  have once : (entries.map (·.1)).Nodup := keys ▸ nodup_files distinct
  have found : ∀ {name text}, (name, text) ∈ entries → files.get? name = some text :=
    fun mem => made ▸ Dict.get?_ofList_of_mem once mem
  have perm : files.keys.Perm names := keys ▸ made ▸ Dict.perm_keys_ofList once
  refine ⟨⟨keys ▸ once, perm, ?_⟩, ⟨?_, ?_⟩, fun p mem => ⟨?_, ?_, ?_⟩, ?_, fun id page => ?_,
    fun id missing => fileOf_of_not_mem missing⟩
  · have length := perm.length_eq
    rw [Dict.keys, List.length_map] at length
    rw [Dict.size, length]
    simp only [names, List.length_cons, List.length_map]
  · exact found List.mem_cons_self
  · exact found (List.mem_cons_of_mem _ List.mem_cons_self)
  · exact get?_fileNames (List.mem_map_of_mem mem)
  · exact found (List.mem_cons_of_mem _ (List.mem_cons_of_mem _ (List.mem_map_of_mem mem)))
  · exact linksOf d settings p
  · intro p first
    obtain ⟨rest, pages⟩ := List.head?_eq_some_iff.mp first
    show fileOf d.pages p.id = _
    have distinct : (d.pages.map (·.id)).Nodup := distinct
    rw [pages] at distinct ⊢
    exact fileOf_head distinct
  · obtain ⟨p, mem, rfl⟩ := List.mem_map.mp page
    refine perm.mem_iff.mpr ?_
    exact List.mem_cons_of_mem _ (List.mem_cons_of_mem _ (List.mem_map_of_mem mem))

/-- A text with a link to another page, with a text inside that has one as well. -/
def linkedText : Node :=
  (Node.bare "t" .text "Text").withLink (.page "team") |>.withChild
    ((Node.bare "c" .text "Text").withLink (.page "about"))

/-- A text with a link to a page that is not there. -/
def strayText : Node := (Node.bare "b" .text "Text").withLink (.page "gone")

/-- A document of three pages, two of them called alike, with these texts on the first and the last.
-/
def linkedDocument : Document where
  pages := [{ id := "home", name := "Home" }, { id := "about", name := "About" },
    { id := "team", name := "About" }]
  layouts := Dict.ofList [("home", [linkedText]), ("about", []), ("team", [strayText])]
  activePageId := "home"

theorem valid_linkedDocument : linkedDocument.Valid where
  pages_ne_nil := List.cons_ne_nil _ _
  pageIds_nodup := by decide
  mem_layouts_iff _ := Dict.mem_keys_ofList
  active_mem := by decide
  nodeIds_nodup := by decide

/-- The page that comes second under its name has a number in the name of its file. -/
theorem fileOf_team : fileOf linkedDocument.pages "team" = "about-2.html" := by decide

theorem projectFiles_linked_linkedDocument :
    let files := projectFiles linkedDocument {} {} Viewport.builtIn
    let mode := LinkMode.project (fileNames linkedDocument.pages)
    linkedDocument.Valid ∧ files.size = 5 ∧ "about-2.html" ∈ files.keys ∧
      (∃ ts, read? (layoutText mode layoutFormat (linkedDocument.layout "home")) = some ts ∧
        .opening "a" [("href", some "about-2.html")] :: elementMarks mode linkedText ++
          [.closing "a"] <:+: ts.filter Token.isMark) ∧
      ∃ ts, read? (layoutText mode layoutFormat (linkedDocument.layout "team")) = some ts ∧
        .opening "a" [("href", some "#")] :: elementMarks mode strayText ++
          [.closing "a"] <:+: ts.filter Token.isMark := by
  intro files mode
  obtain ⟨⟨-, -, size⟩, -, pages, -, closed, none⟩ :=
    projectFiles_linked linkedDocument valid_linkedDocument {} {} Viewport.builtIn
  have team := closed "team" (by decide)
  have links {p : Page} (mem : p ∈ linkedDocument.pages) := (pages p mem).2.2.nodes
  obtain ⟨ts, read, anchors⟩ := links List.mem_cons_self
  have anchor := anchors (shownNode linkedText) List.mem_cons_self "team" rfl
  obtain ⟨ts', read', anchors'⟩ :=
    links (List.mem_cons_of_mem _ (List.mem_cons_of_mem _ List.mem_cons_self))
  have anchor' := anchors' (shownNode strayText) List.mem_cons_self "gone" rfl
  rw [fileOf_team] at team anchor
  rw [none "gone" (by decide)] at anchor'
  exact ⟨valid_linkedDocument, size, team, ⟨ts, read, anchor⟩, ts', read', anchor'⟩

/-- A linked node that is not written, since its parent is of a kind that shows no children. -/
theorem unwritten_link :
    linkedDocument.Valid ∧
      (∃ n ∈ Node.forestNodes (linkedDocument.layout "home"),
        n.id = "c" ∧ n.element.link = some (.page "about")) ∧
      ∃ ts, read? (layoutText (.project (fileNames linkedDocument.pages)) layoutFormat
          (linkedDocument.layout "home")) = some ts ∧ "c" ∉ idsOf ts := by
  refine ⟨valid_linkedDocument, ?_, ?_⟩
  · refine ⟨(Node.bare "c" .text "Text").withLink (.page "about"), ?_, rfl, rfl⟩
    exact List.mem_cons_of_mem _ List.mem_cons_self
  · refine ⟨[.text "      ", .opening "a" [("href", some "about-2.html")], .text "\n        ",
      .opening "p" [("id", some "t")], .closing "p", .text "\n      ", .closing "a",
      .text "\n"], ?_, ?_⟩
    · decide
    · decide

end PageStudio.Site
