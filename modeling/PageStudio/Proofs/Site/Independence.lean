import PageStudio.Proofs.Document.Validity
import PageStudio.Proofs.Site.Export

/-!
# What the text of a page depends on

Of the other pages of a document, the text of a page tells no more than their ids and names in
order. File names and the navigation are made from these alone; whatever else goes into the text is
of the page itself or of the project as a whole.

## Main statements

* `pageTexts_eq`: documents that agree on a page give that page the same texts.
-/

namespace PageStudio.Site

open Html Style

/-- What a page shows of another one. -/
def nameplate (p : Page) : String × String := (p.id, p.name)

/-! ## File names -/

/-- File names are made of the ids and names of pages. -/
theorem namesFrom_congr {taken : List String} {ps qs : List Page}
    (same : ps.map nameplate = qs.map nameplate) : namesFrom taken ps = namesFrom taken qs := by
  induction ps generalizing taken qs with
  | nil =>
    cases qs with
    | nil => rfl
    | cons q qs => cases same
  | cons p ps ih =>
    cases qs with
    | nil => cases same
    | cons q qs =>
      obtain ⟨here, there⟩ := List.cons.inj same
      have id : p.id = q.id := congrArg Prod.fst here
      have name : p.name = q.name := congrArg Prod.snd here
      have stems : stem p = stem q := by rw [stem, name, stem]
      simp only [namesFrom, id, stems, ih there]

theorem fileNames_congr {ps qs : List Page} (same : ps.map nameplate = qs.map nameplate) :
    fileNames ps = fileNames qs := by
  rw [fileNames, namesFrom_congr same, fileNames]

/-- Every entry for a page that shows no more of it than its nameplate. -/
theorem map_eq_of_nameplate {α : Type} {ps qs : List Page}
    (same : ps.map nameplate = qs.map nameplate) (entry : String × String → α) :
    ps.map (fun p => entry (nameplate p)) = qs.map fun q => entry (nameplate q) := by
  have entries := congrArg (List.map entry) same
  rwa [List.map_map, List.map_map] at entries

/-! ## Documents that agree on a page -/

/-- Two documents have pages with the same ids and names in the same order, and share one page with
its layout. -/
structure AgreeOn (d d' : Document) (p : Page) : Prop where
  nameplates : d.pages.map nameplate = d'.pages.map nameplate
  mem_left : p ∈ d.pages
  mem_right : p ∈ d'.pages
  layout : d.layout p.id = d'.layout p.id

variable {d d' : Document} {p : Page}

theorem AgreeOn.pageIds (agree : AgreeOn d d' p) : d.pageIds = d'.pageIds :=
  map_eq_of_nameplate agree.nameplates Prod.fst

theorem projectNav_congr (same : d.pages.map nameplate = d'.pages.map nameplate) (p : Page) :
    projectNav d (fileNames d.pages) p = projectNav d' (fileNames d'.pages) p := by
  rw [projectNav_eq, projectNav_eq]
  unfold fileOf
  rw [← fileNames_congr same]
  exact map_eq_of_nameplate same fun n =>
    (⟨"./" ++ ((fileNames d.pages).get? n.1).getD "#", n.2, n.1 == p.id⟩ : NavLine)

/-- The text of a page in a project is the same. -/
theorem projectPage_congr (agree : AgreeOn d d' p) (settings : Settings) :
    projectPage d settings (fileNames d.pages) p =
      projectPage d' settings (fileNames d'.pages) p := by
  rw [projectPage, projectNav_congr agree.nameplates, fileNames_congr agree.nameplates,
    agree.layout, projectPage]

/-- The text of a page that stands alone is the same. -/
theorem standalonePage_congr (agree : AgreeOn d d' p) (theme : Theme) (settings : Settings)
    (frame : Viewport) (viewports : List Viewport) :
    standalonePage d theme settings frame viewports p =
      standalonePage d' theme settings frame viewports p := by
  have nav := map_eq_of_nameplate agree.nameplates fun n =>
    (⟨inertAddress, n.2, n.1 == p.id⟩ : NavLine)
  have sheet : pageStylesheet d theme frame viewports p.id =
      pageStylesheet d' theme frame viewports p.id := by
    rw [pageStylesheet, agree.layout, pageStylesheet]
  unfold nameplate at nav
  rw [standalonePage, nav, sheet, agree.layout, standalonePage]

/-! ## The texts of a page -/

/-- A page is found by its id. -/
theorem page?_of_mem (distinct : d.pageIds.Nodup) (mem : p ∈ d.pages) : d.page? p.id = some p := by
  obtain ⟨q, found⟩ := Document.exists_page?_iff.mpr (List.mem_map_of_mem mem)
  obtain ⟨there, id⟩ := Document.of_page?_eq_some found
  rw [found, List.inj_on_of_nodup_map distinct there mem id]

/-- A page has the same text standing alone, and the same file with the same text in a project,
whatever else is in the documents. -/
theorem pageTexts_eq (d d' : Document) (p : Page) (distinct : d.pageIds.Nodup)
    (agree : AgreeOn d d' p) (theme : Theme) (settings : Settings) (frame : Viewport)
    (viewports : List Viewport) :
    (singlePage d theme settings frame viewports p.id =
        standalonePage d theme settings frame viewports p ∧
      singlePage d theme settings frame viewports p.id =
        singlePage d' theme settings frame viewports p.id) ∧
    ∃ name text,
      ((fileNames d.pages).get? p.id = some name ∧
        (projectFiles d theme settings viewports).get? name = some text) ∧
      (fileNames d'.pages).get? p.id = some name ∧
        (projectFiles d' theme settings viewports).get? name = some text := by
  have distinct' : d'.pageIds.Nodup := agree.pageIds ▸ distinct
  have alone : singlePage d theme settings frame viewports p.id =
      standalonePage d theme settings frame viewports p := by
    rw [singlePage, page?_of_mem distinct agree.mem_left]
  have alone' : singlePage d' theme settings frame viewports p.id =
      standalonePage d' theme settings frame viewports p := by
    rw [singlePage, page?_of_mem distinct' agree.mem_right]
  have file : fileOf d.pages p.id = fileOf d'.pages p.id := by
    rw [fileOf, fileNames_congr agree.nameplates, fileOf]
  refine ⟨⟨alone, ?_⟩, fileOf d.pages p.id, projectPage d settings (fileNames d.pages) p,
    ⟨?_, ?_⟩, ?_, ?_⟩
  · rw [alone, alone', standalonePage_congr agree]
  · exact get?_fileNames (List.mem_map_of_mem agree.mem_left)
  · exact get?_projectFiles distinct agree.mem_left theme settings viewports
  · rw [file]
    exact get?_fileNames (List.mem_map_of_mem agree.mem_right)
  · rw [file, projectPage_congr agree]
    exact get?_projectFiles distinct' agree.mem_right theme settings viewports

/-- A document of two pages with a text on the first. -/
def quietDocument : Document where
  pages := [{ id := "home", name := "Home" }, { id := "about", name := "About us" }]
  layouts := Dict.ofList [("home", [(Node.bare "t" .text "Text").withLink (.page "about")]),
    ("about", [])]
  activePageId := "home"

/-- The same two pages, the second with a title, a script, nodes and head content of its own, and
active. -/
def loudDocument : Document where
  pages := [{ id := "home", name := "Home" },
    { id := "about", name := "About us", seoTitle := some "Us", customJs := some "alert(1)",
      customHeadContent := some "<base href=\"/\">" }]
  layouts := Dict.ofList [("home", [(Node.bare "t" .text "Text").withLink (.page "about")]),
    ("about", [Node.bare "s" .spinner "Spinner"])]
  activePageId := "about"

theorem pageTexts_eq_loudDocument :
    let home : Page := { id := "home", name := "Home" }
    quietDocument.pageIds.Nodup ∧ AgreeOn quietDocument loudDocument home ∧
      singlePage quietDocument {} {} .desktop Viewport.builtIn "home" =
        singlePage loudDocument {} {} .desktop Viewport.builtIn "home" ∧
      ∃ name text, (projectFiles quietDocument {} {} Viewport.builtIn).get? name = some text ∧
        (projectFiles loudDocument {} {} Viewport.builtIn).get? name = some text := by
  intro home
  have distinct : quietDocument.pageIds.Nodup := by decide
  have agree : AgreeOn quietDocument loudDocument home :=
    ⟨rfl, List.mem_cons_self, List.mem_cons_self, rfl⟩
  obtain ⟨⟨-, same⟩, name, text, ⟨-, quiet⟩, -, loud⟩ :=
    pageTexts_eq quietDocument loudDocument home distinct agree {} {} .desktop Viewport.builtIn
  exact ⟨distinct, agree, same, name, text, quiet, loud⟩

end PageStudio.Site
