import PageStudio.Proofs.Css.StyleEnd
import PageStudio.Proofs.Html.Escape
import PageStudio.Proofs.Site.Export

/-!
# The style sheet inside a page

A page that stands alone has its style sheet inside, in the first `style` element of its text. The
style sheet is not escaped there: the element has all of it exactly if no declared value ends the
element (`inlineStyle?_singlePage_iff`).
-/

namespace PageStudio.Site

open Css Html Style Text

/-! ## Reading a page -/

/-- The tag in front of a style sheet, with the end of its line. -/
def styleStart : List Char := "<style>\n".toList

/-- What the first `style` element of a page has inside: all in front of the first `</style` behind
its tag. Letter case does not count. -/
def inlineStyle? (page : String) : Option String :=
  (cutAt? styleStart page.toList).bind fun start =>
    (cutAt? styleEnd start.2).map fun style => String.ofList style.1

/-! ## The head of a page -/

/-- The lines in front of the style sheet. -/
def linesBeforeStyle (p : Page) : List String :=
  ["<!DOCTYPE html>", "<html lang=\"en\">", "<head>",
   "  <meta charset=\"UTF-8\">",
   "  <meta name=\"viewport\" content=\"width=device-width, initial-scale=1.0\">",
   "  <title>" ++ escape p.title ++ "</title>"] ++
  (p.seoDescription.map fun d => "  <meta name=\"description\" content=\"" ++ escape d ++ "\">").toList

/-- The style sheet of a page stands behind the beginning of its head. -/
theorem exists_text_eq_style (s : Shell) :
    ∃ back, s.text = linesText (linesBeforeStyle s.page) ++ "  " ++ s.stylesheet ++ back := by
  refine ⟨"\n" ++ linesText (s.settings.globalHeadContent.toList ++
    s.page.customHeadContent.toList ++ ["</head>", "<body>"] ++ s.navLines) ++ s.layout ++
    linesText (["    </div>", "  </main>"] ++ s.scripts.map ("  " ++ ·) ++ ["</body>", "</html>"]),
    ?_⟩
  have lines : ["<!DOCTYPE html>", "<html lang=\"en\">", "<head>"] ++ s.headLines ++
      ["</head>", "<body>"] ++ s.navLines =
      linesBeforeStyle s.page ++ ["  " ++ s.stylesheet] ++ (s.settings.globalHeadContent.toList ++
        s.page.customHeadContent.toList ++ ["</head>", "<body>"] ++ s.navLines) := by
    simp only [Shell.headLines, linesBeforeStyle, List.append_assoc, List.cons_append,
      List.nil_append]
  have line : ∀ t, linesText [t] = t ++ "\n" := fun t => String.append_empty
  unfold Shell.text
  rw [lines, linesText_append, linesText_append (linesBeforeStyle s.page), line]
  simp only [String.append_assoc]

theorem quiet_escape (s : String) : Quiet (escape s) := fun mem =>
  absurd (isValueChar_of_mem_escape mem) (by decide)

/-- No `style` element begins in front of the style sheet. -/
theorem brings_linesBeforeStyle (p : Page) :
    Brings styleStart (caseless (linesText (linesBeforeStyle p))) False := by
  have escaped : ∀ t, Brings styleStart (caseless (escape t)) False := fun t =>
    brings_of_not_mem (quiet_escape t).not_mem_caseless
  have fixed : ∀ {t}, avoids styleStart (caseless t) = true →
      Brings styleStart (caseless t) False := brings_of_avoids
  have title : Brings styleStart (caseless ("  <title>" ++ escape p.title ++ "</title>" ++ "\n"))
      False :=
    (((fixed (by decide)).neither (escaped p.title)).neither (fixed (by decide))).neither
      (fixed (by decide))
  have description : ∀ d, Brings styleStart (caseless
      ("  <meta name=\"description\" content=\"" ++ escape d ++ "\">" ++ "\n")) False := fun d =>
    (((fixed (by decide)).neither (escaped d)).neither (fixed (by decide))).neither
      (fixed (by decide))
  have lines : ∀ line ∈ linesBeforeStyle p, Brings styleStart (caseless (line ++ "\n")) False := by
    refine List.forall_mem_append.mpr ⟨?_, ?_⟩
    · iterate 5 refine List.forall_mem_cons.mpr ⟨fixed (by decide), ?_⟩
      exact List.forall_mem_singleton.mpr title
    · cases p.seoDescription with
      | none => nofun
      | some d => exact List.forall_mem_singleton.mpr (description d)
  exact (brings_concat lines).congr ⟨fun ⟨_, _, no⟩ => no, False.elim⟩

/-! ## The whole page -/

variable {d : Document} {theme : Theme}

theorem exists_page?_eq {id : String} (page : id ∈ d.pageIds) :
    ∃ p, d.page? id = some p ∧ p.id = id := by
  obtain ⟨p, found⟩ := Document.exists_page?_iff.mpr page
  exact ⟨p, found, (Document.of_page?_eq_some found).2⟩

/-- The first `style` element of a page begins in front of its style sheet. -/
theorem exists_cutAt?_styleStart (d : Document) (theme : Theme) (settings : Settings)
    (frame : Viewport) (viewports : List Viewport) (p : Page) :
    ∃ front back, cutAt? styleStart
        (standalonePage d theme settings frame viewports p).toList =
      some (front, (pageStylesheet d theme frame viewports p.id).toList ++ (styleEnd ++ back)) := by
  generalize sheet_eq : pageStylesheet d theme frame viewports p.id = sheet
  obtain ⟨back, text⟩ : ∃ back, standalonePage d theme settings frame viewports p =
      linesText (linesBeforeStyle p) ++ "  " ++ ("<style>\n" ++ sheet ++ "</style>") ++ back := by
    rw [← sheet_eq]
    exact exists_text_eq_style _
  have tag : styleStart = ['<', 's', 't', 'y', 'l', 'e', '>', '\n'] := by decide
  have closing : "</style>".toList = styleEnd ++ ['>'] := by decide
  have chars : (standalonePage d theme settings frame viewports p).toList =
      (linesText (linesBeforeStyle p) ++ "  ").toList ++ (styleStart ++
        (sheet.toList ++ (styleEnd ++ '>' :: back.toList))) := by
    have opening : "<style>\n".toList = styleStart := rfl
    rw [text]
    simp only [String.toList_append, opening, closing, List.append_assoc, List.singleton_append]
  have front : ¬styleStart <:+: caseless (linesText (linesBeforeStyle p) ++ "  ") :=
    ((brings_linesBeforeStyle p).neither (brings_of_avoids (by decide))).infix_iff
      (by decide) |>.mp
  refine ⟨(linesText (linesBeforeStyle p) ++ "  ").toList, '>' :: back.toList, ?_⟩
  rw [tag] at front
  rw [chars, tag, cutAt?_append (by decide) (by decide) front]

/-- What is cut off at the end of a `style` element is a style sheet as a whole if it does not end
the element itself. -/
theorem map_fst_cutAt?_styleEnd_iff (sheet : String) (back : List Char) :
    (cutAt? styleEnd (sheet.toList ++ (styleEnd ++ back))).map Prod.fst = some sheet.toList ↔
      ¬EndsStyle sheet := by
  have mark : styleEnd = ['<', '/', 's', 't', 'y', 'l', 'e'] := by decide
  rw [EndsStyle, mark]
  exact map_fst_cutAt?_append_iff (by decide) (by decide)

/-- Whether a page has its whole style sheet inside depends on the style sheet alone. -/
theorem inlineStyle?_standalonePage_iff (settings : Settings) (frame : Viewport)
    (viewports : List Viewport) (p : Page) :
    inlineStyle? (standalonePage d theme settings frame viewports p) =
        some (pageStylesheet d theme frame viewports p.id) ↔
      ¬EndsStyle (pageStylesheet d theme frame viewports p.id) := by
  obtain ⟨front, back, start⟩ := exists_cutAt?_styleStart d theme settings frame viewports p
  have same : ∀ l s, String.ofList l = s ↔ l = s.toList := fun l s => by
    rw [← String.toList_inj, String.toList_ofList]
  rw [← map_fst_cutAt?_styleEnd_iff _ back, inlineStyle?, start]
  simp only [Option.bind_some, Option.map_eq_some_iff, same]

/-- The style sheet of a page ends its element exactly if a declared value does. -/
theorem endsStyle_pageStylesheet_iff (quiet : QuietTheme theme) (frame : Viewport)
    (viewports : List Viewport) {id : String}
    (ids : ∀ node ∈ Node.forestIds (d.layout id), Quiet node) :
    EndsStyle (pageStylesheet d theme frame viewports id) ↔
      ∃ decl, Declares (d.layout id) viewports decl ∧ EndsStyle decl.2 := by
  have both : Brings styleEnd (caseless (pageStylesheet d theme frame viewports id))
      (False ∨ ∃ decl, Declares (d.layout id) viewports decl ∧ EndsStyle decl.2) := by
    rw [pageStylesheet, caseless_append]
    exact (brings_baseText quiet frame).append (brings_layoutText ids)
  rw [EndsStyle, both.infix_iff (by decide), false_or]

/-- A page that stands alone has its whole style sheet in its `style` element exactly if the styles
of its nodes declare no value in which `</style` stands. -/
theorem inlineStyle?_singlePage_iff (d : Document) (theme : Theme) (settings : Settings)
    (frame : Viewport) (viewports : List Viewport) (id : String) (page : id ∈ d.pageIds)
    (quiet : QuietTheme theme) (ids : ∀ node ∈ Node.forestIds (d.layout id), Quiet node) :
    inlineStyle? (singlePage d theme settings frame viewports id) =
        some (pageStylesheet d theme frame viewports id) ↔
      ∀ decl, Declares (d.layout id) viewports decl → ¬EndsStyle decl.2 := by
  obtain ⟨p, found, rfl⟩ := exists_page?_eq page
  rw [singlePage, found]
  show inlineStyle? (standalonePage d theme settings frame viewports p) = _ ↔ _
  rw [inlineStyle?_standalonePage_iff, endsStyle_pageStylesheet_iff quiet frame viewports ids]
  simp only [not_exists, not_and]

/-- A document of one page with a text on it that has a value for its top. -/
def topped (value : String) : Document where
  pages := [{ id := "home", name := "Home" }]
  layouts := Dict.ofList [("home", [.mk
    { id := "t", kind := .text, name := "T", styles := Dict.ofList [
      ("Desktop", { base := Dict.ofList [(.top, value), (.left, "20px")] })] } []])]
  activePageId := "home"

theorem valid_topped (value : String) : (topped value).Valid where
  pages_ne_nil := List.cons_ne_nil _ _
  pageIds_nodup := List.nodup_singleton _
  mem_layouts_iff _ := Iff.rfl
  active_mem := List.mem_cons_self
  nodeIds_nodup := List.nodup_singleton _

theorem declares_topped_iff {value : String} {decl : Declaration} :
    Declares ((topped value).layout "home") [.desktop] decl ↔
      decl ∈ declarations (Dict.ofList [(.top, value), (.left, "20px")]) := by
  constructor
  · rintro ⟨n, node, v, listed, a, found, declared⟩
    obtain rfl := List.mem_singleton.mp node
    obtain rfl := List.mem_singleton.mp listed
    obtain rfl := Option.some.inj found
    rcases declared with base | ⟨hover, none, -⟩
    · exact base
    · cases none
  · exact fun base => ⟨_, List.mem_cons_self, _, List.mem_cons_self, _, rfl, .inl base⟩

theorem inlineStyle?_singlePage_iff_brackets :
    "home" ∈ (topped "#<b>").pageIds ∧ QuietTheme {} ∧
      (∀ node ∈ Node.forestIds ((topped "#<b>").layout "home"), Quiet node) ∧
      Declares ((topped "#<b>").layout "home") [.desktop] ("top", "#<b>") ∧
      inlineStyle? (singlePage (topped "#<b>") {} {} .desktop [.desktop] "home") =
        some (pageStylesheet (topped "#<b>") {} .desktop [.desktop] "home") := by
  have page : "home" ∈ (topped "#<b>").pageIds := List.mem_cons_self
  have quiet : QuietTheme {} := ⟨by decide, by decide, by decide⟩
  have ids : ∀ node ∈ Node.forestIds ((topped "#<b>").layout "home"), Quiet node := by decide
  have made : declarations (Dict.ofList [(.top, "#<b>"), (.left, "20px")]) =
      [("top", "#<b>"), ("left", "20px")] := by decide
  have harmless : ∀ decl ∈ [("top", "#<b>"), ("left", "20px")], ¬EndsStyle decl.2 := by decide
  refine ⟨page, quiet, ids, declares_topped_iff.mpr (made ▸ List.mem_cons_self),
    (inlineStyle?_singlePage_iff _ _ _ _ _ _ page quiet ids).mpr fun decl declared => ?_⟩
  exact harmless decl (made ▸ declares_topped_iff.mp declared)

/-- A value can end the element around the style sheet: it may be any text behind a `#`. -/
theorem not_forall_inlineStyle? :
    ¬∀ (d : Document) (theme : Theme) (settings : Settings) (frame : Viewport)
      (viewports : List Viewport) (id : String), d.Valid → id ∈ d.pageIds → QuietTheme theme →
      (∀ node ∈ d.nodeIds, Quiet node) →
      inlineStyle? (singlePage d theme settings frame viewports id) =
        some (pageStylesheet d theme frame viewports id) := by
  intro all
  have quiet : QuietTheme {} := ⟨by decide, by decide, by decide⟩
  have ids : ∀ node ∈ Node.forestIds ((topped "#</style>").layout "home"), Quiet node := by decide
  have whole := all (topped "#</style>") {} {} .desktop [.desktop] "home" (valid_topped _)
    List.mem_cons_self quiet (by decide)
  have made : declarations (Dict.ofList [(.top, "#</style>"), (.left, "20px")]) =
      [("top", "#</style>"), ("left", "20px")] := by decide
  have declared := declares_topped_iff.mpr (made ▸ List.mem_cons_self)
  have ends := (endsStyle_pageStylesheet_iff quiet .desktop [.desktop] ids).mpr
    ⟨("top", "#</style>"), declared, by decide⟩
  exact (inlineStyle?_standalonePage_iff {} .desktop [.desktop] { id := "home", name := "Home" }).mp
    whole ends

end PageStudio.Site
