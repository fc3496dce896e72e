import PageStudio.Proofs.Html.Escape
import PageStudio.Site.Export

/-!
# Names in comments

An icon and a page that do not exist leave a comment behind that says their name. No name ends the
comment, since no `>` is left in it. Hyphens are set apart two at a time, so where three or more
stand in a row two of them meet again.

## Main statements

* `comment_hyphens_iff`: what is written of a name, and where two hyphens meet in it.
* `exists_comment_hyphens`: a name in which they do.
-/

namespace PageStudio.Site

open Html Style

/-! ## Where names are written -/

theorem written_iconComment (name : String) :
    (Inline.comment ("Icon not found: " ++ name)).written =
      "<!-- Icon not found: " ++ escapeComment name ++ " -->" := by
  have fit : "Icon not found: ".toList.all (fun c => c ≠ '-' ∧ c ≠ '>') = true := by decide
  have plain : ∀ c ∈ "Icon not found: ".toList, c ≠ '-' ∧ c ≠ '>' :=
    fun c mem => of_decide_eq_true (List.all_eq_true.mp fit c mem)
  rw [Inline.written, escapeComment_append plain, ← String.append_assoc]
  rfl

/-- An icon node that has no icon is a comment, inside the anchor of its link where there is one. -/
theorem nodeBlock_missingIcon {e : Element} {name : String} (icon : e.kind = .icon)
    (named : e.content.iconName.getD "" = name) (missing : Icon.find? name = none) (mode : LinkMode)
    (children : List Node) : nodeBlock mode (.mk e children) =
      linked mode e.link (.line (.comment ("Icon not found: " ++ name))) := by
  rw [nodeBlock, elementBlock]
  simp only [icon, named, iconBlock, missing]

/-- What stands in front of the comment in the text for a page that does not exist. -/
def missingPageFront : String :=
  linesText ["<!DOCTYPE html>", "<html lang=\"en\">", "<head>", "  <meta charset=\"UTF-8\">",
    "  <title>Page not found</title>", "</head>", "<body>"] ++ "  "

/-- What stands behind it. -/
def missingPageBack : String := "\n" ++ linesText ["</body>", "</html>"]

theorem missingPage_eq (id : String) : missingPage id =
    missingPageFront ++ ("<!-- Page not found: " ++ escapeComment id ++ " -->") ++
      missingPageBack := by
  have indented : "  <!-- Page not found: " = "  " ++ "<!-- Page not found: " := rfl
  simp only [missingPage, missingPageFront, missingPageBack, linesText, List.map_cons, List.map_nil,
    Css.concat, List.foldr_cons, List.foldr_nil, String.append_assoc, String.empty_append, indented]

/-! ## Hyphens -/

/-- What is written of the name of an icon or a page that does not exist has no `>` in it. Two
hyphens stand side by side in it exactly where three do in the name. -/
theorem comment_hyphens_iff (name : String) :
    '>' ∉ (escapeComment name).toList ∧
    (['-', '-'] <:+: (escapeComment name).toList ↔ ['-', '-', '-'] <:+: name.toList) ∧
    (∀ mode e children, e.kind = .icon → e.content.iconName.getD "" = name →
      Icon.find? name = none → ∃ c : Inline,
        nodeBlock mode (.mk e children) = linked mode e.link (.line c) ∧
        c.written = "<!-- Icon not found: " ++ escapeComment name ++ " -->") ∧
    ∀ (d : Document) theme settings frame viewports, d.page? name = none →
      singlePage d theme settings frame viewports name =
        missingPageFront ++ ("<!-- Page not found: " ++ escapeComment name ++ " -->") ++
          missingPageBack := by
  refine ⟨fun mem => ne_of_mem_escapeComment mem rfl, pair_escapeComment_iff name,
    fun mode e children icon named missing => ?_, fun d theme settings frame viewports absent => ?_⟩
  · exact ⟨_, nodeBlock_missingIcon icon named missing mode children, written_iconComment name⟩
  · rw [singlePage, absent]
    exact missingPage_eq name

/-- An icon node with a name of which there is no icon. -/
def iconNode (name : String) : Node :=
  .mk { id := "i", kind := .icon, name := "", content := { iconName := some name } } []

/-- A name that looks like the end of a comment, on an icon and for a page. -/
theorem comment_hyphens_iff_ending :
    ¬ ['-', '-'] <:+: (escapeComment "-->").toList ∧
      (∃ c : Inline, nodeBlock .singlePage (iconNode "-->") = .line c ∧
        c.written = "<!-- Icon not found: - -&gt; -->") ∧
      singlePage (Document.ofPage { id := "home", name := "Home" }) {} {} Viewport.desktop []
          "-->" =
        missingPageFront ++ "<!-- Page not found: - -&gt; -->" ++ missingPageBack := by
  obtain ⟨-, hyphens, icon, page⟩ := comment_hyphens_iff "-->"
  obtain ⟨c, block, written⟩ :=
    icon .singlePage (iconNode "-->").element [] rfl rfl (by decide)
  have escaped : escapeComment "-->" = "- -&gt;" := by decide
  rw [escaped] at written
  refine ⟨fun meet => absurd (hyphens.mp meet) (by decide), ⟨c, block, written⟩, ?_⟩
  rw [page _ _ _ _ _ (by decide), escaped]
  rfl

/-- Three hyphens in a row leave two that meet, on an icon and for a page. -/
theorem exists_comment_hyphens : ∃ name : String,
    ['-', '-'] <:+: (escapeComment name).toList ∧
      layoutText .singlePage {} [iconNode name] = "<!-- Icon not found: - -- -->\n" ∧
      singlePage (Document.ofPage { id := "home", name := "Home" }) {} {} Viewport.desktop [] name =
        missingPageFront ++ "<!-- Page not found: - -- -->" ++ missingPageBack := by
  refine ⟨"---", by decide, by decide, ?_⟩
  have escaped : escapeComment "---" = "- --" := by decide
  have page : missingPage "---" = _ := missingPage_eq "---"
  rw [escaped] at page
  exact page

end PageStudio.Site
