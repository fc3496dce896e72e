import PageStudio.Editor.Generated
import PageStudio.Proofs.Text.Blank
import PageStudio.Proofs.Text.Piece

/-!
# Fences around generated texts

A fence around a text is taken off again, and only one is: what remains is the text without the
blanks around it, also where the text itself ends like a fence or is empty. So a layout is the same
with a fence around it and without (`layout_fenced`).
-/

namespace PageStudio.Generated

variable {s : List Char}

theorem fence_eq : fence = ['`', '`', '`'] := by decide

theorem jsonFence_eq : jsonFence = ['`', '`', '`', 'j', 's', 'o', 'n'] := by decide

/-- A text that does not begin with a fence is taken as it is. -/
theorem content_of_bare (bare : ¬fence <+: Text.trim s) : content s = Text.trim s := by
  have no_fence : Text.dropFront? fence (Text.trim s) = none := by
    rw [← Option.not_isSome_iff_eq_none, Text.isSome_dropFront?_iff]
    exact bare
  have no_json_fence : Text.dropFront? jsonFence (Text.trim s) = none := by
    rw [← Option.not_isSome_iff_eq_none, Text.isSome_dropFront?_iff]
    have front : fence <+: jsonFence := by decide
    exact fun found => bare (front.trans found)
  rw [content, no_fence, no_json_fence]
  rfl

/-- A text on lines of its own inside a fence. -/
def fenced (opening s : List Char) : List Char := opening ++ ('\n' :: s ++ '\n' :: fence)

/-- The fence that was put around a text is the one that is taken off, and no other. -/
theorem content_fenced {opening : List Char} (known : opening = jsonFence ∨ opening = fence) :
    content (fenced opening s) = Text.trim s := by
  have visible : Text.isBlank '`' = false := by decide
  have body : Text.dropBack? fence ('\n' :: s ++ '\n' :: fence) = some ('\n' :: s ++ ['\n']) :=
    Text.dropBack?_eq_some_iff.mpr (List.append_cons ('\n' :: s) '\n' fence)
  have line_ends : ∀ c ∈ ['\n'] ++ ['\n'], Text.isBlank c = true :=
    List.all_eq_true.mp (by decide)
  have inside : Text.trim ('\n' :: s ++ ['\n']) = Text.trim s := Text.trim_append line_ends
  have ends : ∃ middle, fenced opening s = '`' :: (middle ++ ['`']) := by
    rcases known with rfl | rfl
    · exact ⟨['`', '`', 'j', 's', 'o', 'n', '\n'] ++ s ++ ['\n', '`', '`'],
        by simp [fenced, jsonFence_eq, fence_eq]⟩
    · exact ⟨['`', '`', '\n'] ++ s ++ ['\n', '`', '`'], by simp [fenced, fence_eq]⟩
  have whole : Text.trim (fenced opening s) = fenced opening s := by
    obtain ⟨middle, chars⟩ := ends
    rw [chars, Text.trim_between visible visible]
  have opened : (Text.dropFront? jsonFence (fenced opening s)).or
      (Text.dropFront? fence (fenced opening s)) = some ('\n' :: s ++ '\n' :: fence) := by
    rcases known with rfl | rfl
    · have named : Text.dropFront? jsonFence (fenced jsonFence s) =
          some ('\n' :: s ++ '\n' :: fence) := Text.dropFront?_eq_some_iff.mpr rfl
      rw [named, Option.some_or]
    · -- The line ends behind the three signs, where the name would stand.
      have unnamed : Text.dropFront? jsonFence (fenced fence s) = none := rfl
      rw [unnamed, Option.none_or]
      exact Text.dropFront?_eq_some_iff.mpr rfl
  rw [content, whole, opened]
  show Text.trim ((Text.dropBack? fence ('\n' :: s ++ '\n' :: fence)).getD _) = Text.trim s
  rw [body, Option.getD_some, inside]

/-- Blanks around a text do not change what stands inside it. -/
theorem content_append {before after : List Char}
    (blank : ∀ c ∈ before ++ after, Text.isBlank c = true) :
    content (before ++ s ++ after) = content s := by
  rw [content, Text.trim_append blank, content]

/-- Only what stands inside a text counts for its layout. -/
theorem layout_congr {first second : String}
    (same : content first.toList = content second.toList) (ids : IdSource) :
    layout first ids = layout second ids := by
  unfold layout parse
  rw [same]

/-- A fence around a generated text, with the name of its language or without, does not change its
layout, and neither do blanks around either of them. The nodes, the error and the source of ids
behind them are the same. -/
theorem layout_fenced (response before after : String) (ids : IdSource)
    (bare : ¬fence <+: Text.trim response.toList)
    (blank : ∀ c ∈ (before ++ after).toList, Text.isBlank c = true) :
    layout (before ++ response ++ after) ids = layout response ids ∧
    layout (before ++ ("```json\n" ++ response ++ "\n```") ++ after) ids = layout response ids ∧
    layout (before ++ ("```\n" ++ response ++ "\n```") ++ after) ids = layout response ids := by
  have around : ∀ t : String, content (before ++ t ++ after).toList = content t.toList := by
    intro t
    rw [String.toList_append] at blank
    rw [String.toList_append, String.toList_append, content_append blank]
  have inside : ∀ {opening : List Char}, opening = jsonFence ∨ opening = fence →
      content (fenced opening response.toList) = content response.toList := fun known => by
    rw [content_fenced known, content_of_bare bare]
  have named : ("```json\n" ++ response ++ "\n```").toList = fenced jsonFence response.toList := by
    simp [fenced, jsonFence_eq, fence_eq]
  have unnamed : ("```\n" ++ response ++ "\n```").toList = fenced fence response.toList := by
    simp [fenced, fence_eq]
  refine ⟨layout_congr (around response) ids, layout_congr ?_ ids, layout_congr ?_ ids⟩
  · rw [around, named, inside (.inl rfl)]
  · rw [around, unnamed, inside (.inr rfl)]

/-- The text may end like a fence itself, and then it is no layout with a fence around it either. -/
theorem layout_fenced_backticks :
    ¬fence <+: Text.trim "[]```".toList ∧
    (∀ c ∈ ("\u00a0" ++ "\n").toList, Text.isBlank c = true) ∧
    layout ("\u00a0" ++ ("```json\n" ++ "[]```" ++ "\n```") ++ "\n") ⟨"ai", 4⟩ =
      layout "[]```" ⟨"ai", 4⟩ ∧
    (layout "[]```" ⟨"ai", 4⟩).1.toOption.map Node.forestIds = none := by
  have bare : ¬fence <+: Text.trim "[]```".toList := by decide
  have blank : ∀ c ∈ ("\u00a0" ++ "\n").toList, Text.isBlank c = true :=
    List.all_eq_true.mp (by decide)
  exact ⟨bare, blank, (layout_fenced "[]```" "\u00a0" "\n" ⟨"ai", 4⟩ bare blank).2.1,
    by decide +kernel⟩

end PageStudio.Generated
