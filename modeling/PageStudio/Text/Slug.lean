import PageStudio.Text.LowerCase
import PageStudio.Text.Piece

/-!
# Slugs

A slug is a display name fit for an id or a file name: its words in lower case, joined by hyphens.
-/

namespace PageStudio.Text

/-- The slug of a display name. Empty exactly when the name has no word. -/
def slug (name : String) : String :=
  String.ofList (joinWith ['-'] ((words name.toList).map lower))

end PageStudio.Text
