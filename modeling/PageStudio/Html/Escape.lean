import PageStudio.Text.Piece

/-!
# Escaping

Text inside markup has its five special characters written as entities. Text inside a comment must
not end it.
-/

namespace PageStudio.Html

/-- The five special characters and their entities. Every entity begins with an ampersand, so that
character is the first to be replaced. -/
def entities : List (Char × List Char) :=
  [('&', "&amp;".toList), ('<', "&lt;".toList), ('>', "&gt;".toList), ('"', "&quot;".toList),
    ('\'', "&#39;".toList)]

/-- A text with the characters of a table replaced, one after another in the whole text. -/
def replaceChars (table : List (Char × List Char)) (s : List Char) : List Char :=
  table.foldl (fun t entry => Text.replace [entry.1] entry.2 t) s

/-- The written form of a text, for use between tags and inside quotes. -/
def escape (s : String) : String := String.ofList (replaceChars entities s.toList)

/-- The written form of a text inside a comment: hyphens side by side are taken two at a time from
the front and set apart, and then each `>` is replaced. -/
def escapeComment (s : String) : String :=
  String.ofList
    (Text.replace ['>'] "&gt;".toList (Text.replace ['-', '-'] "- -".toList s.toList))

end PageStudio.Html
