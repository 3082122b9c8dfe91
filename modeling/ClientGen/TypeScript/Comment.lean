import ClientGen.Text.Blank
import ClientGen.Text.Replace

/-!
# Comments

Text of the document appears in comments. The mark that ends a comment is broken up by a backslash.

## Main definitions

* `ClientGen.TypeScript.commentText` : a text inside a comment.
* `ClientGen.TypeScript.docLines` : the lines of a text inside a comment of several lines.
-/

namespace ClientGen.TypeScript

/-- The text without marks that end a comment. -/
def commentText (text : String) : String :=
  String.ofList (Text.replaceAll "*/".toList "*\\/".toList text.toList)

/-- A line of a comment of several lines. -/
def docLine (line : List Char) : String := Text.trimRight (String.ofList (" * ".toList ++ line))

/-- The lines of a text inside a comment of several lines; an empty text has one. -/
def docLines (text : String) : List String :=
  match Text.lines (commentText text).toList with
  | [] => [docLine []]
  | ls => ls.map docLine

end ClientGen.TypeScript
