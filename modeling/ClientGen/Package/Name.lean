import ClientGen.Text.Blank
import ClientGen.Text.LowerCase
import ClientGen.Text.Replace

/-!
# Names of packages

A package is named for the title of the interface: the words of the title in small letters, joined
by hyphens, without the first occurrence of `api`, and with `sdk` as the last word.

## Main definitions

* `ClientGen.Package.packageName` : the name for a title.
-/

namespace ClientGen.Package

/-- Small ASCII letters and digits. -/
def isSlugChar (c : Char) : Bool := c.isLower || c.isDigit

/-- The text with every run of other characters replaced by a hyphen; `joined` says that a hyphen
stands right in front. -/
def hyphenate (joined : Bool) : List Char → List Char
  | [] => []
  | c :: cs =>
    if isSlugChar c then c :: hyphenate false cs
    else if joined then hyphenate true cs
    else '-' :: hyphenate true cs

/-- The words of a title, joined by hyphens. -/
def slug (title : List Char) : List Char :=
  Text.trimWith (· == '-')
    (hyphenate false (Text.replaceFirst "api".toList [] (title.flatMap Text.lowerChar)))

/-- The name of the package for a title. -/
def packageName (title : String) : String :=
  let s := slug title.toList
  String.ofList ((if s.isEmpty then "client".toList else s) ++ "-sdk".toList)

end ClientGen.Package
