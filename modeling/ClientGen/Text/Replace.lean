/-!
# Finding and replacing parts of a text

Replacing works from the left, and what is put in place is not looked at again.

## Main definitions

* `ClientGen.Text.holds` : a text has another one as a part.
* `ClientGen.Text.replaceAll`, `ClientGen.Text.replaceFirst` : replacing every occurrence, or the
  first.
-/

namespace ClientGen.Text

/-- The text has `part` as a part. -/
def holds (part : List Char) : List Char → Bool
  | [] => part.isEmpty
  | c :: cs => part.isPrefixOf (c :: cs) || holds part cs

/-- Replaces every occurrence of `old`; the next `passed` characters belong to an occurrence that is
replaced already. -/
def replaceFrom (old new : List Char) (passed : Nat) : List Char → List Char
  | [] => []
  | c :: cs =>
    match passed with
    | n + 1 => replaceFrom old new n cs
    | 0 =>
      if old.isPrefixOf (c :: cs) then new ++ replaceFrom old new (old.length - 1) cs
      else c :: replaceFrom old new 0 cs

/-- Replaces every occurrence of a part that is not empty. -/
def replaceAll (old new : List Char) (cs : List Char) : List Char := replaceFrom old new 0 cs

/-- Replaces the first occurrence of a part that is not empty. -/
def replaceFirst (old new : List Char) : List Char → List Char
  | [] => []
  | c :: cs =>
    if old.isPrefixOf (c :: cs) then new ++ (c :: cs).drop old.length
    else c :: replaceFirst old new cs

end ClientGen.Text
