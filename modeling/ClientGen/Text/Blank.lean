/-!
# Blank characters, line ends and trimming

Two sets of blanks are in use. Text that is trimmed loses all blanks of `isBlank`, the
separators of records and fields (`0x1c` to `0x1f`) among them; numbers in settings are
trimmed by `isWhiteSpace`, the Unicode property, which leaves those four out. A text is cut
into lines at every line end, and a carriage return with its line feed counts as one.

## Main definitions

* `ClientGen.Text.isBlank`, `ClientGen.Text.isWhiteSpace` : the two sets of blanks.
* `ClientGen.Text.trimWith`, `ClientGen.Text.trim`, `ClientGen.Text.trimRight` : removal at
  the ends.
* `ClientGen.Text.isLineEnd`, `ClientGen.Text.lines` : cutting a text into lines.
* `ClientGen.Text.unlines` : the text of lines.
-/

namespace ClientGen.Text

/-- White space in the sense of the Unicode property. -/
def isWhiteSpace (c : Char) : Bool :=
  let n := c.toNat
  (0x09 ≤ n && n ≤ 0x0d) || n == 0x20 || n == 0x85 || n == 0xa0 || n == 0x1680 ||
    (0x2000 ≤ n && n ≤ 0x200a) || n == 0x2028 || n == 0x2029 || n == 0x202f ||
    n == 0x205f || n == 0x3000

/-- White space, or one of the four separators of records and fields. -/
def isBlank (c : Char) : Bool :=
  isWhiteSpace c || (0x1c ≤ c.toNat && c.toNat ≤ 0x1f)

/-- The list without its longest tail in the class. -/
def dropTail (p : Char → Bool) (cs : List Char) : List Char :=
  (cs.reverse.dropWhile p).reverse

/-- The list without its longest head and its longest tail in the class. -/
def trimWith (p : Char → Bool) (cs : List Char) : List Char :=
  dropTail p (cs.dropWhile p)

/-- The text without blanks at its ends. -/
def trim (s : String) : String := String.ofList (trimWith isBlank s.toList)

/-- The text without blanks at its end. -/
def trimRight (s : String) : String := String.ofList (dropTail isBlank s.toList)

/-- The characters that end a line. -/
def isLineEnd (c : Char) : Bool :=
  let n := c.toNat
  (0x0a ≤ n && n ≤ 0x0d) || (0x1c ≤ n && n ≤ 0x1e) || n == 0x85 || n == 0x2028 || n == 0x2029

/-- Cuts a text at its line ends; `line` is the open line, in reverse. A carriage return and
the line feed after it end one line. -/
def linesFrom (line : List Char) : List Char → List (List Char)
  | [] => if line.isEmpty then [] else [line.reverse]
  | '\r' :: '\n' :: rest => line.reverse :: linesFrom [] rest
  | c :: rest =>
    if isLineEnd c then line.reverse :: linesFrom [] rest else linesFrom (c :: line) rest

/-- The lines of a text, without their ends. A line end at the very end opens no further line. -/
def lines (cs : List Char) : List (List Char) := linesFrom [] cs

/-- The text of lines, each with a line feed at its end. -/
def unlines (ls : List String) : String := String.join (ls.map (· ++ "\n"))

end ClientGen.Text
