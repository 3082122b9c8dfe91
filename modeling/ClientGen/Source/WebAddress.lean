import ClientGen.Text.Blank

/-!
# Web addresses

A locator is a web address if, without blanks at its ends and without tabs and line ends inside, it
starts with one of two schemes and names a host. What stands between the two slashes and the next
slash, question mark or hash sign has to have its square brackets in pairs, and no character outside
of ASCII that turns into one of the marks of an address when it is put into compatible form.

## Main definitions

* `ClientGen.WebAddress.authority?` : what stands in the place of the host.
* `ClientGen.WebAddress.isWebAddress` : the text is a web address.
-/

namespace ClientGen.WebAddress

/-- The characters that count in the text of an address. -/
def isKept (c : Char) : Bool := c != '\t' && c != '\n' && c != '\r'

/-- The characters that schemes are made of. -/
def isSchemeChar (c : Char) : Bool := c.isAlphanum || c == '+' || c == '-' || c == '.'

/-- The scheme in small letters, and what follows its colon. -/
def splitScheme (cs : List Char) : Option (List Char × List Char) :=
  let scheme := cs.takeWhile (· != ':')
  if scheme.isEmpty || !scheme.all isSchemeChar then none
  else match cs.drop scheme.length with
    | ':' :: rest => some (scheme.map Char.toLower, rest)
    | _ => none

/-- The schemes of web addresses. -/
def webSchemes : List (List Char) := ["http".toList, "https".toList]

/-- The characters that end the place of the host. -/
def isAuthorityEnd (c : Char) : Bool := c == '/' || c == '?' || c == '#'

/-- The characters outside of ASCII whose compatible form has one of the marks `/ ? # @ :`. -/
def disguisedMarks : List Nat := [
  0x2047, 0x2048, 0x2049, 0x2100, 0x2101, 0x2105, 0x2106, 0x2a74, 0xfe13, 0xfe16, 0xfe55, 0xfe56,
  0xfe5f, 0xfe6b, 0xff03, 0xff0f, 0xff1a, 0xff1f, 0xff20]

/-- What stands in the place of the host is of good form. -/
def isWellFormed (authority : List Char) : Bool :=
  authority.contains '[' == authority.contains ']' &&
    !authority.any fun c => disguisedMarks.contains c.toNat

/-- What stands in the place of the host, after two slashes. -/
def authority? : List Char → Option (List Char)
  | '/' :: '/' :: rest => some (rest.takeWhile (!isAuthorityEnd ·))
  | _ => none

/-- The text is a web address. -/
def isWebAddress (s : String) : Bool :=
  match splitScheme ((Text.trimWith Text.isBlank s.toList).filter isKept) with
  | none => false
  | some (scheme, rest) =>
    match authority? rest with
    | none => false
    | some authority =>
      webSchemes.contains scheme && !authority.isEmpty && isWellFormed authority

end ClientGen.WebAddress
