/-!
# Faults

A fault is a condition that the tool does not foresee in its input: a value of an unfit kind
where only a fit one makes sense. Nobody words a message for a fault; the command line points to
a crash log. Failures with a message of their own are in `ClientGen.Failure`.

## Main definitions

* `ClientGen.FileFault` : what a file system answers to an operation that it refuses.
* `ClientGen.Fault` : the unforeseen conditions.
* `ClientGen.callLimit` : how deep walks go.
-/

namespace ClientGen

/-- What a file system answers to an operation that it refuses. -/
inductive FileFault where
  /-- Nothing stands at the path. -/
  | missing
  /-- A directory is wanted where something else stands. -/
  | occupied
  /-- A part of the path is not a directory. -/
  | notDirectory
  /-- A file is wanted where a directory stands. -/
  | isDirectory
  /-- A part of the path is longer than the file system allows. -/
  | nameTooLong
  /-- More links are on the way along the path than the file system follows. -/
  | tooManyLinks
  /-- There is no room for more of a file. -/
  | noRoom
  deriving DecidableEq, Repr

/-- The unforeseen conditions. -/
inductive Fault where
  /-- A container stands where a key or a member of a set is needed. -/
  | containerAsMember
  /-- A value that is not a text stands where a text is needed. -/
  | textExpected
  /-- A value that holds no others stands where a collection is needed. -/
  | collectionExpected
  /-- A value without entries stands where a mapping is needed. -/
  | mappingExpected
  /-- A value does not have the shape of the record that it should become. -/
  | shapeMismatch
  /-- A text does not write a number of the kind that its tag or place announces. -/
  | malformedNumber
  /-- A number is too great for the place where it stands. -/
  | numberTooGreat
  /-- A whole number has more digits than are written. -/
  | tooManyDigits
  /-- A number is the code of no character. -/
  | noSuchCharacter
  /-- A date or time is not on the calendar or the clock. -/
  | noSuchDate
  /-- A text does not write a date at all, though its tag announces one. -/
  | malformedDate
  /-- A text is none of the words for a truth value, though its tag announces one. -/
  | unknownTruthWord
  /-- An empty text is announced as a number. -/
  | emptyNumber
  /-- A file that should hold text holds bytes that write none. -/
  | undecodableText
  /-- A value that contains itself cannot be written out. -/
  | endlessText
  /-- A value is nested deeper than the walk over it goes. -/
  | depthExceeded
  /-- The environment names no home directory. -/
  | noHome
  /-- What is asked for as a character set makes something else than text of bytes. -/
  | notACharset
  /-- A character set does not read a body with faults, or not without a mark, or not with that much
  behind the last code. -/
  | unreadableCharset
  /-- A field of an answer has characters beside those of ASCII. -/
  | unwritableField
  /-- Parts of a parameter have no order among them. -/
  | unorderedParts
  /-- A name holds the zero character. -/
  | zeroInName
  /-- A web address has no well-formed parts. -/
  | malformedAddress
  /-- An entry is looked up in a text or another value that has no entries. -/
  | missingEntry
  /-- An element of a collection is no pair of a key and a value. -/
  | pairExpected
  /-- The file system refuses an operation on a path. -/
  | file (fault : FileFault) (path : String)
  /-- The file system refuses to put a file in the place of another. -/
  | replacing (fault : FileFault) (path target : String)
  /-- The file system refuses to take more of a text for a file. -/
  | writing (fault : FileFault)
  /-- A link leads back to one that is still being followed. -/
  | endlessLinks
  deriving DecidableEq, Repr

/-- The number of calls that a walk may make inside each other. A thousand are allowed in all; the
others are left to what calls the walk. -/
def callLimit : Nat := 990

end ClientGen
