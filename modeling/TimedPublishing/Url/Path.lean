import TimedPublishing.Text.Basic
import TimedPublishing.Url.Percent

/-!
# Paths

A path is the list of its segments, each behind a slash; the path `/` is one empty segment,
and no segment at all is the empty path. Dot segments are resolved when a segment is added:
one dot adds nothing, and two dots take back the segment before.

A segment can name the drive of a file system: a letter with a colon or a bar. Two dots never
take back a drive. In a file url a drive that begins the path is written with a colon, and
empty segments before the first one that is not empty are left out.
-/

namespace TimedPublishing.Url

/-- The schemes that differ in how they are read. The special ones read a backslash as a
slash; among them, files have rules of their own for hosts and paths. -/
inductive Kind
  | file
  | web
  | other
deriving DecidableEq, Repr

/-- The kind of a scheme. -/
def Kind.ofScheme (scheme : String) : Kind :=
  if scheme = "file" then .file
  else if ["http", "https", "ws", "wss", "ftp"].contains scheme then .web
  else .other

/-- Whether a backslash is a slash. -/
def Kind.isSpecial (kind : Kind) : Bool := kind ≠ .other

/-- The separators of path segments. -/
def Kind.isSlash (kind : Kind) (character : Char) : Bool :=
  character = '/' || (kind.isSpecial && character = '\\')

namespace Path

/-- A segment that stands for the one it is in. -/
def isSingleDot (segment : List Char) : Bool :=
  [".", "%2e"].contains (String.ofList (segment.map Char.toLower))

/-- A segment that stands for the one before. -/
def isDoubleDot (segment : List Char) : Bool :=
  ["..", ".%2e", "%2e.", "%2e%2e"].contains (String.ofList (segment.map Char.toLower))

/-- A letter and the mark of a drive. -/
def isDriveMark (letter mark : Char) : Bool := letter.isAlpha && (mark = ':' || mark = '|')

/-- A segment that is the name of a drive. -/
def isDrive : List Char → Bool
  | [letter, mark] => isDriveMark letter mark
  | _ => false

/-- A segment that begins with the name of a drive, alone or before a backslash. -/
def beginsWithDrive : List Char → Bool
  | letter :: mark :: rest => isDriveMark letter mark && (rest.isEmpty || rest.head? = some '\\')
  | _ => false

/-- A path without its last segment, unless that is a drive. -/
def parent (path : List String) : List String :=
  if path.getLast?.any fun last => beginsWithDrive last.toList then path else path.dropLast

/-- A path after one more segment that is no dot segment. -/
def push (kind : Kind) (path : List String) (segment : List Char) : List String :=
  match path, segment with
  | [], [letter, mark] =>
    if kind = .file ∧ isDriveMark letter mark then [String.ofList [letter, ':']]
    else [String.ofList segment]
  | _, _ => path ++ [String.ofList segment]

/-- A path after one more segment. Where it ends with a dot segment, it ends with a slash. -/
def add (kind : Kind) (path : List String) (segment : List Char) (isLast : Bool) : List String :=
  if isDoubleDot segment then if isLast then parent path ++ [""] else parent path
  else if isSingleDot segment then if isLast then path ++ [""] else path
  else push kind path segment

/-- The path after the pieces of a text behind the segments that it has already. -/
def resolve (kind : Kind) (path : List String) : List (List Char) → List String
  | [] => path
  | [last] => add kind path (encode escapesInPath last) true
  | piece :: rest => resolve kind (add kind path (encode escapesInPath piece) false) rest

/-- The path of a text whose first slash, if it has one, has been taken off. -/
def read (kind : Kind) (text : List Char) : List String :=
  resolve kind [] (Text.pieces kind.isSlash text)

/-- The path of a text behind a host: only a special url has one where there is no text. -/
def readBehindHost (kind : Kind) (text : List Char) : List String :=
  match text with
  | [] => if kind.isSpecial then [""] else []
  | first :: rest => read kind (if kind.isSlash first then rest else text)

/-- A path without the empty segments that it begins with. -/
def withoutLeadingEmpty (path : List String) : List String :=
  match path.dropWhile (· = "") with
  | [] => [""]
  | segments => segments

/-- The written form of a path. -/
def text (path : List String) : String :=
  String.join (path.map fun segment => "/" ++ segment)

end Path

end TimedPublishing.Url
