import TimedPublishing.Job.Identifier
import TimedPublishing.Url.Parser

/-!
# Where a content is published

The endpoint of a content lies below the base url of the content service: the segments
`content`, the content's name and `publish` are added to the base path, before its query
and fragment. A slash at the end of the base path does not count, unless it is the whole
path.

A segment is added as one segment. A name of one or two dots is left out; tabs and line
breaks are dropped from a name, and what is left is encoded, the slash and the percent sign
included. If dropping them leaves one or two dots, these have the meaning they have in a
path.
-/

namespace TimedPublishing.Url

/-- A path without the empty segment at its end, unless that is all it has. -/
def withoutTrailingSlash (path : List String) : List String :=
  match path with
  | _ :: _ :: _ => if path.getLast? = some "" then path.dropLast else path
  | _ => path

/-- Add a segment behind a path; behind the path `/` it takes the place of the empty
segment. -/
def pushSegment (kind : Kind) (path : List String) (segment : List Char) : List String :=
  if segment = ['.'] ∨ segment = ['.', '.'] then path
  else
    let stem := if path = [""] then [] else path
    Path.add kind stem
      (encode (escapesInSegment kind.isSpecial)
        (segment.filter fun character => !isBreak character)) true

/-- The url with segments added to its path. A url that is no path can carry none. -/
def extend? (url : Url) (segments : List String) : Option Url :=
  match url.body with
  | .plain _ => none
  | .path place path =>
    let extended := segments.foldl
      (fun path segment => pushSegment url.kind path segment.toList)
      (withoutTrailingSlash path)
    some { url with body := .path place extended }

/-- Where a content is published below a base url, or why it cannot be. -/
def endpoint (base : Url) (content : ContentId) : Except String Url :=
  match base.extend? ["content", content.text, "publish"] with
  | some url => .ok url
  | none => .error ("base url cannot carry a path: " ++ base.text)

end TimedPublishing.Url
