import TimedPublishing.Url.Basic

/-!
# Reading urls

Tabs and line breaks are removed from the text wherever they stand, and controls and
spaces at its ends. A url must begin with a scheme, since there is no other url that it
could be relative to. What follows is read part by part: an authority up to the first
slash, query or fragment mark; a path, whose dot segments are resolved as it is read; a
query; and a fragment. Characters that a part does not hold are percent-encoded, and
whatever is percent-encoded already stays as it is.

This is the parser that a process runs with. What is proved of settings and of endpoints does
not depend on what it accepts.
-/

namespace TimedPublishing.Url

/-- Tabs and line breaks, which a url never holds. -/
def isBreak (character : Char) : Bool :=
  character = '\t' || character = '\n' || character = '\r'

/-- The characters that are removed at the ends of a url. -/
def isEdge (character : Char) : Bool := character.toNat ≤ 0x20

/-- The text of a url without what does not belong to it. -/
def cleaned (text : List Char) : List Char :=
  ((text.dropWhile isEdge).reverse.dropWhile isEdge).reverse.filter fun character =>
    !isBreak character

/-- The characters of a scheme after its first one. -/
def isSchemeChar (character : Char) : Bool :=
  character.isAlphanum || character = '+' || character = '-' || character = '.'

/-- Split a text behind its scheme and the colon. -/
def splitScheme? (text : List Char) : Option (String × List Char) :=
  match text with
  | first :: _ =>
    if first.isAlpha then
      match text.dropWhile isSchemeChar with
      | ':' :: rest =>
        some (String.ofList ((text.takeWhile isSchemeChar).map Char.toLower), rest)
      | _ => none
    else none
  | [] => none

/-- The characters that end an authority. -/
def Kind.endsAuthority (kind : Kind) (character : Char) : Bool :=
  kind.isSlash character || character = '?' || character = '#'

/-- Split a text at its last occurrence of a character. -/
def splitAtLast? (mark : Char) (text : List Char) : Option (List Char × List Char) :=
  let after := text.reverse.takeWhile (· ≠ mark)
  if after.length = text.length then none
  else some (text.take (text.length - after.length - 1), after.reverse)

/-- Credentials in encoded form: a name, and a password if one that is not empty follows
the first colon. Empty credentials are none. -/
def credentials (text : List Char) : Option String :=
  let name := encode escapesInCredentials (text.takeWhile (· ≠ ':'))
  let password := encode escapesInCredentials ((text.dropWhile (· ≠ ':')).drop 1)
  if name.isEmpty && password.isEmpty then none
  else if password.isEmpty then some (String.ofList name)
  else some (String.ofList (name ++ ':' :: password))

/-- Split a host from the port behind the first colon outside brackets. -/
def splitPort : Bool → List Char → List Char × Option (List Char)
  | _, [] => ([], none)
  | inBrackets, character :: rest =>
    if character = ':' && !inBrackets then ([], some rest)
    else
      let inside := character = '[' || (inBrackets && character ≠ ']')
      let (host, port) := splitPort inside rest
      (character :: host, port)

/-- The port of a scheme that is left out. -/
def defaultPort? (scheme : String) : Option Nat :=
  match scheme with
  | "http" => some 80
  | "ws" => some 80
  | "https" => some 443
  | "wss" => some 443
  | "ftp" => some 21
  | _ => none

/-- Read a port; the default port of the scheme and an empty one are left out. -/
def port? (scheme : String) (digits : List Char) : Except Fault (Option Nat) :=
  if digits.isEmpty then .ok none
  else
    match Text.readDigits 65535 0 digits with
    | .ok port => .ok (if defaultPort? scheme = some port then none else some port)
    | .error _ => .error .invalidPort

/-- Read the host of an authority. Only a special scheme takes it for a domain name, and
needs one; without a host there is no port either. -/
def host? (kind : Kind) (text : List Char) (hasPort : Bool) : Except Fault Host :=
  if text.isEmpty then
    if kind.isSpecial || hasPort then .error .emptyHost else .ok .empty
  else if kind.isSpecial then Host.ofDomain? text
  else Host.ofName? text

/-- Read an authority, with the text that is left behind its port: a port ends at a
backslash too, even where that is no slash. `isFollowed` tells that the url goes on behind
the authority, which then cannot be an empty one behind empty credentials. -/
def authority? (scheme : String) (text : List Char) (isFollowed : Bool) :
    Except Fault (Authority × List Char) := do
  let (holder, place) ←
    match splitAtLast? '@' text with
    | some ([], []) => if isFollowed then .error .emptyHost else .ok (none, [])
    | some (user, place) => .ok (credentials user, place)
    | none => .ok (none, text)
  let (hostText, portText) := splitPort false place
  let host ← host? (.ofScheme scheme) hostText portText.isSome
  if host = .empty ∧ holder.isSome then .error .emptyHost
  else
    let behind := portText.getD []
    let port ← port? scheme (behind.takeWhile (· ≠ '\\'))
    return (⟨holder, host, port⟩, behind.dropWhile (· ≠ '\\'))

/-- Split off the query and the fragment behind a text. -/
def splitSuffixes (kind : Kind) (text : List Char) :
    List Char × Option String × Option String :=
  let beforeFragment := text.takeWhile (· ≠ '#')
  let fragment :=
    match text.dropWhile (· ≠ '#') with
    | _ :: rest => some (String.ofList (encode escapesInFragment rest))
    | [] => none
  let query :=
    match beforeFragment.dropWhile (· ≠ '?') with
    | _ :: rest => some (String.ofList (encode (escapesInQuery kind.isSpecial) rest))
    | [] => none
  (beforeFragment.takeWhile (· ≠ '?'), query, fragment)

/-- Read what follows the two slashes of an authority. -/
def located? (scheme : String) (text : List Char) : Except Fault Url := do
  let kind := Kind.ofScheme scheme
  let span := text.takeWhile fun character => !kind.endsAuthority character
  let behind := text.dropWhile fun character => !kind.endsAuthority character
  let (authority, left) ← authority? scheme span !behind.isEmpty
  let (path, query, fragment) := splitSuffixes kind (left ++ behind)
  return ⟨scheme, .path (.authority authority) (Path.readBehindHost kind path), query, fragment⟩

/-- Read the host of a file url and its path. A drive is no host but begins the path, and
the local host is the same as none. -/
def fileHost? (text : List Char) : Except Fault (Host × List String) := do
  let name := text.takeWhile fun character => !Kind.file.isSlash character
  let behind := text.dropWhile fun character => !Kind.file.isSlash character
  if Path.isDrive name then return (.empty, Path.read .file text)
  else if name.isEmpty then return (.empty, Path.read .file behind)
  else
    let host ← Host.ofDomain? name
    if host = .name "localhost" then return (.empty, Path.read .file behind)
    else return (host, Path.readBehindHost .file behind)

/-- Read what follows the scheme of a file url. Two slashes stand before a host, which is
dropped if the path begins with a drive. -/
def fileBody? (text : List Char) : Except Fault UrlBody := do
  let (host, path) ←
    match text with
    | [] => .ok (Host.empty, Path.read .file [])
    | first :: rest =>
      if Kind.file.isSlash first then
        match rest with
        | second :: behind =>
          if Kind.file.isSlash second then fileHost? behind
          else .ok (.empty, Path.read .file rest)
        | [] => .ok (.empty, Path.read .file rest)
      else .ok (.empty, Path.read .file text)
  let isOnDrive := path.head?.any fun segment => Path.isDrive segment.toList
  let authority : Authority := ⟨none, if isOnDrive then .empty else host, none⟩
  return .path (.authority authority) (Path.withoutLeadingEmpty path)

/-- Read what follows a scheme that is not special. Two slashes stand before an authority,
and one begins a path. -/
def otherBody (text : List Char) : UrlBody :=
  match text with
  | '/' :: rest =>
    let path := Path.read .other rest
    .path (.without path) path
  | _ => .plain (String.ofList (encode isControl text))

/-- Read what follows a scheme. A web scheme is followed by an authority, with as many
slashes before it as there are, or none; another scheme needs exactly two for one. -/
def ofBody? (scheme : String) (text : List Char) : Except Fault Url := do
  match Kind.ofScheme scheme, text with
  | .web, _ => located? scheme (text.dropWhile Kind.web.isSlash)
  | .other, '/' :: '/' :: rest => located? scheme rest
  | .other, _ =>
    let (body, query, fragment) := splitSuffixes .other text
    return ⟨scheme, otherBody body, query, fragment⟩
  | .file, _ =>
    let (body, query, fragment) := splitSuffixes .file text
    return ⟨scheme, ← fileBody? body, query, fragment⟩

/-- Read a url. -/
def parse (text : String) : Except Fault Url :=
  match splitScheme? (cleaned text.toList) with
  | some (scheme, rest) => ofBody? scheme rest
  | none => .error .noScheme

end TimedPublishing.Url
