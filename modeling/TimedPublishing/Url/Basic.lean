import TimedPublishing.Url.Host
import TimedPublishing.Url.Path

/-!
# Urls

A url has a scheme and either a place with a path below it, or a plain text that is no path.
The place is an authority: a host, perhaps with credentials and a port. It can be missing; a
path that begins with two slashes would then look like an authority, so a dot is put before
it. Behind the path there may be a query and a fragment.
-/

namespace TimedPublishing

/-- The place that a url points to, with credentials already in encoded form. -/
structure Authority where
  credentials : Option String
  host : Url.Host
  port : Option Nat
deriving DecidableEq, Repr

/-- What stands before the path of a url. -/
inductive Place
  | authority (site : Authority)
  | nowhere
  /-- No authority, with a dot that sets the path off. -/
  | dot
deriving DecidableEq, Repr

/-- What stands between the scheme of a url and its query. -/
inductive UrlBody
  /-- A text that is no path and can carry none. -/
  | plain (text : String)
  | path (place : Place) (segments : List String)
deriving DecidableEq, Repr

/-- A url in normal form. -/
structure Url where
  scheme : String
  body : UrlBody
  query : Option String
  fragment : Option String
deriving DecidableEq, Repr

/-- The written form of an authority. -/
def Authority.text (authority : Authority) : String :=
  (match authority.credentials with
    | some credentials => credentials ++ "@"
    | none => "") ++
  authority.host.text ++
  (match authority.port with
    | some port => ":" ++ toString port
    | none => "")

/-- The written form of a place. -/
def Place.text : Place → String
  | .authority site => "//" ++ site.text
  | .nowhere => ""
  | .dot => "/."

/-- The place of a path without an authority. -/
def Place.without (path : List String) : Place :=
  match path with
  | "" :: _ :: _ => .dot
  | _ => .nowhere

/-- The written form of a body. -/
def UrlBody.text : UrlBody → String
  | .plain text => text
  | .path place segments => place.text ++ Url.Path.text segments

namespace Url

/-- A parser of urls says what url a text is read as, or why it is none. -/
abbrev Parser : Type := String → Except Fault Url

/-- What is special about the scheme of a url. -/
def kind (url : Url) : Kind := .ofScheme url.scheme

/-- A query or a fragment behind its mark, if there is one. -/
def marked (mark : String) : Option String → String
  | some text => mark ++ text
  | none => ""

/-- The written form of a url. -/
def text (url : Url) : String :=
  url.scheme ++ ":" ++ url.body.text ++ marked "?" url.query ++ marked "#" url.fragment

/-- What a request for the url asks its host for: the path and the query. -/
def requestTarget (url : Url) : String :=
  (match url.body with
    | .path _ segments => Path.text segments
    | .plain text => text) ++ marked "?" url.query

end Url

end TimedPublishing
