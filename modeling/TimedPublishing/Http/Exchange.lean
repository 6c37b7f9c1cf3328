import TimedPublishing.Http.Endpoint
import TimedPublishing.Schedule.Program
import TimedPublishing.Text.Basic

/-!
# What the answer of a content service means

A status from 200 to 299 means that the content was published. Any other status is a
refusal, whose reason is the status with the trimmed beginning of the body. A body that
breaks off counts as empty, and some statuses have none. Where no response comes back, the
call failed.
-/

namespace TimedPublishing.Http

/-- What comes back for a request. -/
inductive Answer
  /-- A response with its body in octets. -/
  | response (status : Nat) (body : List Nat)
  /-- A response whose body breaks off. -/
  | brokenBody (status : Nat)
  /-- No response: none in time, or none at all. -/
  | silence
deriving DecidableEq, Repr

/-- The most characters of a body that a reason keeps. -/
def maxBodyChars : Nat := 512

/-- The statuses whose response has no body, whatever is sent. -/
def isBodiless (status : Nat) : Bool := status == 101 || status == 204 || status == 304

/-- The statuses that announce a response instead of being one. -/
def isInterim (status : Nat) : Bool := 100 ≤ status && status < 200 && status != 101

/-- The reason of a refusal. -/
def refusal (status : Nat) (body : List Nat) : String :=
  "HTTP " ++ toString status ++ ": " ++
    String.ofList ((Text.trim (Text.decodeUtf8 body)).take maxBodyChars)

/-- The wording of a call that got no response. -/
def noResponse : String := "publish request failed"

/-- What a final response means. -/
def outcome (status : Nat) (body : List Nat) : PublishReply :=
  if 200 ≤ status ∧ status ≤ 299 then .published
  else .rejected (refusal status (if isBodiless status then [] else body))

/-- What the publisher reports for an answer. -/
def Answer.outcome : Answer → PublishReply
  | .response status body =>
    if isInterim status then .failed noResponse else Http.outcome status body
  | .brokenBody status => if isInterim status then .failed noResponse else Http.outcome status []
  | .silence => .failed noResponse

/-- The first line of the request for a url. -/
def requestLine (url : Url) : String := "POST " ++ url.requestTarget ++ " HTTP/1.1"

/-- The schemes over which a request can be made. -/
def isReachable (url : Url) : Bool := url.scheme == "http" || url.scheme == "https"

/-- Publish a content below a base url, with the answer that its endpoint gives. Without
an endpoint there is no request and the call fails. -/
def publish (base : Url) (content : ContentId) (answer : Url → Answer) : PublishReply :=
  match base.endpoint content with
  | .error cause => .failed cause
  | .ok url => if isReachable url then (answer url).outcome else .failed noResponse

end TimedPublishing.Http
