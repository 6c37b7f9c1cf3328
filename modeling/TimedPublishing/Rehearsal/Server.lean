import TimedPublishing.Postgres.Message
import TimedPublishing.Postgres.Reply
import TimedPublishing.Schedule.Run

/-!
# A database in rehearsal

A database that keeps nothing: it notes every statement it is sent, and replies to each
with the next of the replies it was given beforehand, or with no row when none is left.
-/

namespace TimedPublishing.Rehearsal

open Postgres

/-- A database with its replies. -/
structure Server where
  replies : List Reply
  /-- Whether there is a connection. -/
  isOpen : Bool
  /-- What it was sent, the first message first. -/
  received : List Message

namespace Server

/-- A database that was sent nothing yet. -/
def create (replies : List Reply) : Server := ⟨replies, true, []⟩

/-- Send a message. Without a connection nothing is sent. -/
def send (server : Server) (message : Message) : Reply × Server :=
  if server.isOpen then
    (server.replies.headD (.affected 0),
      { server with replies := server.replies.tail, received := server.received ++ [message] })
  else (.failure .closed, server)

/-- Make the table where it is missing. -/
def applySchema (server : Server) : Except StoreError Unit × Server :=
  let (reply, after) := server.send .ofSchema
  (schemaApplied reply, after)

/-- Make a request to the store in the database. -/
def request (server : Server) (call : StoreCall) : call.Reply × Server :=
  match query call with
  | .error cause => (.error cause, server)
  | .ok query =>
    let (reply, after) := server.send (.ofQuery query)
    (interpret call reply, after)

/-- How a world with this database reacts to a request of a program that makes up no
names, at some instant and with some publisher. -/
def react (present : Instant) (publisher : ContentId → PublishReply) :
    (call : Call) → Server → Reaction call.Reply × Server
  | .clock, server => (.reply present, server)
  | .freshId, server => (.pending, server)
  | .store call, server =>
    let (reply, after) := server.request call
    (.reply reply, after)
  | .publish content, server => (.reply (publisher content), server)

end Server

end TimedPublishing.Rehearsal
