import TimedPublishing.Main
import TimedPublishing.Rehearsal.Worker
import TimedPublishing.Settings.Json
import TimedPublishing.Proofs.Store.Effects
import TimedPublishing.Proofs.Store.Index
import TimedPublishing.Proofs.Store.Permanence
import TimedPublishing.Proofs.Custody.Basic
import TimedPublishing.Proofs.Custody.Exclusion
import TimedPublishing.Proofs.Interleaving.Conduct
import TimedPublishing.Proofs.Interleaving.Dialogue
import TimedPublishing.Proofs.Interleaving.Protocols
import TimedPublishing.Proofs.Interleaving.Scenes
import TimedPublishing.Proofs.Interleaving.Backing
import TimedPublishing.Proofs.Interleaving.Life
import TimedPublishing.Proofs.Interleaving.Publication
import TimedPublishing.Proofs.Interleaving.Attempts
import TimedPublishing.Proofs.Interleaving.Versions
import TimedPublishing.Proofs.Interleaving.Punctuality
import TimedPublishing.Proofs.Interleaving.Races
import TimedPublishing.Proofs.Interleaving.Idempotence
import TimedPublishing.Proofs.Interleaving.Backoff
import TimedPublishing.Proofs.Job.History
import TimedPublishing.Proofs.Alone.Frame
import TimedPublishing.Proofs.Store.DueOrder
import TimedPublishing.Proofs.Alone.Drain
import TimedPublishing.Proofs.Alone.Attempt
import TimedPublishing.Proofs.Alone.Exhaustion
import TimedPublishing.Proofs.Alone.Move
import TimedPublishing.Proofs.Interleaving.Conflicts
import TimedPublishing.Proofs.Job.StoredForm
import TimedPublishing.Proofs.Postgres.Meaning
import TimedPublishing.Proofs.Postgres.Decoding
import TimedPublishing.Proofs.Postgres.Selection
import TimedPublishing.Proofs.Postgres.Parameters
import TimedPublishing.Proofs.Postgres.Replies
import TimedPublishing.Proofs.Store.Listing
import TimedPublishing.Proofs.Postgres.Mirror
import TimedPublishing.Proofs.Postgres.Agreement
import TimedPublishing.Proofs.Poller.Stopping
import TimedPublishing.Proofs.Poller.Accounts
import TimedPublishing.Proofs.Poller.Totals
import TimedPublishing.Proofs.Settings.Acceptance
import TimedPublishing.Proofs.Settings.DelayTable
import TimedPublishing.Proofs.Settings.Spacing
import TimedPublishing.Proofs.Interleaving.Legality
import TimedPublishing.Proofs.Store.Ranges
import TimedPublishing.Proofs.Settings.Arithmetic
import TimedPublishing.Proofs.Url.Endpoint
