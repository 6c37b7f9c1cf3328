import TimedPublishing.Proofs.Postgres.Selection
import TimedPublishing.Rehearsal.Server

/-!
# What is sent for a job comes back as the job

A job is sent by position: a value for each column in one statement, and all but one of them in
another order in the other. It is read back by the names of the columns. Nothing but their agreement
makes a row out of the values that decodes to the job again. The second statement leaves the time of
the making alone, so what comes back has the one that was stored.

A claim sends no job. It changes four columns of a row, and what is left of an earlier status in the
others has to be passed over when the row is read as that of a running job.

A count of attempts that its column cannot hold is refused before anything is sent.
-/

namespace TimedPublishing

/-- The names in the flat form of a job are those of its content and of its owner. -/
theorem Job.named_toRow {job : Job} (content : Text.blank job.content.text = false)
    (owner : ∀ worker, job.state = .running worker → Text.blank worker.text = false) :
    job.toRow.Named where
  content := content
  owner := by
    intro worker owned
    apply owner
    change job.claimedBy = some worker at owned
    unfold Job.claimedBy at owned
    split at owned
    · next standing => exact standing.trans (congrArg JobState.running (Option.some.inj owned))
    · cases owned

/-- A stored form after its job was handed to a worker. The end of an earlier status stays where it
is, if there is one. -/
def JobRow.claimed (flat : JobRow) (worker : WorkerId) (now : Instant) : JobRow :=
  { flat with
    status := .running
    claimedBy := some worker
    nextRetryAt := none
    updatedAt := now }

/-- A stored form of a job that is due becomes one of the job that was handed out. -/
theorem JobRow.toJob?_claimed {flat : JobRow} {job copy : Job} {worker : WorkerId} {now : Instant}
    (rebuilt : flat.toJob? = .ok job) (granted : job.claim worker now = .ok copy) :
    (flat.claimed worker now).toJob? = .ok copy := by
  obtain ⟨_, rfl⟩ := Job.claim_eq_ok granted
  obtain ⟨state, _, same⟩ := bind_eq_ok.mp rebuilt
  cases same
  rfl

/-- The flat form of a job that is due becomes that of the job that was handed out. -/
theorem Job.claimed_toRow {stored copy : Job} {worker : WorkerId} {now : Instant}
    (granted : stored.claim worker now = .ok copy) :
    stored.toRow.claimed worker now = copy.toRow := by
  obtain ⟨due, rfl⟩ := Job.claim_eq_ok granted
  obtain ⟨id, content, publishAt, state, rest⟩ := stored
  rcases (Job.due_cases due).2 with queued | ⟨retryAt, waits, _⟩
  · obtain rfl : state = .queued := queued
    rfl
  · obtain rfl : state = .retryWait retryAt := waits
    rfl

namespace Postgres

/-- The columns that a written job replaces: all but its name and the time of its making. -/
def replacedColumns : List Column :=
  Column.all.filter fun column => column ≠ .id ∧ column ≠ .createdAt

/-- A save sends the values of all columns in their order. -/
theorem saveParameters_eq (job : Job) : saveParameters job = Column.all.map (Row.ofJob job) := rfl

/-- An update sends the name and then the values of the columns that it replaces. -/
theorem updateParameters_eq (job : Job) :
    updateParameters job = (.id :: replacedColumns).map (Row.ofJob job) :=
  rfl

/-- A save replaces those columns by the row that was to be inserted. -/
theorem saveAssignments_eq :
    saveAssignments = replacedColumns.map fun column => ⟨column, .proposed column⟩ :=
  rfl

/-- An update counts its parameters on from the name, in the order in which it sends the values. -/
theorem updateAssignments_eq :
    updateAssignments =
      replacedColumns.zipIdx.map fun (column, index) => ⟨column, .parameter (index + 2)⟩ :=
  rfl

namespace Row

/-- The values of all columns of a job make its row. -/
theorem ofParameters_saveParameters (job : Job) :
    ofParameters (saveParameters job) = ofJob job := by
  funext column
  cases column <;> rfl

/-- A stored row that is replaced by a job becomes the row of that job, made when the stored one
was. -/
theorem assigned_updateParameters {job : Job} {stored : Row} {created : Instant}
    {proposed : Option Row} (sameId : stored .id = .uuid job.id)
    (made : stored .createdAt = .time created) :
    assigned updateAssignments ⟨stored, proposed, updateParameters job⟩ =
      ofJob { job with createdAt := created } := by
  funext column
  cases column with
  | id => exact sameId
  | createdAt => exact made
  | _ => rfl

/-- The row of a stored form after a claim is that of the form after the claim. -/
theorem assigned_claimed (flat : JobRow) (id : JobId) (worker : WorkerId) (now : Instant)
    (proposed : Option Row) :
    assigned claimAssignments
        ⟨ofFlat flat, proposed, [.uuid id, .text worker.text, .time now]⟩ =
      ofFlat (flat.claimed worker now) := by
  funext column
  cases column <;> rfl

end Row

/-- A job that fits its columns is let pass. -/
theorem fitting_of_le {job : Job} (fits : job.attempts.count ≤ maxAttemptsColumn) (query : Query) :
    fitting job query = .ok query :=
  if_pos fits

/-- A job that does not fit its columns is refused. -/
theorem fitting_of_lt {job : Job} (exceeds : maxAttemptsColumn < job.attempts.count)
    (query : Query) :
    fitting job query =
      .error (.storage ("attempts out of range: " ++ toString job.attempts.count)) :=
  if_neg (Nat.not_le.mpr exceeds)

/-- A request without a statement is answered with its fault, and nothing is sent. -/
theorem request_of_refused {call : StoreCall} {cause : StoreError}
    (refused : query call = .error cause) (server : Rehearsal.Server) :
    server.request call = (.error cause, server) := by
  unfold Rehearsal.Server.request
  rw [refused]

/-- What is bound for a job is what is read back. With a count of attempts that fits and with names,
the thirteen values of a save make a row that decodes to the job. The twelve values of an update,
put into any queued row of the same name, make one that decodes to the job as it was made when that
row was. A job whose count does not fit is refused by both, and nothing is sent. -/
theorem written_as_read (job : Job) (server : Rehearsal.Server) :
    (job.attempts.count ≤ maxAttemptsColumn → Text.blank job.content.text = false →
      (∀ worker, job.state = .running worker → Text.blank worker.text = false) →
      (∃ parameters, query (.save job) = .ok ⟨saveStatement, parameters⟩ ∧
        parameters.length = 13 ∧ (Row.ofParameters parameters).Decodes job) ∧
      ∃ parameters assignments condition,
        query (.updateIfQueued job) = .ok ⟨.update assignments condition, parameters⟩ ∧
        parameters.length = 12 ∧
        ∀ stored created, stored .id = .uuid job.id →
          stored .status = .text JobStatus.queued.text → stored .createdAt = .time created →
          condition.Holds ⟨stored, none, parameters⟩ ∧
          (Row.assigned assignments ⟨stored, none, parameters⟩).Decodes
            { job with createdAt := created }) ∧
    (maxAttemptsColumn < job.attempts.count → ∃ detail,
      server.request (.save job) = (.error (.storage detail), server) ∧
      server.request (.updateIfQueued job) = (.error (.storage detail), server)) := by
  constructor
  · intro fits content owner
    have named : job.toRow.Named := Job.named_toRow content owner
    refine ⟨⟨saveParameters job, fitting_of_le fits _, rfl, ?_⟩,
      updateParameters job, updateAssignments, _, fitting_of_le fits _, rfl, ?_⟩
    · rw [Row.ofParameters_saveParameters]
      exact Row.decodes_ofJob named
    · intro stored created sameId queued made
      constructor
      · have byName := @Condition.holds_columnIs
          ⟨stored, none, updateParameters job⟩ .id 1 (.uuid job.id) rfl (by simp)
        exact Condition.holds_both.mpr ⟨byName.mpr sameId, Condition.holds_statusIs.mpr queued⟩
      · rw [Row.assigned_updateParameters sameId made]
        exact Row.decodes_ofJob ⟨named.content, named.owner⟩
  · intro exceeds
    have saving : query (.save job) = .error _ := fitting_of_lt exceeds _
    have updating : query (.updateIfQueued job) = .error _ := fitting_of_lt exceeds _
    exact ⟨_, request_of_refused saving server, request_of_refused updating server⟩

end Postgres

end TimedPublishing
