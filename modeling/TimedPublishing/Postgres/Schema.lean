/-!
# The schema of the table of jobs

The script that makes the table and its indexes where they are missing. What the job model
promises about a row stands in it as constraints: one row for an intent, an owner exactly
while a job runs, and a retry time while it waits for one.
-/

namespace TimedPublishing.Postgres

/-- The lines of the script. -/
def schemaLines : List String :=
  [ "-- Scheduled publish jobs.",
    "-- One row per (content_id, publish_at_utc) publish intent.",
    "",
    "CREATE TABLE IF NOT EXISTS publish_jobs (",
    "    id                 UUID PRIMARY KEY,",
    "    content_id         TEXT        NOT NULL,",
    "    publish_at_utc     TIMESTAMPTZ NOT NULL,",
    "    status             TEXT        NOT NULL,",
    "    attempts           INTEGER     NOT NULL DEFAULT 0,",
    "    last_attempt_at    TIMESTAMPTZ,",
    "    next_retry_at      TIMESTAMPTZ,",
    "    completed_at       TIMESTAMPTZ,",
    "    actual_publish_at  TIMESTAMPTZ,",
    "    error_message      TEXT,",
    "    claimed_by         TEXT,",
    "    created_at         TIMESTAMPTZ NOT NULL,",
    "    updated_at         TIMESTAMPTZ NOT NULL,",
    "",
    "    CONSTRAINT publish_jobs_idempotency_key UNIQUE (content_id, publish_at_utc),",
    "    CONSTRAINT publish_jobs_status_valid",
    "        CHECK (status IN ('queued', 'running', 'retry_wait', 'succeeded', 'failed')),",
    "    CONSTRAINT publish_jobs_attempts_non_negative CHECK (attempts >= 0),",
    "    CONSTRAINT publish_jobs_claimed_by_iff_running",
    "        CHECK ((status = 'running') = (claimed_by IS NOT NULL)),",
    "    CONSTRAINT publish_jobs_retry_has_next_retry_at",
    "        CHECK (status <> 'retry_wait' OR next_retry_at IS NOT NULL)",
    ");",
    "",
    "-- Due-job scan: queued by publish time, retry_wait by retry time.",
    "CREATE INDEX IF NOT EXISTS idx_publish_jobs_status_publish_at",
    "    ON publish_jobs (status, publish_at_utc, id);",
    "",
    "CREATE INDEX IF NOT EXISTS idx_publish_jobs_retry_due",
    "    ON publish_jobs (next_retry_at)",
    "    WHERE status = 'retry_wait';",
    "",
    "-- Calendar range queries.",
    "CREATE INDEX IF NOT EXISTS idx_publish_jobs_publish_at",
    "    ON publish_jobs (publish_at_utc);"]

/-- The script, as it is sent. -/
def schema : String := "\n".intercalate schemaLines

end TimedPublishing.Postgres
