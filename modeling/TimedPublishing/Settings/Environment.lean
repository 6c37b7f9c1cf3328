import TimedPublishing.Settings.Worker
import TimedPublishing.Text.Basic
import TimedPublishing.Text.Quoted
import TimedPublishing.Url.Parser

/-!
# Settings from the environment

Each setting is read from one variable. A variable whose value is blank counts as unset,
and an unset variable leaves its setting at the standard value. A value that is set has to
be well formed, up to white space around it; the first one that is not, in the order in
which they are read, is reported under its name with the value as it was given. The
database url is taken as it is. What is a url is up to the parser that the settings are read
with.
-/

namespace TimedPublishing

/-- The settings that have a variable. -/
inductive Setting
  | databaseUrl
  | publisherUrl
  | publishTimeout
  | grace
  | backoff
  | maxAttempts
  | interval
  | maxJobs
  | stopTimeout
  | jitter
  | worker
deriving DecidableEq, Repr

/-- All settings that have a variable. -/
def Setting.all : List Setting :=
  [.databaseUrl, .publisherUrl, .publishTimeout, .grace, .backoff, .maxAttempts, .interval,
    .maxJobs, .stopTimeout, .jitter, .worker]

/-- The name of a setting's variable in the environment. -/
def Setting.name : Setting → String
  | .databaseUrl => "DATABASE_URL"
  | .publisherUrl => "PUBSCHED_PUBLISHER_URL"
  | .publishTimeout => "PUBSCHED_PUBLISH_TIMEOUT_MS"
  | .grace => "PUBSCHED_GRACE_SECONDS"
  | .backoff => "PUBSCHED_BACKOFF_SECONDS"
  | .maxAttempts => "PUBSCHED_MAX_ATTEMPTS"
  | .interval => "PUBSCHED_POLL_INTERVAL_MS"
  | .maxJobs => "PUBSCHED_MAX_JOBS"
  | .stopTimeout => "PUBSCHED_STOP_TIMEOUT_MS"
  | .jitter => "PUBSCHED_POLL_JITTER_MS"
  | .worker => "PUBSCHED_WORKER_ID"

/-- Why a value is malformed. -/
inductive ValueFault
  | number (fault : Text.NumberFault)
  | notPositive
  | job (fault : JobError)
  | url (fault : Url.Fault)
deriving DecidableEq, Repr

/-- The wording of a fault. -/
def ValueFault.message : ValueFault → String
  | .number fault => fault.message
  | .notPositive => "must be positive"
  | .job fault => fault.message
  | .url fault => fault.message

/-- Why there are no settings. -/
inductive SettingsError
  | invalid (setting : Setting) (value : String) (fault : ValueFault)
  | missing (setting : Setting)
deriving DecidableEq, Repr

/-- The wording of an error. -/
def SettingsError.message : SettingsError → String
  | .invalid setting value fault =>
    "invalid value for " ++ setting.name ++ ": " ++ Text.quoted value ++ " (" ++ fault.message ++ ")"
  | .missing setting => setting.name ++ " must be set"

/-- An environment gives values to names. -/
structure Environment where
  lookup : String → Option String

namespace Environment

/-- The environment of some variables with their values. -/
def ofPairs (pairs : List (String × String)) : Environment := ⟨fun name => pairs.lookup name⟩

/-- The value of a variable, unless it is blank. -/
def get (environment : Environment) (setting : Setting) : Option String :=
  (environment.lookup setting.name).filter fun value => !Text.blank value

/-- Read a number of at most `limit`. -/
def number (limit : Nat) (setting : Setting) (value : String) : Except SettingsError Nat :=
  (Text.readNumber limit (Text.trim value.toList)).mapError fun fault =>
    .invalid setting value (.number fault)

/-- Read a number of milliseconds. -/
def millis (setting : Setting) (value : String) : Except SettingsError Delay :=
  (number Text.maxWord64 setting value).map Delay.ofMillis

/-- Read a number of milliseconds other than zero. -/
def positiveMillis (setting : Setting) (value : String) : Except SettingsError Delay := do
  let count ← number Text.maxWord64 setting value
  if count = 0 then .error (.invalid setting value .notPositive) else .ok (.ofMillis count)

/-- Read a number of jobs other than zero. -/
def positiveCount (setting : Setting) (value : String) : Except SettingsError Nat := do
  let count ← number Text.maxWord64 setting value
  if count = 0 then .error (.invalid setting value .notPositive) else .ok count

/-- Read a list of delays, separated by commas. An entry that is malformed is reported as
it stands between its commas. -/
def backoffTable (value : String) : Except SettingsError (List Nat) :=
  (Text.pieces (· = ',') value.toList).mapM fun entry =>
    number Text.maxWord64 .backoff (String.ofList entry)

/-- Read a setting if its variable is set. -/
def readOr {α : Type} (environment : Environment) (setting : Setting) (standard : α)
    (read : String → Except SettingsError α) : Except SettingsError α :=
  match environment.get setting with
  | some value => read value
  | none => .ok standard

/-- Read the grace. It is checked at once. -/
def grace (value : String) : Except SettingsError Nat := do
  let seconds ← number Text.maxWord64 .grace value
  match ({ SchedulerSettings.standard with graceSeconds := seconds }).grace with
  | .ok _ => return seconds
  | .error fault => .error (.invalid .grace value (.job fault))

/-- Read a budget of attempts. -/
def budget (value : String) : Except SettingsError Attempts := do
  let count ← number Text.maxWord32 .maxAttempts value
  match Attempts.ofNat? count with
  | some attempts => return attempts
  | none => .error (.invalid .maxAttempts value (.number .tooLarge))

/-- Read the scheduler settings. The delays are checked after the budget is read. -/
def scheduler (environment : Environment) : Except SettingsError SchedulerSettings := do
  let graceSeconds ← environment.readOr .grace 0 grace
  let backoffSeconds ← environment.readOr .backoff RetryPolicy.standardDelays backoffTable
  let maxAttempts ← environment.readOr .maxAttempts RetryPolicy.standardBudget budget
  let settings : SchedulerSettings := ⟨graceSeconds, backoffSeconds, maxAttempts⟩
  match settings.policy with
  | .ok _ => return settings
  | .error fault =>
    .error (.invalid .backoff ((environment.get .backoff).getD "") (.job fault))

/-- Read the name of a worker, without the white space around it. -/
def worker (value : String) : Except SettingsError (Option WorkerId) :=
  match WorkerId.read (Text.trimmed value) with
  | .ok id => .ok (some id)
  | .error fault => .error (.invalid .worker value (.job fault))

/-- Read the poller settings. -/
def poller (environment : Environment) : Except SettingsError PollerSettings := do
  let standard := PollerSettings.standard
  let interval ← environment.readOr .interval standard.interval (positiveMillis .interval)
  let maxJobs ← environment.readOr .maxJobs standard.maxJobsPerCycle (positiveCount .maxJobs)
  let stopTimeout ← environment.readOr .stopTimeout standard.stopTimeout (millis .stopTimeout)
  let jitter ← environment.readOr .jitter standard.jitter (millis .jitter)
  let name ← environment.readOr .worker standard.worker worker
  return ⟨interval, maxJobs, stopTimeout, jitter, name⟩

/-- Read the url of the content service, without the white space around it. -/
def publisherUrl (parse : Url.Parser) (value : String) : Except SettingsError (Option Url) :=
  match parse (Text.trimmed value) with
  | .ok url => .ok (some url)
  | .error fault => .error (.invalid .publisherUrl value (.url fault))

/-- Read all settings of a worker, with a parser for the url. -/
def settingsBy (parse : Url.Parser) (environment : Environment) :
    Except SettingsError WorkerSettings := do
  let scheduler ← environment.scheduler
  let poller ← environment.poller
  let publisherUrl ← environment.readOr .publisherUrl none (publisherUrl parse)
  let publishTimeout ←
    environment.readOr .publishTimeout (.ofMillis 10000) (millis .publishTimeout)
  return ⟨environment.get .databaseUrl, publisherUrl, publishTimeout, scheduler, poller⟩

/-- Read all settings of a worker, with the parser that a process runs with. -/
def settings (environment : Environment) : Except SettingsError WorkerSettings :=
  environment.settingsBy Url.parse

end Environment

/-- The url of the content service, without which no job can be executed. -/
def WorkerSettings.requirePublisherUrl (settings : WorkerSettings) : Except SettingsError Url :=
  match settings.publisherUrl with
  | some url => .ok url
  | none => .error (.missing .publisherUrl)

end TimedPublishing
