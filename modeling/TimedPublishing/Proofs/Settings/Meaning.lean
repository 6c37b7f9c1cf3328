import TimedPublishing.Proofs.Outcomes
import TimedPublishing.Proofs.Settings.Numeral
import TimedPublishing.Proofs.Text.Padding
import TimedPublishing.Settings.Environment

/-!
# What the values of settings mean

Each setting is read in its own way: as a number within a limit, as a time in milliseconds, as a
list of delays, as a url or as a name. `Setting.Denotes` is a table of what a value means for each
setting, said without the readers; only what a url means is left to a parser of urls, of which
nothing is assumed. Every reader accepts exactly the values that mean something, as what they mean,
and reports what it refuses under the name of the setting. The reader of the delays is laxer: it
leaves the bound on them to a later check.
-/

namespace TimedPublishing

namespace Text

/-- Taking away the white space around a text leaves it as blank as it was. -/
theorem isBlank_trim (text : List Char) : isBlank (trim text) = isBlank text := by
  have same : SameContent (trim text) text :=
    sameContent_iff.mpr (padded_trim text).trim_eq.symm
  exact same.isBlank_eq

/-- The same for strings. -/
theorem blank_trimmed (text : String) : blank (trimmed text) = blank text := by
  simp [blank, trimmed, isBlank_trim]

end Text

/-- A text is the written form of a number, up to white space around it. -/
def Text.IsNumber (text : List Char) (value : Nat) : Prop := Text.Numeral (Text.trim text) value

namespace Setting

/-- What the field of a setting holds. -/
def Field : Setting → Type
  | databaseUrl => Option String
  | publisherUrl => Option Url
  | publishTimeout => Delay
  | grace => Nat
  | backoff => List Nat
  | maxAttempts => Attempts
  | interval => Delay
  | maxJobs => Nat
  | stopTimeout => Delay
  | jitter => Delay
  | worker => Option WorkerId

/-- The value of a field whose variable is not set. -/
def standard : (setting : Setting) → setting.Field
  | databaseUrl => (none : Option String)
  | publisherUrl => (none : Option Url)
  | publishTimeout => Delay.ofMillis 10000
  | grace => (0 : Nat)
  | backoff => RetryPolicy.standardDelays
  | maxAttempts => RetryPolicy.standardBudget
  | interval => Delay.ofMillis 5000
  | maxJobs => (50 : Nat)
  | stopTimeout => Delay.ofMillis 30000
  | jitter => Delay.ofMillis 500
  | worker => (none : Option WorkerId)

/-- A text denotes a time in milliseconds, which a field of 64 bits holds. -/
def DenotesMillis (value : String) (delay : Delay) : Prop :=
  ∃ millis, Text.IsNumber value.toList millis ∧ millis ≤ Text.maxWord64 ∧ delay = .ofMillis millis

/-- What a value means for a setting, where urls are read by a parser. -/
def Denotes (parse : Url.Parser) : (setting : Setting) → String → setting.Field → Prop
  | databaseUrl, value, (field : Option String) => field = some value
  | publisherUrl, value, (field : Option Url) =>
    ∃ url, parse (Text.trimmed value) = .ok url ∧ field = some url
  | publishTimeout, value, field => DenotesMillis value field
  | grace, value, (field : Nat) => Text.IsNumber value.toList field ∧ field ≤ longestDelay
  | backoff, value, (field : List Nat) =>
    List.Forall₂ (fun entry delay => Text.IsNumber entry delay ∧ delay ≤ longestDelay)
      (value.toList.splitOn ',') field
  | maxAttempts, value, (field : Attempts) => Text.IsNumber value.toList field.count
  | interval, value, (field : Delay) => DenotesMillis value field ∧ 0 < field.nanos
  | maxJobs, value, (field : Nat) =>
    Text.IsNumber value.toList field ∧ 0 < field ∧ field ≤ Text.maxWord64
  | stopTimeout, value, field => DenotesMillis value field
  | jitter, value, field => DenotesMillis value field
  | worker, value, (field : Option WorkerId) => field = some ⟨Text.trimmed value⟩

/-- A value that means something for a setting. -/
def WellFormed (parse : Url.Parser) (setting : Setting) (value : String) : Prop :=
  ∃ field, setting.Denotes parse value field

end Setting

/-- The field of a setting. -/
def WorkerSettings.field (settings : WorkerSettings) : (setting : Setting) → setting.Field
  | .databaseUrl => settings.databaseUrl
  | .publisherUrl => settings.publisherUrl
  | .publishTimeout => settings.publishTimeout
  | .grace => settings.scheduler.graceSeconds
  | .backoff => settings.scheduler.backoffSeconds
  | .maxAttempts => settings.scheduler.maxAttempts
  | .interval => settings.poller.interval
  | .maxJobs => settings.poller.maxJobsPerCycle
  | .stopTimeout => settings.poller.stopTimeout
  | .jitter => settings.poller.jitter
  | .worker => settings.poller.worker

namespace Environment

variable {α : Type}

/-- A number is read exactly when it is written and within the limit. -/
theorem number_eq_ok {limit : Nat} {setting : Setting} {value : String} {count : Nat} :
    number limit setting value = .ok count ↔ Text.IsNumber value.toList count ∧ count ≤ limit := by
  unfold number
  rw [mapError_eq_ok, Text.readNumber_eq_ok]
  rfl

/-- What is no number is reported as it stands. -/
theorem number_eq_error {limit : Nat} {setting : Setting} {value : String} {cause : SettingsError}
    (refused : number limit setting value = .error cause) :
    ∃ fault, cause = .invalid setting value fault := by
  obtain ⟨fault, _, rfl⟩ := mapError_eq_error.mp refused
  exact ⟨.number fault, rfl⟩

/-- A number is read and gone on with, or reported as it stands. -/
theorem number_bind_eq_error {limit : Nat} {setting : Setting} {value : String}
    {check : Nat → Except SettingsError α} {cause : SettingsError}
    (refused : (number limit setting value >>= check) = .error cause)
    (checked : ∀ count, check count = .error cause →
      ∃ fault, cause = .invalid setting value fault) :
    ∃ reported fault, cause = .invalid setting reported fault := by
  rcases bind_eq_error.mp refused with unread | ⟨count, _, unfit⟩
  · exact ⟨value, number_eq_error unread⟩
  · exact ⟨value, checked count unfit⟩

/-- A time in milliseconds is read exactly when it is denoted. -/
theorem millis_eq_ok {setting : Setting} {value : String} {delay : Delay} :
    millis setting value = .ok delay ↔ Setting.DenotesMillis value delay := by
  have mapped : millis setting value = .ok delay ↔
      ∃ count, number Text.maxWord64 setting value = .ok count ∧ delay = .ofMillis count := by
    unfold millis
    cases number Text.maxWord64 setting value <;> simp [Except.map, eq_comm]
  rw [mapped]
  simp only [number_eq_ok, Setting.DenotesMillis, and_assoc]

/-- What is no time in milliseconds is reported as it stands. -/
theorem millis_eq_error {setting : Setting} {value : String} {cause : SettingsError}
    (refused : millis setting value = .error cause) :
    ∃ reported fault, cause = .invalid setting reported fault := by
  unfold millis at refused
  cases read : number Text.maxWord64 setting value with
  | ok count =>
    rw [read] at refused
    cases refused
  | error former =>
    rw [read] at refused
    cases refused
    exact ⟨value, number_eq_error read⟩

/-- The grace is read in seconds, up to the longest delay. -/
theorem grace_eq_ok {value : String} {seconds : Nat} :
    grace value = .ok seconds ↔ Text.IsNumber value.toList seconds ∧ seconds ≤ longestDelay := by
  unfold grace
  simp only [bind_eq_ok, number_eq_ok, SchedulerSettings.grace]
  constructor
  · rintro ⟨count, ⟨isNumber, _⟩, checked⟩
    by_cases exceeds : longestDelay < count
    · rw [if_pos exceeds] at checked
      cases checked
    · rw [if_neg exceeds] at checked
      cases checked
      exact ⟨isNumber, Nat.le_of_not_lt exceeds⟩
  · rintro ⟨isNumber, within⟩
    refine ⟨seconds, ⟨isNumber, Nat.le_trans within (by decide)⟩, ?_⟩
    rw [if_neg (Nat.not_lt.mpr within)]
    rfl

/-- A grace that is refused is reported as it stands. -/
theorem grace_eq_error {value : String} {cause : SettingsError}
    (refused : grace value = .error cause) :
    ∃ reported fault, cause = .invalid .grace reported fault := by
  refine number_bind_eq_error refused fun count unfit => ?_
  split at unfit
  · cases unfit
  · cases unfit
    exact ⟨_, rfl⟩

/-- The budget of attempts is read into its 32 bits. -/
theorem budget_eq_ok {value : String} {attempts : Attempts} :
    budget value = .ok attempts ↔ Text.IsNumber value.toList attempts.count := by
  unfold budget
  simp only [bind_eq_ok, number_eq_ok]
  constructor
  · rintro ⟨count, ⟨isNumber, within⟩, checked⟩
    rw [Attempts.ofNat?, dif_pos within] at checked
    cases checked
    exact isNumber
  · intro isNumber
    refine ⟨attempts.count, ⟨isNumber, attempts.inRange⟩, ?_⟩
    rw [Attempts.ofNat?, dif_pos attempts.inRange]
    rfl

/-- A budget that is refused is reported as it stands. -/
theorem budget_eq_error {value : String} {cause : SettingsError}
    (refused : budget value = .error cause) :
    ∃ reported fault, cause = .invalid .maxAttempts reported fault := by
  refine number_bind_eq_error refused fun count unfit => ?_
  split at unfit
  · cases unfit
  · cases unfit
    exact ⟨_, rfl⟩

/-- A time that must not be zero is read in milliseconds. -/
theorem positiveMillis_eq_ok {setting : Setting} {value : String} {delay : Delay} :
    positiveMillis setting value = .ok delay ↔
      Setting.DenotesMillis value delay ∧ 0 < delay.nanos := by
  unfold positiveMillis
  simp only [bind_eq_ok, number_eq_ok]
  constructor
  · rintro ⟨count, ⟨isNumber, within⟩, checked⟩
    split at checked
    · cases checked
    · next positive =>
      cases checked
      exact ⟨⟨count, isNumber, within, rfl⟩, Nat.mul_pos (Nat.pos_of_ne_zero positive) (by decide)⟩
  · rintro ⟨⟨count, isNumber, within, rfl⟩, positive⟩
    refine ⟨count, ⟨isNumber, within⟩, if_neg ?_⟩
    rintro rfl
    exact Nat.lt_irrefl 0 positive

/-- A time that is refused is reported as it stands. -/
theorem positiveMillis_eq_error {setting : Setting} {value : String} {cause : SettingsError}
    (refused : positiveMillis setting value = .error cause) :
    ∃ reported fault, cause = .invalid setting reported fault := by
  refine number_bind_eq_error refused fun count unfit => ?_
  split at unfit
  · cases unfit
    exact ⟨_, rfl⟩
  · cases unfit

/-- A count that must not be zero is read into its 64 bits. -/
theorem positiveCount_eq_ok {setting : Setting} {value : String} {count : Nat} :
    positiveCount setting value = .ok count ↔
      Text.IsNumber value.toList count ∧ 0 < count ∧ count ≤ Text.maxWord64 := by
  unfold positiveCount
  simp only [bind_eq_ok, number_eq_ok]
  constructor
  · rintro ⟨number, ⟨isNumber, within⟩, checked⟩
    split at checked
    · cases checked
    · next positive =>
      cases checked
      exact ⟨isNumber, Nat.pos_of_ne_zero positive, within⟩
  · rintro ⟨isNumber, positive, within⟩
    exact ⟨count, ⟨isNumber, within⟩, if_neg (Nat.pos_iff_ne_zero.mp positive)⟩

/-- A count that is refused is reported as it stands. -/
theorem positiveCount_eq_error {setting : Setting} {value : String} {cause : SettingsError}
    (refused : positiveCount setting value = .error cause) :
    ∃ reported fault, cause = .invalid setting reported fault := by
  refine number_bind_eq_error refused fun count unfit => ?_
  split at unfit
  · cases unfit
    exact ⟨_, rfl⟩
  · cases unfit

/-- The url of the content service is read as its parser reads it. -/
theorem publisherUrl_eq_ok {parse : Url.Parser} {value : String} {field : Option Url} :
    publisherUrl parse value = .ok field ↔
      ∃ url, parse (Text.trimmed value) = .ok url ∧ field = some url := by
  unfold publisherUrl
  cases parse (Text.trimmed value) <;> simp [eq_comm]

/-- A url that is refused is reported as it stands. -/
theorem publisherUrl_eq_error {parse : Url.Parser} {value : String} {cause : SettingsError}
    (refused : publisherUrl parse value = .error cause) :
    ∃ reported fault, cause = .invalid .publisherUrl reported fault := by
  unfold publisherUrl at refused
  split at refused
  · cases refused
  · cases refused
    exact ⟨_, _, rfl⟩

/-- The name of a worker is read without the white space around it. -/
theorem worker_eq_ok {value : String} {field : Option WorkerId}
    (visible : Text.blank value = false) :
    worker value = .ok field ↔ field = some ⟨Text.trimmed value⟩ := by
  have named : WorkerId.read (Text.trimmed value) = .ok ⟨Text.trimmed value⟩ := by
    simp [WorkerId.read, WorkerId.ofText?, Text.blank_trimmed, visible, Except.mapError]
  unfold worker
  rw [named]
  simp [eq_comm]

/-- A name that is refused is reported as it stands. -/
theorem worker_eq_error {value : String} {cause : SettingsError}
    (refused : worker value = .error cause) :
    ∃ reported fault, cause = .invalid .worker reported fault := by
  unfold worker at refused
  split at refused
  · cases refused
  · cases refused
    exact ⟨_, _, rfl⟩

/-- A table of delays is read entry by entry. -/
theorem backoffTable_eq_ok {value : String} {delays : List Nat} :
    backoffTable value = .ok delays ↔
      List.Forall₂ (fun entry delay => Text.IsNumber entry delay ∧ delay ≤ Text.maxWord64)
        (value.toList.splitOn ',') delays := by
  unfold backoffTable
  rw [mapM_eq_ok, Text.pieces_eq_splitOnP]
  simp only [number_eq_ok, String.toList_ofList]
  rfl

/-- An entry that is refused is reported as it stands. -/
theorem backoffTable_eq_error {value : String} {cause : SettingsError}
    (refused : backoffTable value = .error cause) :
    ∃ reported fault, cause = .invalid .backoff reported fault := by
  obtain ⟨entry, _, unread⟩ := (mapM_eq_error.mp refused).exists_bad
  exact ⟨_, number_eq_error unread⟩

/-- What a table of delays means is what is read, if no delay in it is too long. -/
theorem denotes_backoff_iff {parse : Url.Parser} {value : String} {delays : List Nat} :
    Setting.backoff.Denotes parse value delays ↔
      backoffTable value = .ok delays ∧ ∀ delay ∈ delays, delay ≤ longestDelay := by
  rw [backoffTable_eq_ok]
  change List.Forall₂ _ _ _ ↔ _
  rw [forall₂_and_right, forall₂_and_right, and_assoc, and_congr_right_iff]
  intro _
  constructor
  · intro bounded
    exact ⟨fun delay member => Nat.le_trans (bounded delay member) (by decide), bounded⟩
  · rintro ⟨_, bounded⟩
    exact bounded

end Environment

end TimedPublishing
