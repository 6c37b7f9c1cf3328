import TimedPublishing.Proofs.Settings.Arithmetic
import TimedPublishing.Proofs.Settings.Meaning

/-!
# Which environments are accepted

The settings are read one variable after the other, and one of them is checked long after it was
read. What comes of it does not depend on that order. An environment is accepted exactly when every
variable that is set means something, and then every field has what its variable means, or the
standard value. When it is refused, the variable that is blamed means nothing.

Every reading establishes a fact or blames a variable, and so do several in a row:
`Environment.Establishes` is that, and `Establishes.bind` carries it through all of them.
-/

namespace TimedPublishing

namespace Environment

variable {α β : Type} {parse : Url.Parser} {environment : Environment}

/-- A field has what its variable means, or the standard value if the variable is not set. -/
structure Gives (environment : Environment) (setting : Setting) (standard : α)
    (means : String → α → Prop) (field : α) : Prop where
  set : ∀ value, environment.get setting = some value → means value field
  unset : environment.get setting = none → field = standard

/-- An error blames a variable that is set to a value without meaning. -/
def Blames (parse : Url.Parser) (environment : Environment) (cause : SettingsError) : Prop :=
  ∃ setting reported fault value, cause = .invalid setting reported fault ∧
    environment.get setting = some value ∧ ¬ setting.WellFormed parse value

/-- A reading establishes a fact about what it gives, or its error blames a variable. -/
structure Establishes (parse : Url.Parser) (environment : Environment)
    (reading : Except SettingsError α) (fact : α → Prop) : Prop where
  accepted : ∀ field, reading = .ok field → fact field
  refused : ∀ cause, reading = .error cause → environment.Blames parse cause

namespace Establishes

/-- Two readings in a row establish what the second one does on the ground of the first. -/
theorem bind {first : Except SettingsError α} {next : α → Except SettingsError β}
    {fact : α → Prop} {goal : β → Prop} (establishes : environment.Establishes parse first fact)
    (continues : ∀ field, fact field → environment.Establishes parse (next field) goal) :
    environment.Establishes parse (first >>= next) goal where
  accepted last whole := by
    obtain ⟨field, read, rest⟩ := bind_eq_ok.mp whole
    exact (continues field (establishes.accepted field read)).accepted last rest
  refused cause whole := by
    rcases bind_eq_error.mp whole with first | ⟨field, read, rest⟩
    · exact establishes.refused cause first
    · exact (continues field (establishes.accepted field read)).refused cause rest

/-- A reading that is over has established what holds of its result. -/
theorem ok {field : α} {fact : α → Prop} (holds : fact field) :
    environment.Establishes parse (.ok field) fact where
  accepted := by
    rintro _ ⟨⟩
    exact holds
  refused := nofun

end Establishes

/-- A value that is set is not blank. -/
theorem blank_of_get {setting : Setting} {value : String}
    (set : environment.get setting = some value) :
    Text.blank value = false := by
  have visible := (Option.filter_eq_some_iff.mp set).2
  simpa using visible

/-- An error that names a set variable whose value means nothing blames it. -/
theorem blames_of_meaningless {setting : Setting} {value : String} {cause : SettingsError}
    (set : environment.get setting = some value)
    (named : ∃ reported fault, cause = .invalid setting reported fault)
    (meaningless : ¬ setting.WellFormed parse value) : environment.Blames parse cause := by
  obtain ⟨reported, fault, rfl⟩ := named
  exact ⟨setting, reported, fault, value, rfl, set, meaningless⟩

/-- Reading a setting whose variable may be set establishes its field, if its reader gives what the
value means and every refusal blames the variable. -/
theorem readOr_establishes {setting : Setting} {standard : α}
    {read : String → Except SettingsError α} (means : String → α → Prop)
    (reads : ∀ value field, environment.get setting = some value → read value = .ok field →
      means value field)
    (refuses : ∀ value cause, environment.get setting = some value → read value = .error cause →
      environment.Blames parse cause) :
    environment.Establishes parse (environment.readOr setting standard read)
      (environment.Gives setting standard means) := by
  unfold Environment.readOr
  split
  · next value set =>
    refine ⟨fun field accepted => ⟨?_, ?_⟩, fun cause => refuses value cause set⟩
    · intro other same
      cases set.symm.trans same
      exact reads value field set accepted
    · intro unset
      cases set.symm.trans unset
  · next unset =>
    refine .ok ⟨?_, fun _ => rfl⟩
    intro value set
    cases unset.symm.trans set

/-- A reader of a setting reads exactly the values that mean something for it, as what they mean,
and reports the others under the name of the setting. -/
structure Reads (parse : Url.Parser) (setting : Setting)
    (read : String → Except SettingsError setting.Field) : Prop where
  meaning : ∀ value field, Text.blank value = false →
    (read value = .ok field ↔ setting.Denotes parse value field)
  fault : ∀ value cause, read value = .error cause →
    ∃ reported fault, cause = .invalid setting reported fault

/-- Such a reader establishes the field of its setting. -/
theorem Reads.establishes {setting : Setting} {read : String → Except SettingsError setting.Field}
    (reads : Reads parse setting read) :
    environment.Establishes parse (environment.readOr setting setting.standard read)
      (environment.Gives setting setting.standard (setting.Denotes parse)) := by
  refine readOr_establishes (setting.Denotes parse) ?_ ?_
  · intro value field set accepted
    exact (reads.meaning value field (blank_of_get set)).mp accepted
  · intro value cause set refused
    refine blames_of_meaningless set (reads.fault value cause refused) ?_
    rintro ⟨field, denotes⟩
    cases refused.symm.trans ((reads.meaning value field (blank_of_get set)).mpr denotes)

/-- The delays are read, and what is read as a table is not empty. -/
theorem backoff_establishes :
    environment.Establishes parse
      (environment.readOr .backoff RetryPolicy.standardDelays backoffTable)
      (environment.Gives .backoff RetryPolicy.standardDelays fun value delays =>
        backoffTable value = .ok delays ∧ delays ≠ []) := by
  refine readOr_establishes _ ?_ ?_
  · intro value delays _ accepted
    refine ⟨accepted, ?_⟩
    rintro rfl
    have empty := List.forall₂_nil_right_iff.mp (backoffTable_eq_ok.mp accepted)
    exact List.splitOn_ne_nil _ _ empty
  · intro value cause set refused
    refine blames_of_meaningless set (backoffTable_eq_error refused) ?_
    rintro ⟨delays, denotes⟩
    cases refused.symm.trans (denotes_backoff_iff.mp denotes).1

/-- The scheduler settings are established by their three variables. -/
theorem scheduler_establishes :
    environment.Establishes parse environment.scheduler fun settings =>
      environment.Gives .grace Setting.grace.standard (Setting.grace.Denotes parse)
          settings.graceSeconds ∧
        environment.Gives .backoff Setting.backoff.standard (Setting.backoff.Denotes parse)
          settings.backoffSeconds ∧
        environment.Gives .maxAttempts Setting.maxAttempts.standard
          (Setting.maxAttempts.Denotes parse) settings.maxAttempts ∧
        ∃ policy, settings.policy = .ok policy := by
  have reads_grace : Reads parse .grace grace :=
    ⟨fun _ _ _ => grace_eq_ok, fun _ _ => grace_eq_error⟩
  have reads_budget : Reads parse .maxAttempts budget :=
    ⟨fun _ _ _ => budget_eq_ok, fun _ _ => budget_eq_error⟩
  refine reads_grace.establishes.bind fun graceSeconds givesGrace => ?_
  refine backoff_establishes.bind fun backoffSeconds givesBackoff => ?_
  refine reads_budget.establishes.bind fun maxAttempts givesBudget => ?_
  dsimp only
  split
  · next policy created =>
    have bounded := (SchedulerSettings.exists_policy_iff.mp ⟨policy, created⟩).2
    refine .ok ⟨givesGrace, ⟨?_, givesBackoff.unset⟩, givesBudget, policy, created⟩
    intro value set
    exact denotes_backoff_iff.mpr ⟨(givesBackoff.set value set).1, bounded⟩
  · next fault refused =>
    refine ⟨nofun, ?_⟩
    rintro cause ⟨⟩
    -- The policy depends on the table alone, so its refusal blames the table.
    have unfit : ¬ (backoffSeconds ≠ [] ∧ ∀ delay ∈ backoffSeconds, delay ≤ longestDelay) := by
      intro fits
      have accepted : ∃ policy,
          SchedulerSettings.policy ⟨graceSeconds, backoffSeconds, maxAttempts⟩ = .ok policy :=
        SchedulerSettings.exists_policy_iff.mpr fits
      obtain ⟨policy, created⟩ := accepted
      cases refused.symm.trans created
    cases set : environment.get .backoff with
    | none =>
      rw [givesBackoff.unset set] at unfit
      exact absurd (by decide) unfit
    | some value =>
      refine blames_of_meaningless set ⟨_, _, rfl⟩ ?_
      rintro ⟨delays, denotes⟩
      obtain ⟨read, bounded⟩ := denotes_backoff_iff.mp denotes
      obtain ⟨accepted, nonempty⟩ := givesBackoff.set value set
      cases accepted.symm.trans read
      exact unfit ⟨nonempty, bounded⟩

/-- The poller settings are established by their five variables. -/
theorem poller_establishes :
    environment.Establishes parse environment.poller fun settings =>
      environment.Gives .interval Setting.interval.standard (Setting.interval.Denotes parse)
          settings.interval ∧
        environment.Gives .maxJobs Setting.maxJobs.standard (Setting.maxJobs.Denotes parse)
          settings.maxJobsPerCycle ∧
        environment.Gives .stopTimeout Setting.stopTimeout.standard
          (Setting.stopTimeout.Denotes parse) settings.stopTimeout ∧
        environment.Gives .jitter Setting.jitter.standard (Setting.jitter.Denotes parse)
          settings.jitter ∧
        environment.Gives .worker Setting.worker.standard (Setting.worker.Denotes parse)
          settings.worker := by
  have reads_interval : Reads parse .interval (positiveMillis .interval) :=
    ⟨fun _ _ _ => positiveMillis_eq_ok, fun _ _ => positiveMillis_eq_error⟩
  have reads_maxJobs : Reads parse .maxJobs (positiveCount .maxJobs) :=
    ⟨fun _ _ _ => positiveCount_eq_ok, fun _ _ => positiveCount_eq_error⟩
  have reads_stopTimeout : Reads parse .stopTimeout (millis .stopTimeout) :=
    ⟨fun _ _ _ => millis_eq_ok, fun _ _ => millis_eq_error⟩
  have reads_jitter : Reads parse .jitter (millis .jitter) :=
    ⟨fun _ _ _ => millis_eq_ok, fun _ _ => millis_eq_error⟩
  have reads_worker : Reads parse .worker worker :=
    ⟨fun _ _ visible => worker_eq_ok visible, fun _ _ => worker_eq_error⟩
  refine reads_interval.establishes.bind fun interval givesInterval => ?_
  refine reads_maxJobs.establishes.bind fun maxJobs givesMaxJobs => ?_
  refine reads_stopTimeout.establishes.bind fun stopTimeout givesStopTimeout => ?_
  refine reads_jitter.establishes.bind fun jitter givesJitter => ?_
  refine reads_worker.establishes.bind fun name givesWorker => ?_
  exact .ok ⟨givesInterval, givesMaxJobs, givesStopTimeout, givesJitter, givesWorker⟩

/-- The settings are established by all variables. -/
theorem settingsBy_establishes (environment : Environment) (parse : Url.Parser) :
    environment.Establishes parse (environment.settingsBy parse) fun settings =>
      (∀ setting, environment.Gives setting setting.standard (setting.Denotes parse)
        (settings.field setting)) ∧ ∃ policy, settings.scheduler.policy = .ok policy := by
  have reads_publisherUrl : Reads parse .publisherUrl (publisherUrl parse) :=
    ⟨fun _ _ _ => publisherUrl_eq_ok, fun _ _ => publisherUrl_eq_error⟩
  have reads_publishTimeout : Reads parse .publishTimeout (millis .publishTimeout) :=
    ⟨fun _ _ _ => millis_eq_ok, fun _ _ => millis_eq_error⟩
  refine scheduler_establishes.bind fun scheduler
    ⟨givesGrace, givesBackoff, givesBudget, policy⟩ => ?_
  refine poller_establishes.bind fun poller
    ⟨givesInterval, givesMaxJobs, givesStopTimeout, givesJitter, givesWorker⟩ => ?_
  refine reads_publisherUrl.establishes.bind fun url givesUrl => ?_
  refine reads_publishTimeout.establishes.bind fun timeout givesTimeout => ?_
  refine .ok ⟨fun setting => ?_, policy⟩
  cases setting with
  | databaseUrl => exact ⟨fun _ set => set, fun unset => unset⟩
  | publisherUrl => exact givesUrl
  | publishTimeout => exact givesTimeout
  | grace => exact givesGrace
  | backoff => exact givesBackoff
  | maxAttempts => exact givesBudget
  | interval => exact givesInterval
  | maxJobs => exact givesMaxJobs
  | stopTimeout => exact givesStopTimeout
  | jitter => exact givesJitter
  | worker => exact givesWorker

end Environment

/-- What a poller and a scheduler need of their settings to run without a fault. -/
structure WorkerSettings.Runnable (settings : WorkerSettings) : Prop where
  /-- The scheduler accepts its part. -/
  schedulable : ∃ scheduler, Scheduler.create settings.scheduler = .ok scheduler
  /-- Between two cycles there is some time. -/
  interval : 0 < settings.poller.interval.nanos
  /-- A cycle executes some job. -/
  maxJobs : 0 < settings.poller.maxJobsPerCycle
  /-- The worker has a name, its own or one that it makes up. -/
  worker : ∀ process number,
    Text.blank (settings.poller.worker.getD (.generated process number)).text = false
  /-- Every sleep, with whatever is added to it at random, is one that a clock can wait. -/
  sleep : settings.poller.jitter.millis ≤ Text.maxWord64 ∧
    ∀ extra ≤ settings.poller.jitter.millis,
      Delay.seconds ⟨settings.poller.interval.nanos + (Delay.ofMillis extra).nanos⟩ ≤ Text.maxWord64

namespace Environment

variable {parse : Url.Parser} {environment : Environment}

/-- What holds of the standard value and of every value that a variable can mean holds of the
field. -/
theorem Gives.holds {α : Type} {setting : Setting} {standard field : α} {means : String → α → Prop}
    (gives : environment.Gives setting standard means field) (property : α → Prop)
    (unset : property standard)
    (set : ∀ value, Text.blank value = false → means value field → property field) :
    property field := by
  cases present : environment.get setting with
  | none =>
    rw [gives.unset present]
    exact unset
  | some value => exact set value (blank_of_get present) (gives.set value present)

/-- A time that is denoted has no more milliseconds than its field holds. -/
theorem nanos_of_denotesMillis {value : String} {delay : Delay}
    (denotes : Setting.DenotesMillis value delay) : delay.nanos ≤ Text.maxWord64 * 1000000 := by
  obtain ⟨millis, _, within, rfl⟩ := denotes
  exact Nat.mul_le_mul_right _ within

/-- A name that a worker makes up is not blank. -/
theorem visible_generated (process number : Nat) :
    Text.blank (WorkerId.generated process number).text = false := by
  have first : Text.isSpace 'w' = false := by decide
  simp [WorkerId.generated, Text.blank, Text.isBlank, first]

/-- Settings whose fields have what their variables mean can be run. -/
theorem runnable_of_gives {settings : WorkerSettings}
    (gives : ∀ setting, environment.Gives setting setting.standard (setting.Denotes parse)
      (settings.field setting))
    (policy : ∃ policy, settings.scheduler.policy = .ok policy) : settings.Runnable where
  schedulable := by
    obtain ⟨policy, created⟩ := policy
    have within : settings.scheduler.graceSeconds ≤ longestDelay :=
      (gives .grace).holds (fun seconds : Nat => seconds ≤ longestDelay) (Nat.zero_le _)
        fun _ _ denotes => denotes.2
    refine ⟨⟨policy, .ofSeconds settings.scheduler.graceSeconds⟩, ?_⟩
    unfold Scheduler.create SchedulerSettings.grace
    rw [created, if_neg (Nat.not_lt.mpr within)]
    rfl
  interval :=
    (gives .interval).holds (fun delay : Delay => 0 < delay.nanos) (by decide)
      fun _ _ denotes => denotes.2
  maxJobs :=
    (gives .maxJobs).holds (fun count : Nat => 0 < count) (Nat.succ_pos 49)
      fun _ _ denotes => denotes.2.1
  worker process number := by
    refine (gives .worker).holds (fun name : Option WorkerId =>
      Text.blank (name.getD (.generated process number)).text = false) ?_ ?_
    · exact visible_generated process number
    · intro value visible denotes
      have own : settings.poller.worker = some ⟨Text.trimmed value⟩ := denotes
      change Text.blank (settings.poller.worker.getD (.generated process number)).text = false
      rw [own]
      exact (Text.blank_trimmed value).trans visible
  sleep := by
    have jitter : settings.poller.jitter.nanos ≤ Text.maxWord64 * 1000000 :=
      (gives .jitter).holds (fun delay : Delay => delay.nanos ≤ Text.maxWord64 * 1000000)
        (by decide) fun _ _ denotes => nanos_of_denotesMillis denotes
    have interval : settings.poller.interval.nanos ≤ Text.maxWord64 * 1000000 :=
      (gives .interval).holds (fun delay : Delay => delay.nanos ≤ Text.maxWord64 * 1000000)
        (by decide) fun _ _ denotes => nanos_of_denotesMillis denotes.1
    have bounded : settings.poller.jitter.millis ≤ Text.maxWord64 :=
      Nat.div_le_of_le_mul (by rwa [Nat.mul_comm])
    refine ⟨bounded, fun extra drawn => ?_⟩
    have within : extra ≤ Text.maxWord64 := Nat.le_trans drawn bounded
    unfold Delay.seconds Delay.ofMillis
    unfold Text.maxWord64 at *
    dsimp only
    omega

/-- An environment is accepted exactly when every variable that is set, up to white space around its
value, means something for its setting; a url means what the parser says, whatever parser it is. If
the environment is refused, the error blames a variable whose own value means nothing. If it is
accepted, every field has what its variable means, or the standard value, and the settings can be
run.

Proof: each reader accepts exactly what means something for its setting, so in a row they establish
all fields or blame a variable. The table of delays is the exception: its bound is checked after the
budget is read, but against the table alone, so a refusal then still blames the table. -/
theorem accepted_iff_wellFormed (parse : Url.Parser) (environment : Environment) :
    ((∃ settings, environment.settingsBy parse = .ok settings) ↔
        ∀ setting value, environment.get setting = some value → setting.WellFormed parse value) ∧
      (∀ cause, environment.settingsBy parse = .error cause →
        ∃ setting reported fault value, cause = .invalid setting reported fault ∧
          environment.get setting = some value ∧ ¬ setting.WellFormed parse value) ∧
      ∀ settings, environment.settingsBy parse = .ok settings →
        (∀ setting, environment.Gives setting setting.standard (setting.Denotes parse)
          (settings.field setting)) ∧ settings.Runnable := by
  have establishes := environment.settingsBy_establishes parse
  refine ⟨⟨?accepted, ?complete⟩, establishes.refused, ?runnable⟩
  case accepted =>
    rintro ⟨settings, accepted⟩ setting value set
    exact ⟨_, ((establishes.accepted settings accepted).1 setting).set value set⟩
  case complete =>
    intro wellFormed
    cases read : environment.settingsBy parse with
    | ok settings => exact ⟨settings, rfl⟩
    | error cause =>
      obtain ⟨setting, _, _, value, _, set, meaningless⟩ := establishes.refused cause read
      exact absurd (wellFormed setting value set) meaningless
  case runnable =>
    intro settings accepted
    obtain ⟨gives, policy⟩ := establishes.accepted settings accepted
    exact ⟨gives, runnable_of_gives gives policy⟩

end Environment

end TimedPublishing
