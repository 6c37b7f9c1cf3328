import TimedPublishing.Proofs.Settings.Meaning

/-!
# White space in the environment

Two environments may differ in what no reader of settings should look at. One may give a blank value
where the other gives none; or their values may stand in different white space, and so may the
entries of a list. `Environment.BlankAlike` and `Environment.SpacedAlike` say so of whole
environments.

Blank values make no difference at all, as every reader starts from the values that are not blank.
White space around values may be seen in an error, which shows a value as it was given. All else is
the same: `SameOutcome` says that two readings are accepted with the same result, or refused for the
same setting and the same reason. It is kept by readings in a row and by readings of lists, so it is
enough that each reader of one value keeps it.
-/

namespace TimedPublishing

/-- Two readings are accepted alike, or refused for one setting and one reason. -/
inductive SameOutcome {α : Type} : Except SettingsError α → Except SettingsError α → Prop
  | accepted (field : α) : SameOutcome (.ok field) (.ok field)
  | refused (setting : Setting) (first second : String) (fault : ValueFault) :
    SameOutcome (.error (.invalid setting first fault)) (.error (.invalid setting second fault))

namespace SameOutcome

variable {α β : Type}

/-- Readings in a row come to the same if each of them does. -/
theorem bind {first second : Except SettingsError α} {next other : α → Except SettingsError β}
    (same : SameOutcome first second)
    (continues : ∀ field, SameOutcome (next field) (other field)) :
    SameOutcome (first >>= next) (second >>= other) := by
  cases same with
  | accepted field => exact continues field
  | refused setting firstValue secondValue fault =>
    exact .refused setting firstValue secondValue fault

/-- Readings of two lists come to the same if those of their items do, one by one. -/
theorem mapM {read : β → Except SettingsError α} {related : β → β → Prop} {items others : List β}
    (matching : List.Forall₂ related items others)
    (same : ∀ item other, related item other → SameOutcome (read item) (read other)) :
    SameOutcome (items.mapM read) (others.mapM read) := by
  induction matching with
  | nil => exact .accepted []
  | @cons item other _ _ alike _ inductionHypothesis =>
    rw [List.mapM_cons, List.mapM_cons]
    exact (same item other alike).bind fun first => inductionHypothesis.bind fun rest =>
      .accepted (first :: rest)

end SameOutcome

/-- Two values of a setting differ at most in white space around them, and around their entries if
they are lists of delays. The database url is taken as it is. -/
def Setting.SameValue : Setting → String → String → Prop
  | databaseUrl, first, second => first = second
  | backoff, first, second =>
    Text.SameContent first.toList second.toList ∨
      List.Forall₂ Text.SameContent (first.toList.splitOn ',') (second.toList.splitOn ',')
  | _, first, second => Text.SameContent first.toList second.toList

/-- Values with the same content are trimmed to the same string. -/
theorem Text.SameContent.trimmed_eq {first second : String}
    (same : Text.SameContent first.toList second.toList) :
    Text.trimmed first = Text.trimmed second := by
  rw [Text.trimmed, Text.trimmed, Text.sameContent_iff.mp same]

/-- The delays of a table have the same content, one by one. -/
theorem Setting.SameValue.entries {first second : String}
    (same : Setting.backoff.SameValue first second) :
    List.Forall₂ Text.SameContent (first.toList.splitOn ',') (second.toList.splitOn ',') := by
  rcases same with whole | entries
  · exact whole.entries (by decide)
  · exact entries

/-- Values that differ at most in white space are blank together. -/
theorem Setting.SameValue.blank_eq {setting : Setting} {first second : String}
    (same : setting.SameValue first second) : Text.blank first = Text.blank second := by
  cases setting with
  | databaseUrl => exact congrArg Text.blank same
  | backoff => exact Text.isBlank_eq_of_entries (by decide) same.entries
  | publisherUrl | publishTimeout | grace | maxAttempts | interval | maxJobs | stopTimeout | jitter
  | worker => exact Text.SameContent.isBlank_eq same

namespace Environment

variable {α : Type}

/-- A variable without a value, or with one that is white space only. -/
def Unset (value? : Option String) : Prop := ∀ value, value? = some value → Text.blank value = true

/-- Two environments differ at most in that a variable has no value where it has a blank one in the
other. -/
def BlankAlike (first second : Environment) : Prop :=
  ∀ setting : Setting, first.lookup setting.name = second.lookup setting.name ∨
    Unset (first.lookup setting.name) ∧ Unset (second.lookup setting.name)

/-- Two environments set the same variables, to values that differ at most in white space. -/
def SpacedAlike (first second : Environment) : Prop :=
  ∀ setting : Setting,
    Option.Rel setting.SameValue (first.lookup setting.name) (second.lookup setting.name)

/-- A variable that is not set gives no value. -/
theorem get_eq_none_of_unset {environment : Environment} {setting : Setting}
    (unset : Unset (environment.lookup setting.name)) : environment.get setting = none := by
  rw [get, Option.filter_eq_none_iff]
  intro value given
  simp [unset value given]

/-- Environments that differ at most in blank values give the same values. -/
theorem BlankAlike.get_eq {first second : Environment} (alike : first.BlankAlike second)
    (setting : Setting) : first.get setting = second.get setting := by
  rcases alike setting with same | ⟨unsetFirst, unsetSecond⟩
  · rw [get, get, same]
  · rw [get_eq_none_of_unset unsetFirst, get_eq_none_of_unset unsetSecond]

/-- Nothing is read of an environment but the values that it gives. -/
theorem settingsBy_congr (parse : Url.Parser) {first second : Environment}
    (same : ∀ setting, first.get setting = second.get setting) :
    first.settingsBy parse = second.settingsBy parse := by
  simp only [settingsBy, scheduler, poller, readOr, same]

/-- Environments whose values differ at most in white space give such values. -/
theorem SpacedAlike.get {first second : Environment} (alike : first.SpacedAlike second)
    (setting : Setting) :
    Option.Rel setting.SameValue (first.get setting) (second.get setting) := by
  unfold Environment.get
  generalize first.lookup setting.name = firstValue, second.lookup setting.name = secondValue,
    alike setting = own
  cases own with
  | none => exact .none
  | some same =>
    rw [Option.filter_some, Option.filter_some, same.blank_eq]
    split
    · exact .some same
    · exact .none

/-- A reader of a setting that does not look at white space. -/
def Indifferent (setting : Setting) (read : String → Except SettingsError α) : Prop :=
  ∀ first second, setting.SameValue first second → SameOutcome (read first) (read second)

/-- Such a reader comes to the same in environments that differ at most in white space. -/
theorem SpacedAlike.readOr {first second : Environment} (alike : first.SpacedAlike second)
    {setting : Setting} {standard : α} {read : String → Except SettingsError α}
    (indifferent : Indifferent setting read) :
    SameOutcome (first.readOr setting standard read) (second.readOr setting standard read) := by
  have given := alike.get setting
  unfold Environment.readOr
  generalize first.get setting = firstValue, second.get setting = secondValue at given ⊢
  cases given with
  | none => exact .accepted standard
  | some same => exact indifferent _ _ same

section Readers

variable {setting : Setting} {first second : String}

/-- A number is read alike whatever white space is around it. -/
theorem number_sameOutcome (limit : Nat) (same : Text.SameContent first.toList second.toList) :
    SameOutcome (number limit setting first) (number limit setting second) := by
  unfold number
  rw [Text.sameContent_iff.mp same]
  cases Text.readNumber limit (Text.trim second.toList) with
  | ok count => exact .accepted count
  | error fault => exact .refused setting first second (.number fault)

/-- So is a time in milliseconds. -/
theorem millis_sameOutcome (same : Text.SameContent first.toList second.toList) :
    SameOutcome (millis setting first) (millis setting second) :=
  (number_sameOutcome Text.maxWord64 same).bind fun count => .accepted (Delay.ofMillis count)

/-- So is a time that must not be zero. -/
theorem positiveMillis_sameOutcome (same : Text.SameContent first.toList second.toList) :
    SameOutcome (positiveMillis setting first) (positiveMillis setting second) := by
  refine (number_sameOutcome Text.maxWord64 same).bind fun count => ?_
  split
  · exact .refused setting first second .notPositive
  · exact .accepted _

/-- So is a count that must not be zero. -/
theorem positiveCount_sameOutcome (same : Text.SameContent first.toList second.toList) :
    SameOutcome (positiveCount setting first) (positiveCount setting second) := by
  refine (number_sameOutcome Text.maxWord64 same).bind fun count => ?_
  split
  · exact .refused setting first second .notPositive
  · exact .accepted _

/-- So is the grace. -/
theorem grace_sameOutcome (same : Text.SameContent first.toList second.toList) :
    SameOutcome (grace first) (grace second) := by
  refine (number_sameOutcome Text.maxWord64 same).bind fun seconds => ?_
  generalize SchedulerSettings.grace _ = checked
  cases checked with
  | ok _ => exact .accepted seconds
  | error fault => exact .refused .grace first second (.job fault)

/-- So is the budget of attempts. -/
theorem budget_sameOutcome (same : Text.SameContent first.toList second.toList) :
    SameOutcome (budget first) (budget second) := by
  refine (number_sameOutcome Text.maxWord32 same).bind fun count => ?_
  cases Attempts.ofNat? count with
  | some attempts => exact .accepted attempts
  | none => exact .refused .maxAttempts first second (.number .tooLarge)

/-- So is the name of a worker. -/
theorem worker_sameOutcome (same : Text.SameContent first.toList second.toList) :
    SameOutcome (worker first) (worker second) := by
  unfold worker
  rw [same.trimmed_eq]
  cases WorkerId.read (Text.trimmed second) with
  | ok id => exact .accepted (some id)
  | error fault => exact .refused .worker first second (.job fault)

/-- So is the url of the content service. -/
theorem publisherUrl_sameOutcome (parse : Url.Parser)
    (same : Text.SameContent first.toList second.toList) :
    SameOutcome (publisherUrl parse first) (publisherUrl parse second) := by
  unfold publisherUrl
  rw [same.trimmed_eq]
  cases parse (Text.trimmed second) with
  | ok url => exact .accepted (some url)
  | error fault => exact .refused .publisherUrl first second (.url fault)

/-- A table of delays is read alike whatever white space is around its entries. -/
theorem backoffTable_sameOutcome
    (same : List.Forall₂ Text.SameContent (first.toList.splitOn ',') (second.toList.splitOn ',')) :
    SameOutcome (backoffTable first) (backoffTable second) := by
  unfold backoffTable
  rw [Text.pieces_eq_splitOnP, Text.pieces_eq_splitOnP]
  refine SameOutcome.mapM same fun entry other alike => ?_
  refine number_sameOutcome Text.maxWord64 ?_
  rw [String.toList_ofList, String.toList_ofList]
  exact alike

end Readers

/-- The scheduler settings do not depend on white space. The last check looks at the delays and not
at their text, which it only reports. -/
theorem SpacedAlike.scheduler {first second : Environment} (alike : first.SpacedAlike second) :
    SameOutcome first.scheduler second.scheduler := by
  have indifferent_grace : Indifferent .grace grace := fun _ _ => grace_sameOutcome
  have indifferent_backoff : Indifferent .backoff backoffTable :=
    fun _ _ same => backoffTable_sameOutcome same.entries
  have indifferent_budget : Indifferent .maxAttempts budget := fun _ _ => budget_sameOutcome
  refine (alike.readOr indifferent_grace).bind fun graceSeconds => ?_
  refine (alike.readOr indifferent_backoff).bind fun backoffSeconds => ?_
  refine (alike.readOr indifferent_budget).bind fun maxAttempts => ?_
  dsimp only
  generalize SchedulerSettings.policy _ = checked
  cases checked with
  | ok _ => exact .accepted _
  | error fault => exact .refused .backoff _ _ (.job fault)

/-- The poller settings do not depend on white space. -/
theorem SpacedAlike.poller {first second : Environment} (alike : first.SpacedAlike second) :
    SameOutcome first.poller second.poller := by
  have indifferent_interval : Indifferent .interval (positiveMillis .interval) :=
    fun _ _ => positiveMillis_sameOutcome
  have indifferent_maxJobs : Indifferent .maxJobs (positiveCount .maxJobs) :=
    fun _ _ => positiveCount_sameOutcome
  have indifferent_stopTimeout : Indifferent .stopTimeout (millis .stopTimeout) :=
    fun _ _ => millis_sameOutcome
  have indifferent_jitter : Indifferent .jitter (millis .jitter) := fun _ _ => millis_sameOutcome
  have indifferent_worker : Indifferent .worker worker := fun _ _ => worker_sameOutcome
  refine (alike.readOr indifferent_interval).bind fun interval => ?_
  refine (alike.readOr indifferent_maxJobs).bind fun maxJobs => ?_
  refine (alike.readOr indifferent_stopTimeout).bind fun stopTimeout => ?_
  refine (alike.readOr indifferent_jitter).bind fun jitter => ?_
  refine (alike.readOr indifferent_worker).bind fun name => ?_
  exact .accepted _

/-- The database url is the same. -/
theorem SpacedAlike.databaseUrl {first second : Environment} (alike : first.SpacedAlike second) :
    first.get .databaseUrl = second.get .databaseUrl := by
  have given := alike.get .databaseUrl
  generalize first.get .databaseUrl = firstValue, second.get .databaseUrl = secondValue at given
  cases given with
  | none => rfl
  | some same => exact congrArg some same

/-- Blank counts as unset, and the white space around values does not matter, whatever the parser of
urls. Environments that differ only in that one has no value where the other has a blank one come to
the same settings or the same error. Environments that differ only in the white space around the
values of variables other than the database url, and around the entries of the list of delays, come
to the same settings, or both are refused for the same setting and the same reason. Settings without
a name of a worker stand for all that generate one.

Proof: blank values are gone before anything is read. White space around a value is gone before the
value is read, so each reader comes to the same, and with them the readings in a row. -/
theorem settings_indifferent_to_space (parse : Url.Parser) (first second : Environment) :
    (first.BlankAlike second → first.settingsBy parse = second.settingsBy parse) ∧
      (first.SpacedAlike second →
        SameOutcome (first.settingsBy parse) (second.settingsBy parse)) := by
  constructor
  · intro alike
    exact settingsBy_congr parse alike.get_eq
  · intro alike
    have indifferent_url : Indifferent .publisherUrl (publisherUrl parse) :=
      fun _ _ => publisherUrl_sameOutcome parse
    have indifferent_timeout : Indifferent .publishTimeout (millis .publishTimeout) :=
      fun _ _ => millis_sameOutcome
    refine alike.scheduler.bind fun scheduler => ?_
    refine alike.poller.bind fun poller => ?_
    refine (alike.readOr indifferent_url).bind fun url => ?_
    refine (alike.readOr indifferent_timeout).bind fun timeout => ?_
    rw [alike.databaseUrl]
    exact .accepted _

/-- A blank grace counts as none. A table with a bad entry is refused for the same reason in other
white space, though the entry is shown with the white space around it. -/
theorem settings_indifferent_to_space_in_refused_table :
    let plain : Environment := .ofPairs [("PUBSCHED_BACKOFF_SECONDS", "5,x,60")]
    let blank : Environment :=
      .ofPairs [("PUBSCHED_GRACE_SECONDS", " \t"), ("PUBSCHED_BACKOFF_SECONDS", "5,x,60")]
    let spaced : Environment := .ofPairs [("PUBSCHED_BACKOFF_SECONDS", " 5, x\n,60")]
    (plain.BlankAlike blank ∧ plain.settings = blank.settings) ∧
      (plain.SpacedAlike spaced ∧ SameOutcome plain.settings spaced.settings) ∧
      plain.settings = .error (.invalid .backoff "x" (.number .invalidDigit)) ∧
      spaced.settings = .error (.invalid .backoff " x\n" (.number .invalidDigit)) := by
  intro plain blank spaced
  have blankAlike : plain.BlankAlike blank := by
    intro setting
    cases setting with
    | grace =>
      refine Or.inr ⟨nofun, ?_⟩
      rintro value ⟨⟩
      decide
    | databaseUrl | publisherUrl | publishTimeout | backoff | maxAttempts | interval | maxJobs
    | stopTimeout | jitter | worker => exact Or.inl rfl
  have spacedAlike : plain.SpacedAlike spaced := by
    intro setting
    cases setting with
    | backoff =>
      exact .some (Or.inr (Text.forall₂_sameContent_iff.mpr (by decide)))
    | databaseUrl | publisherUrl | publishTimeout | grace | maxAttempts | interval | maxJobs
    | stopTimeout | jitter | worker => exact .none
  exact ⟨⟨blankAlike, (settings_indifferent_to_space Url.parse plain blank).1 blankAlike⟩,
    ⟨spacedAlike, (settings_indifferent_to_space Url.parse plain spaced).2 spacedAlike⟩, by decide,
    by decide⟩

end Environment

end TimedPublishing
