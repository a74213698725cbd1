import Mathlib.Data.List.Forall2
import ErrorPages.Launch

/-! Which settings are accepted. Each setting that can be wrong is checked by itself, so one round of checks
finds all that is wrong and nothing else, and to set right what was found is enough. A program that has
started with accepted settings can therefore rely on them: it never finds that the address for its metrics
cannot be read. -/

namespace ErrorPages

namespace Text

/-- The text is the name, but that some of its letters may be capitals. -/
def SpellsName (text name : String) : Prop :=
  List.Forall₂ (fun c d => c = d ∨ c = d.toUpper) text.toList name.toList

theorem toNat_toLower (c : Char) :
    c.toLower.toNat = if 65 ≤ c.toNat ∧ c.toNat ≤ 90 then c.toNat + 32 else c.toNat := by
  have hval : c.val.toNat = c.toNat := rfl
  unfold Char.toLower
  simp only [ge_iff_le, UInt32.le_iff_toNat_le, Char.reduceVal, UInt32.reduceToNat, hval]
  split
  · change (c.val + _).toNat = _
    rw [UInt32.toNat_add, hval]
    simp only [UInt32.reduceSub, UInt32.reduceToNat]
    omega
  · rfl

theorem toNat_toUpper (c : Char) :
    c.toUpper.toNat = if 97 ≤ c.toNat ∧ c.toNat ≤ 122 then c.toNat - 32 else c.toNat := by
  have hval : c.val.toNat = c.toNat := rfl
  unfold Char.toUpper
  simp only [UInt32.le_iff_toNat_le, Char.reduceVal, UInt32.reduceToNat, hval]
  split
  · change (c.val + _).toNat = _
    rw [UInt32.toNat_add, hval]
    simp only [UInt32.reduceSub, UInt32.reduceToNat]
    omega
  · rfl

/-- A letter of ASCII that is no capital. -/
def IsLetter (c : Char) : Prop := 97 ≤ c.toNat ∧ c.toNat ≤ 122

/-- In lower case only the letter itself and its capital are this letter. -/
theorem toLower_eq_iff {c d : Char} (h : IsLetter d) : c.toLower = d ↔ c = d ∨ c = d.toUpper := by
  unfold IsLetter at h
  rw [← Char.toNat_inj, ← Char.toNat_inj, ← Char.toNat_inj, toNat_toLower, toNat_toUpper, if_pos h]
  split <;> omega

theorem map_toLower_eq_iff {text name : String} (h : ∀ d ∈ name.toList, IsLetter d) :
    text.map Char.toLower = name ↔ SpellsName text name := by
  rw [← String.toList_inj, String.toList_map, SpellsName]
  generalize text.toList = cs
  revert h
  induction name.toList generalizing cs with
  | nil => simp
  | cons d ds ih =>
    intro h
    obtain ⟨hd, hds⟩ := List.forall_mem_cons.1 h
    cases cs with
    | nil => simp
    | cons c cs =>
      rw [List.map_cons, List.cons.injEq, List.forall₂_cons, toLower_eq_iff hd, ih cs hds]

end Text

namespace Config

/-- The settings that can be wrong, in the order in which they are checked. -/
inductive Setting where
  | bindAddress
  | requestSecs
  | extension
  | logLevel
  | metricsAddress
deriving DecidableEq

namespace Setting

def all : List Setting := [.bindAddress, .requestSecs, .extension, .logLevel, .metricsAddress]

/-- What a setting can be set to. -/
abbrev Value : Setting → Type
  | .requestSecs => Nat
  | _ => String

def Acceptable : (s : Setting) → s.Value → Prop
  | .bindAddress, text | .metricsAddress, text =>
    ∃ address, SocketAddress.ofText? text = some address
  | .requestSecs, secs => 0 < secs
  | .extension, text => ∃ c ∈ text.toList, Text.isBlank c = false
  | .logLevel, text => ∃ name ∈ ["trace", "debug", "info", "warn", "error"], Text.SpellsName text name

/-- The problem with a value that is not acceptable. A text is named as it is given. -/
def problem : (s : Setting) → s.Value → Problem
  | .bindAddress, text => .bindAddress text
  | .requestSecs, _ => .zeroTimeout
  | .extension, _ => .blankExtension
  | .logLevel, text => .logLevel text
  | .metricsAddress, text => .metricsAddress text

end Setting

def value (config : Config) : (s : Setting) → s.Value
  | .bindAddress => config.listener.bindAddress
  | .requestSecs => config.timeouts.requestSecs
  | .extension => config.templates.extension
  | .logLevel => config.observability.logLevel
  | .metricsAddress => config.observability.metricsAddress

/-- The address for the metrics is not used unless there are to be metrics. -/
def uses (config : Config) : Setting → Bool
  | .metricsAddress => config.observability.metricsEnabled
  | _ => true

/-- The setting is acceptable, or not used. -/
def Accepts (config : Config) (s : Setting) : Prop :=
  config.uses s = true → s.Acceptable (config.value s)

/-- Sets some settings anew, and leaves all else as it is. -/
def replace (config : Config) (settings : List Setting) (values : (s : Setting) → s.Value) : Config :=
  let value (s : Setting) : s.Value := if s ∈ settings then values s else config.value s
  { listener := { bindAddress := value .bindAddress }
    timeouts := { requestSecs := value .requestSecs }
    templates := { config.templates with extension := value .extension }
    observability := { config.observability with
      logLevel := value .logLevel
      metricsAddress := value .metricsAddress } }

/-- The check of a setting. -/
def check (config : Config) : Setting → Bool
  | .bindAddress => isSocketAddress config.listener.bindAddress
  | .requestSecs => config.timeouts.requestSecs != 0
  | .extension => isExtension config.templates.extension
  | .logLevel => isLogLevel config.observability.logLevel
  | .metricsAddress =>
    !config.observability.metricsEnabled || isSocketAddress config.observability.metricsAddress

theorem isSocketAddress_iff {text : String} :
    isSocketAddress text = true ↔ ∃ address, SocketAddress.ofText? text = some address :=
  Option.isSome_iff_exists

theorem isExtension_iff {text : String} :
    isExtension text = true ↔ ∃ c ∈ text.toList, Text.isBlank c = false := by
  have hblank : isExtension text = false ↔ ∀ c ∈ text.toList, Text.isBlank c = true := by
    rw [← Text.trim_eq_nil_iff]
    simp [isExtension]
  rw [← not_iff_not, Bool.not_eq_true, hblank]
  simp

theorem isLogLevel_iff {text : String} :
    isLogLevel text = true ↔ ∃ name ∈ logLevels, Text.SpellsName text name := by
  have hlower : ∀ name ∈ logLevels, ∀ d ∈ name.toList, Text.IsLetter d := by
    simp [logLevels, Text.IsLetter]
  rw [isLogLevel, List.contains_iff_mem]
  constructor
  · intro h
    exact ⟨_, h, (Text.map_toLower_eq_iff (hlower _ h)).1 rfl⟩
  · rintro ⟨name, hname, hspells⟩
    rwa [(Text.map_toLower_eq_iff (hlower name hname)).2 hspells]

theorem check_iff {config : Config} {s : Setting} : config.check s = true ↔ config.Accepts s := by
  cases s with
  | bindAddress => simp [check, Accepts, uses, value, Setting.Acceptable, isSocketAddress_iff]
  | requestSecs => simp [check, Accepts, uses, value, Setting.Acceptable, Nat.pos_iff_ne_zero]
  | extension => simp [check, Accepts, uses, value, Setting.Acceptable, isExtension_iff]
  | logLevel => simp [check, Accepts, uses, value, Setting.Acceptable, isLogLevel_iff, logLevels]
  | metricsAddress =>
    cases h : config.observability.metricsEnabled <;>
      simp [check, Accepts, uses, value, Setting.Acceptable, isSocketAddress_iff, h]

/-- The settings that are not accepted, in their order. -/
def wrong (config : Config) : List Setting := Setting.all.filter fun s => !config.check s

theorem mem_wrong_iff {config : Config} {s : Setting} : s ∈ config.wrong ↔ ¬ config.Accepts s := by
  have hall : s ∈ Setting.all := by cases s <;> decide
  rw [wrong, List.mem_filter, and_iff_right hall, ← check_iff]
  simp

theorem problems_eq (config : Config) :
    config.problems = config.wrong.map fun s => s.problem (config.value s) := by
  -- a check adds its problem or nothing, so to check all is to keep those that fail
  have hproblem (settings : List Setting) :
      (settings.filter fun s => !config.check s).map (fun s => s.problem (config.value s)) =
        settings.flatMap fun s => problem? (config.check s) (s.problem (config.value s)) := by
    induction settings with
    | nil => rfl
    | cons s rest ih => cases h : config.check s <;> simp [problem?, h, ih]
  rw [wrong, hproblem]
  simp [problems, Setting.all, check, value, Setting.problem]

theorem problems_eq_nil_iff {config : Config} : config.problems = [] ↔ ∀ s, config.Accepts s := by
  rw [problems_eq, List.map_eq_nil_iff, List.eq_nil_iff_forall_not_mem]
  simp only [mem_wrong_iff, Classical.not_not]

theorem value_replace (config : Config) (settings : List Setting) (values : (s : Setting) → s.Value)
    (s : Setting) : (config.replace settings values).value s =
      if s ∈ settings then values s else config.value s := by
  cases s <;> rfl

theorem uses_replace (config : Config) (settings : List Setting) (values : (s : Setting) → s.Value)
    (s : Setting) : (config.replace settings values).uses s = config.uses s := by
  cases s <;> rfl

/-- To set right what is wrong is enough. -/
theorem problems_replace_wrong {config : Config} {values : (s : Setting) → s.Value}
    (h : ∀ s ∈ config.wrong, s.Acceptable (values s)) :
    (config.replace config.wrong values).problems = [] := by
  rw [problems_eq_nil_iff]
  intro s huses
  rw [uses_replace] at huses
  rw [value_replace]
  split
  · next hwrong => exact h s hwrong
  · next hright => exact Classical.not_not.1 (mt mem_wrong_iff.2 hright) huses

theorem problems_default : ({} : Config).problems = [] := by
  decide +kernel

theorem problems_of_loadGiven {files : Files} {path : Option String} {config : Config}
    (h : loadGiven files path = .ok config) : config.problems = [] := by
  cases path with
  | none =>
    obtain rfl := Except.ok.inj h
    exact problems_default
  | some path =>
    simp only [loadGiven, load] at h
    split at h
    · exact nomatch h
    · exact problems_of_ofText h

end Config

namespace Launch

/-- A command line changes nothing but the address of the listener. -/
theorem observability_of_configOf {files : Files} {line : CommandLine} {config : Config}
    (h : configOf files line = .ok config) : ∃ loaded,
      Config.loadGiven files (line.value? "config") = .ok loaded ∧
        config.observability = loaded.observability := by
  simp only [configOf] at h
  cases hloaded : Config.loadGiven files (line.value? "config") with
  | error e => rw [hloaded] at h; exact nomatch h
  | ok loaded =>
    rw [hloaded] at h
    obtain rfl := Except.ok.inj h
    refine ⟨loaded, rfl, ?_⟩
    cases line.value? "bind" <;> rfl

theorem metricsAddress_of_configOf {files : Files} {line : CommandLine} {config : Config}
    (h : configOf files line = .ok config) (henabled : config.observability.metricsEnabled = true) :
    ∃ address, SocketAddress.ofText? config.observability.metricsAddress = some address := by
  obtain ⟨loaded, hloaded, hsame⟩ := observability_of_configOf h
  rw [hsame] at henabled ⊢
  exact Config.problems_eq_nil_iff.1 (Config.problems_of_loadGiven hloaded) .metricsAddress henabled

theorem message_of_openMetrics {network after : Network} {config : Config} {opened : List Event}
    (h : openMetrics network config = .ok (opened, after)) (haccepts : config.Accepts .metricsAddress)
    {event : Event} (hevent : event ∈ opened) : event.message = "Metrics endpoint listening" := by
  simp only [openMetrics] at h
  split at h
  · next henabled =>
    obtain ⟨address, haddress⟩ := haccepts henabled
    simp only [Config.value] at haddress
    rw [haddress] at h
    simp only at h
    split at h
    · exact nomatch h
    · obtain ⟨rfl, -⟩ := Prod.mk.inj (Except.ok.inj h)
      obtain rfl := List.mem_singleton.1 hevent
      rfl
  · obtain ⟨rfl, -⟩ := Prod.mk.inj (Except.ok.inj h)
    exact nomatch hevent

theorem message_of_ofConfig {files : Files} {config : Config} {sink : Sink} {responder : Responder}
    {event : Event} (h : Responder.ofConfig files config sink = .ok (responder, event)) :
    event.message = "No template directory configured, using static error pages" ∨
      event.message = "Loaded error page templates" := by
  simp only [Responder.ofConfig] at h
  split at h
  · obtain ⟨-, rfl⟩ := Prod.mk.inj (Except.ok.inj h)
    exact .inl rfl
  · split at h
    · exact nomatch h
    · obtain ⟨-, rfl⟩ := Prod.mk.inj (Except.ok.inj h)
      exact .inr rfl

theorem mem_events_start {files : Files} {network : Network} {config : Config} {filter : LogFilter}
    {event : Event} (h : event ∈ (start files network config filter).events) :
    event = startingEvent ∨ event = configuredEvent config ∨
      (∃ opened after, openMetrics network config = .ok (opened, after) ∧ event ∈ opened) ∨
      ∃ responder, Responder.ofConfig files config (.forward .shared) = .ok (responder, event) := by
  simp only [start] at h
  cases hmetrics : openMetrics network config with
  | error fault =>
    simp only [hmetrics, List.mem_cons, List.not_mem_nil, or_false] at h
    tauto
  | ok result =>
    obtain ⟨opened, after⟩ := result
    cases hresponder : Responder.ofConfig files config (.forward .shared) with
    | error e =>
      simp only [hmetrics, hresponder, List.mem_append, List.mem_cons, List.not_mem_nil,
        or_false] at h
      grind
    | ok result =>
      obtain ⟨responder, last⟩ := result
      have hmem : event ∈ [startingEvent, configuredEvent config] ++ opened ++ [last] := by
        simp only [hmetrics, hresponder] at h
        split at h <;> exact h
      grind

/-- A program that starts never finds the address for its metrics unreadable. -/
theorem message_ne_of_mem_events_run {files : Files} {network : Network} {args : List String}
    {given : Option String} {event : Event} (h : event ∈ (run files network args given).events) :
    event.message ≠ "Failed to parse metrics address" := by
  simp only [run] at h
  split at h
  · exact nomatch h
  · exact nomatch h
  · split at h
    · exact nomatch h
    · next line _ config hconfig =>
      split at h
      · exact nomatch h
      · obtain rfl | rfl | ⟨opened, after, hmetrics, hevent⟩ | ⟨responder, hresponder⟩ :=
          mem_events_start h
        · simp [startingEvent, Launch.event]
        · simp [configuredEvent, Launch.event]
        · rw [message_of_openMetrics hmetrics (metricsAddress_of_configOf hconfig) hevent]
          simp
        · obtain hmessage | hmessage := message_of_ofConfig hresponder <;> rw [hmessage] <;> simp

end Launch

namespace Config

/-- One round of checks finds what is wrong, all of it, once and in order. To set right what it found is
enough, and so the address for the metrics can be read when a program uses it. -/
theorem problems_in_one_round :
    (∀ config : Config, (config.problems = [] ↔ ∀ s, config.Accepts s) ∧
      ∃ wrong : List Setting, wrong.Sublist Setting.all ∧ (∀ s, s ∈ wrong ↔ ¬ config.Accepts s) ∧
        config.problems = wrong.map (fun s => s.problem (config.value s)) ∧
        ∀ values : (s : Setting) → s.Value, (∀ s ∈ wrong, s.Acceptable (values s)) →
          (config.replace wrong values).problems = []) ∧
    (∀ (files : Files) (line : CommandLine) (config : Config),
      Launch.configOf files line = .ok config → config.observability.metricsEnabled = true →
        ∃ address, SocketAddress.ofText? config.observability.metricsAddress = some address) ∧
    ∀ (files : Files) (network : Network) (args : List String) (given : Option String),
      ∀ event ∈ (Launch.run files network args given).events,
        event.message ≠ "Failed to parse metrics address" := by
  refine ⟨fun config => ⟨problems_eq_nil_iff, config.wrong, ?_, fun s => mem_wrong_iff,
    problems_eq config, fun values => problems_replace_wrong⟩, ?_, ?_⟩
  · exact List.filter_sublist
  · exact fun files line config => Launch.metricsAddress_of_configOf
  · exact fun files network args given event => Launch.message_ne_of_mem_events_run

/-- The bind address, the timeout, the extension and the log level are wrong. -/
def fourWrong : Config where
  listener := { bindAddress := "localhost" }
  timeouts := { requestSecs := 0 }
  templates := { extension := " " }
  observability := { logLevel := "loud" }

/-- Files that all ask for metrics. -/
def metricsFiles : Files := fun _ => .ok (.file "observability.metrics_enabled = true".toUTF8)

/-- Four wrong settings are named at once, and defaults in their places are enough; and metrics that a file
asks for have an address that can be read. -/
theorem problems_in_one_round_four :
    (∃ wrong : List Setting, fourWrong.problems = wrong.map (fun s => s.problem (fourWrong.value s)) ∧
      (fourWrong.replace wrong ({} : Config).value).problems = []) ∧
    ∃ config, Launch.configOf metricsFiles ⟨[("config", "settings"), ("bind", "nowhere")], none⟩ = .ok config ∧
      ∃ address, SocketAddress.ofText? config.observability.metricsAddress = some address := by
  obtain ⟨hchecks, hread, -⟩ := problems_in_one_round
  constructor
  · obtain ⟨-, wrong, -, -, hproblems, hreplace⟩ := hchecks fourWrong
    refine ⟨wrong, hproblems, hreplace ({} : Config).value fun s _ => ?_⟩
    cases s with
    | bindAddress => exact isSocketAddress_iff.1 (by decide +kernel)
    | requestSecs => exact Nat.succ_pos 29
    | extension => exact isExtension_iff.1 (by decide +kernel)
    | logLevel => exact isLogLevel_iff.1 (by decide +kernel)
    | metricsAddress => exact isSocketAddress_iff.1 (by decide +kernel)
  · have hgiven : (Launch.configOf metricsFiles ⟨[("config", "settings"), ("bind", "nowhere")], none⟩).toOption =
        some { listener := ⟨"nowhere"⟩, observability := { metricsEnabled := true } } := by
      decide +kernel
    cases hconfig :
        Launch.configOf metricsFiles ⟨[("config", "settings"), ("bind", "nowhere")], none⟩ with
    | error e =>
      rw [hconfig] at hgiven
      exact nomatch hgiven
    | ok config =>
      rw [hconfig] at hgiven
      obtain rfl := Option.some.inj hgiven
      exact ⟨_, rfl, hread _ _ _ hconfig rfl⟩

end Config

end ErrorPages
