import EnrollmentDiagnosis.Text.Lowercase
import EnrollmentDiagnosis.Text.Numeral
import EnrollmentDiagnosis.Value.Text

set_option autoImplicit false

namespace EnrollmentDiagnosis

/-- The settings of the analysis. -/
structure EngineSettings where
  /-- The bound for one pattern search, in seconds. -/
  regexTimeout : Number.Binary64
  phaseChangeType : String
  defaultThreshold : Int
  maxEvents : Int
  deriving DecidableEq, Inhabited

/-- The settings of the rule catalogue. -/
structure RulesSettings where
  builtinEnabled : Bool
  customPath : Option String
  /-- How long parsed files are kept, in seconds. -/
  cacheLifetime : Int
  deriving DecidableEq, Inhabited

structure LoggingSettings where
  level : String
  format : String
  filePath : Option String
  deriving DecidableEq, Inhabited

structure Settings where
  engine : EngineSettings
  rules : RulesSettings
  logging : LoggingSettings
  deriving DecidableEq, Inhabited

def EngineSettings.default : EngineSettings := ⟨.ofInt 1, "esp_phase_changed", 40, 10000⟩

def RulesSettings.default : RulesSettings := ⟨true, none, 300⟩

def LoggingSettings.default : LoggingSettings :=
  ⟨"INFO", "%(asctime)s - %(name)s - %(levelname)s - %(message)s", none⟩

namespace Settings

/-- A setting from a variable that may be absent. -/
def parsed {α : Type} (environment : List (String × String)) (name : String) (absent : α)
    (parse : String → Except Text.NumeralError α) : Except Text.NumeralError α :=
  match environment.lookup name with
  | some text => parse text
  | none => .ok absent

/-- Reads the settings from an environment; a numeral that cannot be read is an error. -/
def ofEnvironment (environment : List (String × String)) : Except Text.NumeralError Settings := do
  let text (name : String) (absent : String) := (environment.lookup name).getD absent
  let engine := EngineSettings.default
  let rules := RulesSettings.default
  let logging := LoggingSettings.default
  let timeout ← parsed environment "ENGINE_REGEX_TIMEOUT_SECONDS" engine.regexTimeout Text.decimal
  let threshold ←
    parsed environment "ENGINE_DEFAULT_THRESHOLD" engine.defaultThreshold (Text.integer 10)
  let maxEvents ← parsed environment "ENGINE_MAX_EVENTS" engine.maxEvents (Text.integer 10)
  let lifetime ← parsed environment "RULES_CACHE_TTL" rules.cacheLifetime (Text.integer 10)
  return {
    engine := ⟨timeout, text "ENGINE_PHASE_EVENT_TYPE" engine.phaseChangeType, threshold, maxEvents⟩
    rules :=
      ⟨Text.lower (text "RULES_BUILTIN_ENABLED" "true") == "true",
        match environment.lookup "RULES_CUSTOM_PATH" with
          | some "" => none
          | path => path,
        lifetime⟩
    logging :=
      ⟨text "LOG_LEVEL" logging.level, text "LOG_FORMAT" logging.format,
        environment.lookup "LOG_FILE_PATH"⟩ }

/-- The levels of logging. -/
def logLevels : List String := ["CRITICAL", "DEBUG", "ERROR", "INFO", "WARNING"]

/-- The ASCII capital that a character stands for, and other characters themselves. -/
def capital (c : Char) : Char :=
  if c = 'ı' then 'I' else if c = 'ſ' then 'S' else c.toUpper

/-- What is wrong with settings. -/
inductive Fault where
  | timeout
  | phaseChangeType
  | threshold
  | maxEvents
  | cacheLifetime
  | logLevel
  deriving DecidableEq

def Fault.message : Fault → String
  | timeout => "ENGINE_REGEX_TIMEOUT_SECONDS must be positive"
  | phaseChangeType => "ENGINE_PHASE_EVENT_TYPE is required"
  | threshold => "ENGINE_DEFAULT_THRESHOLD must be between 0 and 100"
  | maxEvents => "ENGINE_MAX_EVENTS must be positive"
  | cacheLifetime => "RULES_CACHE_TTL must not be negative"
  | logLevel => "LOG_LEVEL must be one of " ++ (Value.list (logLevels.map .text)).display

/-- True when a fault is present. -/
def hasFault (s : Settings) : Fault → Bool
  | .timeout =>
    match s.engine.regexTimeout.orderInt 0 with
    | some .gt => false
    | some _ => true
    | none => false
  | .phaseChangeType => s.engine.phaseChangeType == ""
  | .threshold => decide (s.engine.defaultThreshold < 0) || decide (100 < s.engine.defaultThreshold)
  | .maxEvents => decide (s.engine.maxEvents ≤ 0)
  | .cacheLifetime => decide (s.rules.cacheLifetime < 0)
  | .logLevel => !logLevels.contains (String.ofList (s.logging.level.toList.map capital))

def Fault.all : List Fault :=
  [.timeout, .phaseChangeType, .threshold, .maxEvents, .cacheLifetime, .logLevel]

/-- The faults of settings. -/
def faults (s : Settings) : List Fault := Fault.all.filter s.hasFault

/-- The message about all faults, none for valid settings. -/
def invalidMessage? (s : Settings) : Option String :=
  if s.faults.isEmpty then none
  else some ("Configuration errors: " ++ Value.joined (s.faults.map Fault.message))

end Settings

end EnrollmentDiagnosis
