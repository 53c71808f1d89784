import GenKill.Flag
import GenKill.Path
import GenKill.Settings.Json
import GenKill.Settings.Toml
import GenKill.Settings.Yaml

/-!
# Settings

A setting is taken from the flag if it was given, else from the environment,
else from the configuration file, else it has its default.
-/

namespace GenKill

namespace Settings

/-! ### The settings there are -/

def configFlag : Flag where
  name := "config"
  usage := "configuration file (yaml, json or toml)"

def logLevelFlag : Flag where
  name := "log.level"
  kind := .byte
  fallback := .integer 1
  usage := "log level (0 = debug, 1 = info, 2 = warn, 3 = error)"

def logFileFlag : Flag where
  name := "log.file"
  fallback := .text "stderr"
  usage := "semicolon-separated log outputs; stdout, stderr or file paths"

def directionFlag : Flag where
  name := "direction"
  letter := some (Text.byte 'd')
  usage :=
    "direction of the analysis (forward or backward); overrides the problem"

def maxPassesFlag : Flag where
  name := "max-passes"
  kind := .integer
  fallback := .integer 0
  usage := "maximum number of passes before giving up (0 = unbounded)"

def jsonFlag : Flag where
  name := "json"
  kind := .switch
  fallback := .truth false
  usage := "print solutions as JSON snapshots"

/-- The flags of every command. -/
def flags : List Flag :=
  [configFlag, logLevelFlag, logFileFlag, directionFlag, maxPassesFlag,
   jsonFlag]

/-! ### Where they come from -/

/-- Variables of the environment. -/
abbrev Environment := List (Text × Text)

structure Sources where
  given : List (Text × Value) := []
  environment : Environment := []
  file : Value := .record []

/-- The name of a variable: points and dashes become underscores. -/
def variableName (setting : Text) : Text :=
  "DATAFLOW_" ++ setting.map fun byte =>
    if 97 ≤ byte ∧ byte ≤ 122 then byte - 32
    else if byte = 45 ∨ byte = 46 then 95
    else byte

/-- The variables that settings can come from, or be hidden by. -/
def variableNames (flags : List Flag) : List Text :=
  let groups := flags.filterMap fun flag =>
    match flag.name.splitOn (Text.byte '.') with
    | [group, _] => some group
    | _ => none
  (groups ++ flags.map Flag.name).eraseDups.map variableName

/-- A variable that is set, and not to nothing. -/
def Environment.find? (environment : Environment) (setting : Text) :
    Option Text :=
  match environment.lookup (variableName setting) with
  | some [] => none
  | found => found

/-- A variable for the group of a setting hides the setting. -/
def Environment.hides (environment : Environment) (setting : Text) : Bool :=
  match setting.splitOn (Text.byte '.') with
  | [group, _] => (environment.find? group).isSome
  | _ => false

namespace Sources

/-- The value of a setting. -/
def value (sources : Sources) (flag : Flag) : Value :=
  match sources.given.lookup flag.name with
  | some value => value
  | none =>
      match sources.environment.find? flag.name with
      | some text => .text text
      | none =>
          if sources.environment.hides flag.name then .null
          else match sources.file.find? flag.name with
            | some value => value
            | none =>
                if sources.file.hides flag.name then .null else flag.fallback

end Sources

/-! ### The configuration file -/

/-- The extension of a path, without its point. -/
def format (path : Text) : Text := (Path.extension path).drop 1

/-- The reader for an extension. -/
def reader? (extension : Text) : Option (Text → Option Value) :=
  if extension = "yaml" ∨ extension = "yml" then some Yaml.read
  else if extension = "json" then some Json.read
  else if extension = "toml" then some Toml.read
  else none

/-- The contents of a configuration file, by what reading it gave.  Its format
is checked first. -/
def readFile (path : Text) (contents : Except Error Text) :
    Except Error Value :=
  inContext ("failed to read config file " ++ path.quote) <|
    match reader? (format path) with
    | none => .error (.settingsFormat (format path))
    | some reader =>
        match contents with
        | .error error => .error error
        | .ok source =>
            match reader source with
            | none => .error .settingsSyntax
            | some value => .ok value.lowered

end Settings

structure Settings where
  config : Text
  logLevel : Nat
  logFile : Text
  direction : Text
  maxPasses : Int
  json : Bool

/-- The settings by all their sources. -/
def Settings.Sources.settings (sources : Settings.Sources) : Settings where
  config := (sources.value Settings.configFlag).toText
  logLevel := (sources.value Settings.logLevelFlag).toNat
  logFile := (sources.value Settings.logFileFlag).toText
  direction := (sources.value Settings.directionFlag).toText
  maxPasses := (sources.value Settings.maxPassesFlag).toInt
  json := (sources.value Settings.jsonFlag).toBool

/-- Reads the configuration file that the flags or the environment name, if they
name one. -/
def Settings.load {m : Type → Type} [Monad m]
    (read : Text → m (Except Error Text)) (given : List (Text × Value))
    (environment : Environment) : m (Except Error Settings) := do
  let sources : Sources := { given, environment }
  let path := sources.settings.config
  if path = [] then return .ok sources.settings
  else
    match readFile path (← read path) with
    | .error error => return .error error
    | .ok file => return .ok { sources with file }.settings

end GenKill
