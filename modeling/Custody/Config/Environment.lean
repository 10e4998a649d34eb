import Custody.Config.Basic
import Custody.Text.Blank
import Custody.Text.Decimal
import Custody.Word

/-!
# Configuration from the environment

Seven environment variables set the seven fields of a configuration. A variable that is unset,
is not Unicode, does not parse or is out of range leaves its field at the default. Only the
range of the capacity depends on another variable: the capacity must be unlimited or hold one
chunk of the size accepted before it.
-/

namespace Custody

/-- The environment variables that matter. -/
inductive Variable
  | logLevel
  | logFormat
  | chunkSize
  | maxSize
  | leakPolicy
  | checkNothingAccess
  | abortOnFatal
  deriving DecidableEq, Inhabited

/-- The name of a variable. -/
def Variable.name : Variable → String
  | logLevel => "TETHER_LOG_LEVEL"
  | logFormat => "TETHER_LOG_FORMAT"
  | chunkSize => "TETHER_ARENA_CHUNK_SIZE"
  | maxSize => "TETHER_ARENA_MAX_SIZE"
  | leakPolicy => "TETHER_LEAK_POLICY"
  | checkNothingAccess => "TETHER_CHECK_NOTHING_ACCESS"
  | abortOnFatal => "TETHER_ABORT_ON_FATAL"

/-- What the environment holds under a name. -/
inductive Setting
  | unset
  /-- Set to bytes that are not UTF-8. -/
  | notUnicode
  | text (value : String)
  deriving DecidableEq, Inhabited

/-- The text of a setting that has one. -/
def Setting.text? : Setting → Option String
  | text value => some value
  | _ => none

/-- An environment: what each variable is set to. -/
structure Environment where
  /-- The setting of a variable. -/
  setting : Variable → Setting

namespace Environment

/-- The environment in which no variable is set. -/
def bare : Environment := ⟨fun _ => .unset⟩

/-- The environment that holds the listed settings; of two under one name the first counts. -/
def ofList (settings : List (String × Setting)) : Environment :=
  ⟨fun v => ((settings.find? fun s => s.1 == v.name).map (·.2)).getD .unset⟩

/-- The text of a variable, if it is set to one. -/
def text? (env : Environment) (v : Variable) : Option String := (env.setting v).text?

/-- The number that a variable writes, blanks around it aside, if it fits a word. -/
def number? (env : Environment) (v : Variable) : Option Nat :=
  (env.text? v).bind fun text =>
    Text.Decimal.readBelow? Word.modulus (Text.trimBlanks text.toList)

/-- The keywords for yes and no. -/
def flagKeywords : List (String × Bool) :=
  [("true", true), ("1", true), ("yes", true), ("on", true), ("false", false), ("0", false),
    ("no", false), ("off", false)]

/-- The answer that a variable gives, if it is a keyword for yes or no. -/
def flag? (env : Environment) (v : Variable) : Option Bool :=
  (env.text? v).bind (Text.keyword? flagKeywords)

end Environment

namespace RuntimeConfig

/-- The chunk size an environment asks for, or the default. -/
def chunkSizeIn (env : Environment) : Nat :=
  ((env.number? .chunkSize).filter fun n => leastChunkSize ≤ n && isPowerOfTwo n).getD
    ({} : ArenaConfig).chunkSize

/-- The capacity an environment asks for beside chunks of a given size, or the default. -/
def maxSizeIn (env : Environment) (chunkSize : Nat) : Nat :=
  ((env.number? .maxSize).filter fun n => n == 0 || chunkSize ≤ n).getD
    ({} : ArenaConfig).maxSize

/-- The configuration an environment asks for. -/
def ofEnvironment (env : Environment) : RuntimeConfig where
  arena :=
    { chunkSize := chunkSizeIn env
      maxSize := maxSizeIn env (chunkSizeIn env)
      leakPolicy :=
        ((env.text? .leakPolicy).bind LeakPolicy.parse?).getD ({} : ArenaConfig).leakPolicy }
  diagnostics :=
    { checkNothingAccess :=
        (env.flag? .checkNothingAccess).getD ({} : DiagnosticsConfig).checkNothingAccess
      abortOnFatal := (env.flag? .abortOnFatal).getD ({} : DiagnosticsConfig).abortOnFatal }
  log :=
    { level := ((env.text? .logLevel).bind Log.Level.parse?).getD ({} : LogConfig).level
      format := ((env.text? .logFormat).bind Log.Format.parse?).getD ({} : LogConfig).format }

end RuntimeConfig

end Custody
