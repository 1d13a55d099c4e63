import DemandFlow.Sample.Settings
import DemandFlow.Script.Source

/-!
Contract: the stored form of the settings.

Owns: the script of the settings, reading it, and what is refused.

Does not own: scripts as such (`Script.Source`).

A script gives the settings it wants to differ from the defaults, in any order. A field with an
unknown name is ignored; a field given twice is refused. That the version is one that can be read
is checked last.
-/

namespace DemandFlow.Sample

open Script

/-- Why a text is not read. -/
inductive StoredError where
  /-- The text is no script of settings. -/
  | malformed
  /-- The version is newer than the newest one known. -/
  | unsupportedVersion (found : FixedInt .u32)
deriving DecidableEq, Repr

/-- The newest version that is read, which is the one that is written. -/
def currentVersion : Nat := 1

def StoredError.message : StoredError → String
  | .malformed => "Invalid configuration"
  | .unsupportedVersion found =>
      "Configuration version " ++ toString found.value ++ " is newer than supported version " ++
        toString currentVersion

/-- The setting of a name, or the fallback if it is not given. -/
def setting {Content : Type} (fields : List (String × Term)) (name : String) (fallback : Content)
    (read : Term → Option Content) : Option Content :=
  match fields.filter fun field => field.1 == name with
  | [] => some fallback
  | [(_, term)] => read term
  | _ => none

/-- The fields of a record that has the given name, or none if that is allowed. -/
def fieldsOf (namesRequired : Bool) (name : String) : Term → Option (List (String × Term))
  | .record (some found) fields => if found = name then some fields else none
  | .record none fields => if namesRequired then none else some fields
  | _ => none

def readBool : Term → Option Bool
  | .word "true" => some true
  | .word "false" => some false
  | _ => none

def readText : Term → Option String
  | .text value => some value
  | _ => none

def readInteger (kind : IntegerKind) : Term → Option (FixedInt kind)
  | .word spelling => integerOf? kind spelling.toList
  | _ => none

def readFloat (kind : FloatKind) : Term → Option (Binary kind.format)
  | .word spelling => floatOf? kind spelling.toList
  | _ => none

def boolTerm (value : Bool) : Term := .word (toString value)

def integerTerm {kind : IntegerKind} (value : FixedInt kind) : Term := .word (toString value.value)

def floatTerm {format : Format} (value : Binary format) : Term := .word (floatWord value)

namespace AddSettings

def toTerm (settings : AddSettings) : Term :=
  .record (some "AddScenario") [("x", integerTerm settings.x), ("y", integerTerm settings.y)]

def ofTerm? (namesRequired : Bool) (term : Term) : Option AddSettings := do
  let fields ← fieldsOf namesRequired "AddScenario" term
  let fallback : AddSettings := {}
  return {
    x := ← setting fields "x" fallback.x (readInteger .i32)
    y := ← setting fields "y" fallback.y (readInteger .i32) }

end AddSettings

namespace SelectorSettings

def toTerm (settings : SelectorSettings) : Term :=
  .record (some "SelectorScenario")
    [("control", boolTerm settings.control), ("x", floatTerm settings.x),
      ("y", floatTerm settings.y)]

def ofTerm? (namesRequired : Bool) (term : Term) : Option SelectorSettings := do
  let fields ← fieldsOf namesRequired "SelectorScenario" term
  let fallback : SelectorSettings := {}
  return {
    control := ← setting fields "control" fallback.control readBool
    x := ← setting fields "x" fallback.x (readFloat .double)
    y := ← setting fields "y" fallback.y (readFloat .double) }

end SelectorSettings

namespace CastChainSettings

def toTerm (settings : CastChainSettings) : Term :=
  .record (some "CastChainScenario")
    [("input", floatTerm settings.input), ("offset", integerTerm settings.offset),
      ("divisor", floatTerm settings.divisor)]

def ofTerm? (namesRequired : Bool) (term : Term) : Option CastChainSettings := do
  let fields ← fieldsOf namesRequired "CastChainScenario" term
  let fallback : CastChainSettings := {}
  return {
    input := ← setting fields "input" fallback.input (readFloat .single)
    offset := ← setting fields "offset" fallback.offset (readInteger .i32)
    divisor := ← setting fields "divisor" fallback.divisor (readFloat .single) }

end CastChainSettings

namespace DiamondSettings

def toTerm (settings : DiamondSettings) : Term :=
  .record (some "DiamondScenario") [("shared", integerTerm settings.shared)]

def ofTerm? (namesRequired : Bool) (term : Term) : Option DiamondSettings := do
  let fields ← fieldsOf namesRequired "DiamondScenario" term
  let fallback : DiamondSettings := {}
  return { shared := ← setting fields "shared" fallback.shared (readInteger .i64) }

end DiamondSettings

namespace Settings

/-- The settings where none are stored. -/
def standard : Settings := {}

def toTerm (settings : Settings) : Term :=
  .record (some "DemoConfig")
    [("version", integerTerm settings.version), ("log_filter", .text settings.logFilter),
      ("memoize", boolTerm settings.memoize), ("add", settings.add.toTerm),
      ("selector", settings.selector.toTerm), ("cast_chain", settings.castChain.toTerm),
      ("diamond", settings.diamond.toTerm)]

def ofTerm? (namesRequired : Bool) (term : Term) : Option Settings := do
  let fields ← fieldsOf namesRequired "DemoConfig" term
  let fallback := standard
  return {
    version := ← setting fields "version" fallback.version (readInteger .u32)
    logFilter := ← setting fields "log_filter" fallback.logFilter readText
    memoize := ← setting fields "memoize" fallback.memoize readBool
    add := ← setting fields "add" fallback.add (AddSettings.ofTerm? namesRequired)
    selector := ← setting fields "selector" fallback.selector
      (SelectorSettings.ofTerm? namesRequired)
    castChain := ← setting fields "cast_chain" fallback.castChain
      (CastChainSettings.ofTerm? namesRequired)
    diamond := ← setting fields "diamond" fallback.diamond
      (DiamondSettings.ofTerm? namesRequired) }

def write (settings : Settings) : String := String.ofList (settings.toTerm.pretty 0)

def read (text : String) : Except StoredError Settings :=
  match (Source.read? text).bind fun source => ofTerm? source.namesRequired source.body with
  | none => .error .malformed
  | some settings =>
      if settings.version.value ≤ currentVersion then .ok settings
      else .error (.unsupportedVersion settings.version)

end Settings

end DemandFlow.Sample
