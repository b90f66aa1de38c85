import SubspaceOps.Rejection
import SubspaceOps.Text.LineEnd
import SubspaceOps.Timestamp

/-!
# The journal

Operations report what they did as journal entries, which they return beside their outcome. An
entry is written as one line in the shape of a JSON object; the message stands in it as it is.
A logger lets pass the entries at or above its level.
-/
namespace SubspaceOps.Journal

/-! ## Levels -/

/-- A level is a number, or a switch that counts as 0 or 1. -/
inductive Level
  | number (n : Int)
  | switch (on : Bool)
  deriving DecidableEq, Repr

def Level.value : Level → Int
  | number n => n
  | switch on => if on then 1 else 0

def debug : Level := .number 10
def info : Level := .number 20
def warning : Level := .number 30

/-- The numbers of the level names. -/
def levelNames : List (String × Int) :=
  [("CRITICAL", 50), ("FATAL", 50), ("ERROR", 40), ("WARN", 30), ("WARNING", 30), ("INFO", 20),
    ("DEBUG", 10), ("NOTSET", 0)]

/-- The name of a level; unnamed levels are shown by their value. -/
def Level.name (level : Level) : String :=
  if level.value = 50 then "CRITICAL"
  else if level.value = 40 then "ERROR"
  else if level.value = 30 then "WARNING"
  else if level.value = 20 then "INFO"
  else if level.value = 10 then "DEBUG"
  else if level.value = 0 then "NOTSET"
  else match level with
    | number n => "Level " ++ toString n
    | switch _ => "Level True"

/-! ## Entries -/

structure Entry where
  level : Level
  logger : String
  message : String
  deriving DecidableEq, Repr

/-- The line of an entry that is written at the given time. -/
def Entry.line (clock : Nat) (e : Entry) : String :=
  "\x7b\"ts\": \"" ++ Timestamp.text clock ++ "\", \"level\": \"" ++ e.level.name ++
    "\", \"name\": \"" ++ e.logger ++ "\", \"msg\": \"" ++ e.message ++ "\"\x7d\n"

/-- The text of several entries. -/
def write (clock : Nat) (entries : List Entry) : String :=
  String.join (entries.map (Entry.line clock))

/-- What is read back from a file that several entries were written to. -/
def readBack (clock : Nat) (entries : List Entry) : String :=
  String.ofList (Text.unifyLineEnds (write clock entries).toList)

/-- An outcome with the entries that were written on the way to it. -/
structure Logged (α : Type) where
  outcome : Except Fault α
  journal : List Entry

namespace Logged

def pure {α : Type} (x : α) : Logged α := ⟨.ok x, []⟩

/-- Go on with the value of a success; a fault ends the run. -/
def andThen {α β : Type} (x : Logged α) (f : α → Logged β) : Logged β :=
  match x.outcome with
  | .ok a => ⟨(f a).outcome, x.journal ++ (f a).journal⟩
  | .error e => ⟨.error e, x.journal⟩

end Logged

/-! ## Loggers -/

/-- What a logger writes to once its outputs are attached. -/
inductive Outputs
  | console
  | consoleAndFile
  deriving DecidableEq, Repr

def Outputs.count : Outputs → Nat
  | console => 1
  | consoleAndFile => 2

structure Logger where
  name : String
  level : Level
  outputs : Option Outputs
  deriving DecidableEq, Repr

namespace Logger

def new (name : String) : Logger := ⟨name, .number 0, none⟩

/-- The capital of a letter, as far as it can be a letter of a level name: the dotless i and the
long s have ASCII capitals too. -/
def capital (c : Char) : Char :=
  if c = 'ı' then 'I' else if c = 'ſ' then 'S' else c.toUpper

/-- The level of a setting, in which the case of letters does not matter; `info` if it names
none. -/
def settingLevel (setting : Option String) : Level :=
  let name := String.ofList ((setting.getD "").toList.map capital)
  ((levelNames.lookup name).map Level.number).getD info

/-- The level that is asked for explicitly, as a number or a switch or by its exact name. -/
def explicitLevel : Json → Except Fault Level
  | .int n => .ok (.number n)
  | .bool b => .ok (.switch b)
  | .text s => match levelNames.lookup s with
    | some n => .ok (.number n)
    | none => .error .unknownLevel
  | _ => .error .badLevel

/-- Set the level, explicitly or by the setting of the environment, and attach outputs if there
are none yet. -/
def configure (l : Logger) (setting : Option String) (level : Option Json) (toFile : Bool) :
    Except Fault Logger := do
  let level ← match level with
    | some v => explicitLevel v
    | none => pure (settingLevel setting)
  let outputs := l.outputs.getD (if toFile then .consoleAndFile else .console)
  return { l with level := level, outputs := some outputs }

/-- A logger without level of its own takes that of its surroundings. -/
def effectiveLevel (l : Logger) : Level := if l.level.value = 0 then warning else l.level

/-- An entry passes when its level is positive and not below that of the logger. -/
def lets (l : Logger) (level : Level) : Bool :=
  0 < level.value && l.effectiveLevel.value ≤ level.value

/-- The entries that pass, of a list of levels and messages. -/
def entries (l : Logger) (messages : List (Level × String)) : List Entry :=
  (messages.filter fun m => l.lets m.1).map fun m => ⟨m.1, l.name, m.2⟩

end Logger

end SubspaceOps.Journal
