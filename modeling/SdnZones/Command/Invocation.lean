-- SUMMARY: What a command line asks for.
import SdnZones.Command.Arguments
import SdnZones.Command.Format
import SdnZones.Zone.Kind

/-!
# Invocations

A command line names a task, with options of the task and options of every task. The
options of every task may stand before or after the name of the task; a value behind it
counts before one in front of it.
-/

namespace SdnZones.Command

/-- What is to be done. -/
inductive Task where
  | list (kind : Option ZoneKind) (format : Format)
  | show (zone : String) (format : Format)
  | apply (file : String) (dryRun : Bool)
  | delete (zone : String)
  | ping
  | config (showSecret : Bool)
deriving DecidableEq

/-- A task and how it is done. -/
structure Invocation where
  task : Task
  /-- The file of the settings. -/
  settings : Option String
  /-- The causes of a failure are printed. -/
  detailed : Bool
deriving DecidableEq

namespace Invocation

/-! ## Options -/

/-- Whether a value may name a file. -/
def isPath (s : String) : Bool := !s.isEmpty

/-- The options of every task. -/
def commonFlags : List Flag := [
  ⟨"config", some 'c', .value isPath⟩, ⟨"verbose", some 'v', .switch⟩,
  ⟨"debug", some 'd', .switch⟩, ⟨"quiet", some 'q', .switch⟩, ⟨"help", some 'h', .stop .help⟩]

/-- The options in front of the name of a task. -/
def frontOptions : Options where
  flags := commonFlags ++ [⟨"version", some 'V', .stop .version⟩]

/-- The option for the format of output. -/
def formatFlag : Flag := ⟨"format", some 'f', .value fun s => (Format.ofName? s).isSome⟩

/-- The option for the kind of zones. -/
def kindFlag : Flag := ⟨"type", some 't', .value fun s => (ZoneKind.ofName? s).isSome⟩

/-- The names of the tasks. -/
inductive TaskName where
  | list
  | show
  | apply
  | delete
  | ping
  | config
deriving DecidableEq

/-- The task names by word. -/
def TaskName.byWord : List (String × TaskName) :=
  [("list", .list), ("show", .show), ("apply", .apply), ("delete", .delete), ("ping", .ping),
    ("config", .config)]

/-- The options of a task. -/
def TaskName.options : TaskName → Options
  | .list => { flags := commonFlags ++ [kindFlag, formatFlag] }
  | .show => { flags := commonFlags ++ [formatFlag], words := 1 }
  | .apply => { flags := commonFlags ++
      [⟨"file", some 'f', .value isPath⟩, ⟨"dry-run", none, .switch⟩] }
  | .delete => { flags := commonFlags, words := 1 }
  | .ping => { flags := commonFlags }
  | .config => { flags := commonFlags ++ [⟨"show-secret", none, .switch⟩] }

/-! ## Reading -/

/-- The format that was given; plain text without one. -/
def formatOf (g : Given) : Format := ((g.value? "format").bind Format.ofName?).getD .text

/-- The first word. -/
def firstWord? (g : Given) : Except Stop String :=
  match g.words.head? with
  | some word => .ok word
  | none => .error .misuse

/-- The task of a name with what was given for it. -/
def TaskName.task (g : Given) : TaskName → Except Stop Task
  | .list => .ok (.list ((g.value? "type").bind ZoneKind.ofName?) (formatOf g))
  | .show => (firstWord? g).map fun zone => .show zone (formatOf g)
  | .apply =>
    match g.value? "file" with
    | some file => .ok (.apply file (g.isOn "dry-run"))
    | none => .error .misuse
  | .delete => (firstWord? g).map .delete
  | .ping => .ok .ping
  | .config => .ok (.config (g.isOn "show-secret"))

/-- Whether the words behind `help` ask for the help of something that is there. -/
def namesHelp : List String → Bool
  | [] => true
  | [word] => word == "help" || (TaskName.byWord.lookup word).isSome
  | _ => false

/-- What a command line asks for. -/
def ofArguments (args : List String) : Except Stop Invocation :=
  match frontOptions.readHead {} args with
  | .error s => .error s
  | .ok (front, word, rest) =>
    match TaskName.byWord.lookup word with
    | none => .error (if word = "help" ∧ namesHelp rest then .help else .misuse)
    | some name =>
      match name.options.read rest with
      | .error s => .error s
      | .ok back =>
        match name.task back with
        | .error s => .error s
        | .ok task =>
          let isOn (switch : String) := front.isOn switch || back.isOn switch
          .ok {
            task := task
            settings := (back.value? "config").or (front.value? "config")
            detailed := isOn "verbose" || isOn "debug" }

end Invocation

end SdnZones.Command
