import PathPattern.Command

/-!
What the arguments of the program ask for.

Arguments are read from left to right at a level of the command tree. One that begins with a dash is an option, a
lone dash and everything behind two dashes are operands. Options have a word, `--mode`, and most have a letter,
`-m`; letters can be run together. The value of a setting comes after an equals sign, right behind its letter, or as
the next argument, which must then not begin with a dash. No option may come twice at one level.
-/

namespace PathPattern

inductive Request where
  | help
  | version
  | perform (command : Command)
deriving DecidableEq, Repr

namespace Arguments

inductive Flag where
  | help
  | version
  | verbose
  | named
deriving DecidableEq, Repr

inductive Setting where
  | mode
  | modifiers
deriving DecidableEq, Repr

inductive Meaning where
  | flag (flag : Flag)
  | setting (setting : Setting)
deriving DecidableEq, Repr

structure Switch where
  word : Text
  letter : Option Char
  meaning : Meaning
deriving DecidableEq, Repr

inductive Level where
  | top
  | configuration
  | test
  | fill
  | inspect
  | bare
deriving DecidableEq, Repr

def commonSwitches : List Switch :=
  [⟨"verbose".toList, some 'v', .flag .verbose⟩, ⟨"help".toList, some 'h', .flag .help⟩]

def targetSwitches : List Switch :=
  [⟨"named".toList, none, .flag .named⟩, ⟨"mode".toList, some 'm', .setting .mode⟩,
    ⟨"modifiers".toList, some 'f', .setting .modifiers⟩]

def Level.switches : Level → List Switch
  | .top => ⟨"version".toList, some 'V', .flag .version⟩ :: commonSwitches
  | .configuration | .bare => commonSwitches
  | .test | .fill | .inspect => targetSwitches ++ commonSwitches

def Level.hasCommands : Level → Bool
  | .top | .configuration => true
  | _ => false

structure Draft where
  flags : List Flag
  mode : Option Mode
  modifiers : Option Text
  operands : List Text
deriving DecidableEq, Repr

namespace Draft

def blank : Draft := ⟨[], none, none, []⟩

def raise? (draft : Draft) (flag : Flag) : Option Draft :=
  if flag ∈ draft.flags then none else some { draft with flags := flag :: draft.flags }

def set? (draft : Draft) (setting : Setting) (value : Text) : Option Draft :=
  match setting with
  | .mode =>
      match draft.mode, Mode.ofName? value with
      | none, some mode => some { draft with mode := some mode }
      | _, _ => none
  | .modifiers =>
      match draft.modifiers with
      | none => some { draft with modifiers := some value }
      | some _ => none

def add? (level : Level) (draft : Draft) (operand : Text) : Option Draft :=
  let fits :=
    match level with
    | .test => true
    | .fill => draft.operands = [] || operand.contains '='
    | .inspect => draft.operands = []
    | .top | .configuration | .bare => false
  if fits then some { draft with operands := draft.operands ++ [operand] } else none

end Draft

def isOption (argument : Text) : Bool := argument.head? = some '-' && argument ≠ ['-']

inductive Mark where
  | flag (flag : Flag)
  | setting (setting : Setting) (attached : Option Text)
  | unknown
deriving DecidableEq, Repr

def Level.find? (level : Level) (written : Switch → Bool) : Option Meaning :=
  (level.switches.find? written).map Switch.meaning

def wordMark (level : Level) (word : Text) (attached : Option Text) : Mark :=
  match level.find? (·.word = word), attached with
  | some (.setting setting), attached => .setting setting attached
  | some (.flag flag), none => .flag flag
  | _, _ => .unknown

def letterMarks (level : Level) : Text → List Mark
  | [] => []
  | letter :: rest =>
      match level.find? (·.letter = some letter) with
      | some (.flag flag) => .flag flag :: letterMarks level rest
      | some (.setting setting) =>
          match rest with
          | [] => [.setting setting none]
          | '=' :: value => [.setting setting (some value)]
          | value => [.setting setting (some value)]
      | none => [.unknown]

def marks (level : Level) (argument : Text) : List Mark :=
  match argument with
  | '-' :: '-' :: body =>
      match Text.splitAt? '=' body with
      | some (word, value) => [wordMark level word (some value)]
      | none => [wordMark level body none]
  | _ => letterMarks level (argument.drop 1)

inductive Progress where
  | refused
  | answered (request : Request)
  | reading (draft : Draft)
  | waiting (draft : Draft) (setting : Setting)
deriving DecidableEq, Repr

def Progress.ofOption : Option Draft → Progress
  | some draft => .reading draft
  | none => .refused

def take (draft : Draft) : List Mark → Progress
  | [] => .reading draft
  | .unknown :: _ => .refused
  | .flag .help :: _ => .answered .help
  | .flag .version :: _ => .answered .version
  | .flag flag :: rest =>
      match draft.raise? flag with
      | some draft => take draft rest
      | none => .refused
  | .setting setting none :: _ => .waiting draft setting
  | .setting setting (some value) :: _ => .ofOption (draft.set? setting value)

inductive Reached where
  | refused
  | answered (request : Request)
  | finished (draft : Draft)
  | command (name : Text) (rest : List Text)
deriving DecidableEq, Repr

def addAll (level : Level) (draft : Draft) (operands : List Text) : Reached :=
  match operands.foldlM (Draft.add? level) draft with
  | some draft => .finished draft
  | none => .refused

def scan (level : Level) (draft : Draft) : List Text → Reached
  | [] => .finished draft
  | argument :: rest =>
      if argument = "--".toList then addAll level draft rest
      else if isOption argument then
        match take draft (marks level argument) with
        | .refused => .refused
        | .answered request => .answered request
        | .reading draft => scan level draft rest
        | .waiting draft setting =>
            match rest with
            | [] => .refused
            | value :: rest =>
                if isOption value then .refused
                else
                  match draft.set? setting value with
                  | some draft => scan level draft rest
                  | none => .refused
      else if level.hasCommands then .command argument rest
      else
        match draft.add? level argument with
        | some draft => scan level draft rest
        | none => .refused

def Draft.target? (draft : Draft) (operand : Text) : Option Target :=
  if .named ∈ draft.flags then
    if draft.mode.isNone && draft.modifiers.isNone then some (.named operand) else none
  else some (.given operand (draft.mode.getD .default) draft.modifiers)

def testCommand? (draft : Draft) : Option Command :=
  match draft.operands with
  | pattern :: input :: inputs => (draft.target? pattern).map (.test · (input :: inputs))
  | _ => none

def fillCommand? (draft : Draft) : Option Command :=
  match draft.operands with
  | pattern :: bindings => do
      return .fill (← draft.target? pattern) (← bindings.mapM (Text.splitAt? '='))
  | [] => none

def inspectCommand? (draft : Draft) : Option Command :=
  match draft.operands with
  | [pattern] => (draft.target? pattern).map .inspect
  | _ => none

def leaf? (level : Level) (command? : Draft → Option Command) (arguments : List Text) : Option Request :=
  match scan level .blank arguments with
  | .answered request => some request
  | .finished draft => (command? draft).map .perform
  | _ => none

def helpOn? (commands : List (List Text)) (names : List Text) : Option Request :=
  if names ∈ commands then some .help else none

def configuration? (arguments : List Text) : Option Request :=
  match scan .configuration .blank arguments with
  | .answered request => some request
  | .command name rest =>
      if name = "show".toList then leaf? .bare (fun _ => some .showConfigurations) rest
      else if name = "validate".toList then leaf? .bare (fun _ => some .validateConfigurations) rest
      else if name = "help".toList then helpOn? [[], ["show".toList], ["validate".toList], ["help".toList]] rest
      else none
  | _ => none

def commandNames : List (List Text) :=
  [[], ["test".toList], ["stick".toList], ["inspect".toList], ["help".toList], ["config".toList],
    ["config".toList, "show".toList], ["config".toList, "validate".toList], ["config".toList, "help".toList]]

end Arguments

def Request.ofArguments? (arguments : List Text) : Option Request :=
  match Arguments.scan .top .blank arguments with
  | .answered request => some request
  | .command name rest =>
      if name = "test".toList then Arguments.leaf? .test Arguments.testCommand? rest
      else if name = "stick".toList then Arguments.leaf? .fill Arguments.fillCommand? rest
      else if name = "inspect".toList then Arguments.leaf? .inspect Arguments.inspectCommand? rest
      else if name = "config".toList then Arguments.configuration? rest
      else if name = "help".toList then Arguments.helpOn? Arguments.commandNames rest
      else none
  | _ => none

namespace Request

def usage : Text :=
  Command.line "Usage: matchstick [-v] COMMAND".toList ++
    Command.line [] ++
    Command.line "  test PATTERN INPUT...          test inputs; fails unless all of them match".toList ++
    Command.line "  stick PATTERN [NAME=VALUE]...  fill the tokens of a pattern".toList ++
    Command.line "  inspect PATTERN                show how a pattern compiles".toList ++
    Command.line "  config show                    show the configuration files that hold here".toList ++
    Command.line "  config validate                check these files".toList ++
    Command.line [] ++
    Command.line "A pattern takes the options -m MODE and -f MODIFIERS, or is a name if --named is given.".toList

def outcome (surroundings : Surroundings) : Request → Outcome
  | help => ⟨0, usage, []⟩
  | version => ⟨0, Command.line "matchstick 0.1.0".toList, []⟩
  | perform command => command.run surroundings

def outcomeOf (surroundings : Surroundings) (arguments : List Text) : Outcome :=
  match ofArguments? arguments with
  | some request => request.outcome surroundings
  | none => ⟨2, [], usage⟩

end Request
end PathPattern
