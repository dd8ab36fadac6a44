import Reshape.Files
import Reshape.Json.Printer
import Reshape.Json.Typed

/-!
Contract: the command line.

Owns:
- the options of the commands, what they accept and the texts about them;
- `Invocation`, what arguments ask for, and its reading;
- `Command.run`, the output of a command over given files and standard input, or a
  message;
- `CommandLine.run`, with the exit code.

Does not own: access to files, standard input and the console.
-/

namespace Reshape

/-- What the program can do. -/
inductive Command where
  /-- Map one document, after binding the pairs of a profile. -/
  | map (catalog : String) (profile : Option String) (source target input : String)
  /-- Bind every pair of a profile and report the sizes of the graphs. -/
  | check (catalog profile : String) (dump : Bool)
deriving DecidableEq

/-- What an option takes. -/
inductive OptionValue where
  | nothing
  /-- The name of a file, which is not empty. -/
  | path
  | text
deriving DecidableEq

/-- An option of a command. -/
structure OptionRule where
  name : String
  takes : OptionValue
  isRequired : Bool
  description : String

/-- A command and its options. -/
structure CommandRule where
  name : String
  description : String
  options : List OptionRule

/-- Given options.  A switch has an empty value. -/
abbrev Options := Table String String

/-- What arguments come to. -/
inductive OptionReading (α : Type) where
  | unusable
  | help
  | usable (value : α)
deriving DecidableEq

namespace Options

/-- The name and the attached value of an argument with two dashes. -/
def nameOf? (argument : String) : Option (String × Option String) :=
  match argument.toList with
  | '-' :: '-' :: rest =>
      let name := rest.takeWhile fun character => character ≠ '='
      let attached := match rest.drop name.length with
        | [] => none
        | _ :: value => some (String.ofList value)
      some (String.ofList name, attached)
  | _ => none

/-- Whether an argument is a flag with a long name, or begins with its letter. -/
def isFlag (name : String) (letter : Char) (argument : String) : Bool :=
  argument = "--" ++ name || ['-', letter].isPrefixOf argument.toList

/-- Whether an argument asks for help. -/
def asksForHelp (argument : String) : Bool :=
  isFlag "help" 'h' argument

/-- Whether an argument can be the value of an option before it. -/
def isValue (argument : String) : Bool :=
  match argument.toList with
  | '-' :: _ :: _ => false
  | _ => true

/-- Add an option that was not given yet. -/
def add? (options : Options) (rule : OptionRule) (value : String) : Option Options :=
  if Table.contains options rule.name || (rule.takes = .path && value = "") then none
  else some (Table.put options rule.name value)

/-- Read arguments as options, each at most once.  An option may be waiting for its value.
The first argument that asks for help or is unusable decides. -/
def readFrom (rules : List OptionRule) :
    Option OptionRule → Options → List String → OptionReading Options
  | none, options, [] => .usable options
  | some _, _, [] => .unusable
  | some waiting, options, argument :: rest =>
      match options.add? waiting argument with
      | some added => if isValue argument then readFrom rules none added rest else .unusable
      | none => .unusable
  | none, options, argument :: rest =>
      if argument = "--" then if rest.isEmpty then .usable options else .unusable
      else if asksForHelp argument then .help
      else
        match nameOf? argument with
        | none => .unusable
        | some (name, attached) =>
            match rules.find? (fun rule => rule.name == name), attached with
            | none, _ => .unusable
            | some rule, some value =>
                match options.add? rule value with
                | some added =>
                    if rule.takes = .nothing then .unusable else readFrom rules none added rest
                | none => .unusable
            | some rule, none =>
                if rule.takes = .nothing then
                  match options.add? rule "" with
                  | some added => readFrom rules none added rest
                  | none => .unusable
                else readFrom rules (some rule) options rest

end Options

namespace CommandRule

/-- Read the arguments of a command, among them all required options. -/
def read (command : CommandRule) (arguments : List String) : OptionReading Options :=
  match Options.readFrom command.options none [] arguments with
  | .usable options =>
      if command.options.all fun rule => !rule.isRequired || Table.contains options rule.name then
        .usable options
      else .unusable
  | other => other

end CommandRule

namespace CommandLine

/-- The name of the program. -/
def name : String := "omap"

/-- The version of the program. -/
def version : String := "0.1.0"

/-- The option for the catalog of a command. -/
def catalogOption : OptionRule :=
  ⟨"catalog", .path, true, "Type catalog (.yaml, .yml or .json)"⟩

/-- The command that maps a document. -/
def mapRule : CommandRule where
  name := "map"
  description := "Map one document from the source type to the target type"
  options :=
    [catalogOption,
      ⟨"profile", .path, false, "Mapping profile to bind first"⟩,
      ⟨"source", .text, true, "Source type expression"⟩,
      ⟨"target", .text, true, "Target type expression"⟩,
      ⟨"input", .text, false, "Input JSON file, or - for stdin [default: -]"⟩]

/-- The command that checks a profile. -/
def checkRule : CommandRule where
  name := "check"
  description := "Bind every pair of a profile and report graph sizes"
  options :=
    [catalogOption,
      ⟨"profile", .path, true, "Mapping profile"⟩,
      ⟨"dump", .nothing, false, "Print the program of every compiled class mapper"⟩]

/-- What asking for help is good for. -/
def helpDescription : String :=
  "Print this message or the help of the given subcommand(s)"

/-- Lines with labels and texts beside them. -/
def aligned (lines : List (String × String)) : String :=
  let width := lines.foldl
    (fun width line => if width < line.1.length then line.1.length else width) 0
  String.join (lines.map fun line =>
    line.1 ++ String.ofList (List.replicate (width - line.1.length) ' ') ++ "  " ++ line.2 ++ "\n")

/-- The flag that asks for help, in a list of options. -/
def helpLine : String × String := ("  -h, --help", "Print help")

/-- An option as it is given. -/
def optionForm (rule : OptionRule) : String :=
  if rule.takes = .nothing then s!"--{rule.name}" else s!"--{rule.name} <{rule.name}>"

/-- The text about a command. -/
def commandHelp (command : CommandRule) : String :=
  let required := command.options.filter OptionRule.isRequired
  let usage := String.join (required.map fun rule => " " ++ optionForm rule)
  let options := command.options.map fun rule => ("      " ++ optionForm rule, rule.description)
  s!"{command.description}\n\nUsage: {name} {command.name} [OPTIONS]{usage}\n\nOptions:\n" ++
    aligned (options ++ [helpLine])

/-- The text about asking for help. -/
def helpHelp : String :=
  s!"{helpDescription}\n\nUsage: {name} help [COMMAND]...\n\nArguments:\n" ++
    aligned [("  [COMMAND]...", "Print help for the subcommand(s)")]

/-- The text about the program. -/
def help : String :=
  let commands := [mapRule, checkRule].map fun command =>
    ("  " ++ command.name, command.description)
  "Map JSON documents between catalog-described types\n\n" ++
    s!"Usage: {name} <COMMAND>\n\nCommands:\n" ++
    aligned (commands ++ [("  help", helpDescription)]) ++ "\nOptions:\n" ++
    aligned [helpLine, ("  -V, --version", "Print version")]

/-- The text that the arguments after `help` ask for. -/
def helpFor? : List String → Option String
  | [] => some help
  | ["map"] => some (commandHelp mapRule)
  | ["check"] => some (commandHelp checkRule)
  | ["help"] => some helpHelp
  | _ => none

end CommandLine

/-- What arguments ask for. -/
inductive Invocation where
  | unusable
  | information (text : String)
  | command (command : Command)
deriving DecidableEq

namespace Invocation

/-- The command that options describe. -/
def ofOptions (rule : CommandRule) (build : Options → Option Command) (arguments : List String) :
    Invocation :=
  match rule.read arguments with
  | .unusable => .unusable
  | .help => .information (CommandLine.commandHelp rule)
  | .usable options => ((build options).map Invocation.command).getD .unusable

/-- The mapping of a document that options describe. -/
def mapCommand? (options : Options) : Option Command := do
  let catalog ← Table.get? options "catalog"
  let source ← Table.get? options "source"
  let target ← Table.get? options "target"
  let input := (Table.get? options "input").getD "-"
  some (.map catalog (Table.get? options "profile") source target input)

/-- The check of a profile that options describe. -/
def checkCommand? (options : Options) : Option Command := do
  let catalog ← Table.get? options "catalog"
  let profile ← Table.get? options "profile"
  some (.check catalog profile (Table.contains options "dump"))

/-- Read the arguments of the program. -/
def ofArguments : List String → Invocation
  | [] => .unusable
  | first :: arguments =>
      if first = "map" then ofOptions CommandLine.mapRule mapCommand? arguments
      else if first = "check" then ofOptions CommandLine.checkRule checkCommand? arguments
      else if first = "help" then
        ((CommandLine.helpFor? arguments).map Invocation.information).getD .unusable
      else if Options.asksForHelp first then .information CommandLine.help
      else if Options.isFlag "version" 'V' first then
        .information s!"{CommandLine.name} {CommandLine.version}\n"
      else .unusable

end Invocation

namespace Command

/-- The message where mappers call each other without end. -/
def endless : String := "the mappers call each other without end"

/-- The result of a computation, or its message. -/
def finish {ε α : Type} (message : ε → String) : Outcome ε α → Except String α
  | .done result => .ok result
  | .failed error => .error (message error)
  | .unfinished => .error endless

/-- Load the catalog of a command. -/
def loadCatalog (files : Files) (path : String) : Except String Catalog :=
  (Catalog.load files path).mapError fun _ => s!"failed to load catalog {path}"

/-- Load the profile of a command. -/
def loadProfile (files : Files) (path : String) : Except String Profile :=
  (Profile.load files path).mapError fun _ => s!"failed to load profile {path}"

/-- The registry that a document is mapped with. -/
def registryFor (files : Files) (catalog : Catalog) : Option String → Except String Registry
  | none => .ok (.standard catalog {})
  | some path => do
      let profile ← loadProfile files path
      let built ← finish ProfileError.message (profile.registry catalog)
      return built.1

/-- The registry with a pair bound. -/
def bound (registry : Registry) (pair : ShapePair) : Except String Registry :=
  if registry.isBound pair then .ok registry
  else
    let (reached, outcome) := registry.bind pair none
    (finish BindError.message outcome).map fun _ => reached

/-- The text to be mapped. -/
def readInput (files : Files) (standardInput input : String) : Except String String :=
  if input = "-" then .ok standardInput
  else
    match files input with
    | some text => .ok text
    | none => .error s!"failed to read {input}"

/-- The lines about a mapper: its size, and on request the programs in its graph, each
with an empty line after it. -/
def report (dump : Bool) (mapper : Mapper) : String :=
  let graph := mapper.graph
  let pair := (graph.pair?.map ShapePair.text).getD ""
  let programs := graph.nodes.filterMap Node.program
  s!"{pair}: {graph.nodes.length} mappers\n" ++
    (if dump then String.join (programs.map fun program => program.listing ++ "\n") else "")

/-- The output of a command, or a message. -/
def run (files : Files) (standardInput : String) : Command → Except String String
  | .map catalogPath profilePath sourceText targetText input => do
      let catalog ← loadCatalog files catalogPath
      let source ← (catalog.parseShape sourceText).mapError ExpressionError.message
      let target ← (catalog.parseShape targetText).mapError ExpressionError.message
      let registry ← registryFor files catalog profilePath
      let registry ← bound registry ⟨source, target⟩
      let text ← readInput files standardInput input
      let json ←
        match Json.ofText? text with
        | some json => .ok json
        | none => .error "input is not JSON"
      let value ← (Value.ofJson catalog source json).mapError ConversionError.message
      let mapped ← finish MapError.message (registry.map ⟨source, target⟩ value none)
      return (Value.toJson catalog mapped).pretty ++ "\n"
  | .check catalogPath profilePath dump => do
      let catalog ← loadCatalog files catalogPath
      let profile ← loadProfile files profilePath
      if profile.entries.isEmpty then
        throw s!"profile {profilePath} binds no pairs"
      let built ← finish ProfileError.message (profile.registry catalog)
      return String.join (built.2.map (report dump))

end Command

/-- What a run of the program leaves behind. -/
structure RunResult where
  code : Nat
  output : String
  message : Option String

/-- Run the program.  Arguments that cannot be read give the code 2 and a failure
gives the code 1. -/
def CommandLine.run (files : Files) (standardInput : String) (arguments : List String) :
    RunResult :=
  match Invocation.ofArguments arguments with
  | .unusable => ⟨2, "", none⟩
  | .information text => ⟨0, text, none⟩
  | .command command =>
      match command.run files standardInput with
      | .ok output => ⟨0, output, none⟩
      | .error message => ⟨1, "", some message⟩

end Reshape
