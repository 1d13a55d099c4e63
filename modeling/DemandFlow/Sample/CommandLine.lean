import DemandFlow.Sample.Scenario
import DemandFlow.Sample.Stored

/-!
Contract: the command line of the sample program.

Owns: its options, their reading, its texts, and what a call answers.

Does not own: files and streams, which the caller brings along, and the log.

Arguments are read from left to right, and the first fault or the first request for help or for the
version ends the reading. The log of a call goes to the stream that its results are printed to, line
by line with the time; these lines are left out of what is said here to be printed.
-/

namespace DemandFlow.Sample.CommandLine

/-- What a call asks for. -/
structure Options where
  config : Option String := none
  /-- Whether a shared node is evaluated once for each demand. -/
  memoize : Bool := false
  /-- Whether the kinds of nodes are listed. -/
  listKinds : Bool := false
  /-- The file to write the settings to. -/
  writeConfig : Option String := none
deriving DecidableEq, Repr

/-- What the arguments of a call come to. -/
inductive Request where
  | run (options : Options)
  | help
  | version
  /-- The arguments are not understood. -/
  | misuse
deriving DecidableEq, Repr

inductive PathOption where
  | config
  | writeConfig
deriving DecidableEq, Repr

/-- What an argument asks for by itself. -/
inductive Argument where
  | memoize
  | listKinds
  | help
  | version
  /-- An option with its path, which may have to follow as the next argument. -/
  | path (target : PathOption) (value : Option String)
  /-- What follows are no options. -/
  | separator
  | unknown
deriving DecidableEq, Repr

namespace Argument

/-- The paths that follow an option and an equals sign. -/
def assigned? (name : String) (argument : List Char) : Option String :=
  let opening := (name ++ "=").toList
  if opening.isPrefixOf argument then some (String.ofList (argument.drop opening.length)) else none

/-- Reads an argument that has a long name. -/
def ofLong (argument : String) : Argument :=
  match argument with
  | "--memoize" => .memoize
  | "--list-kinds" => .listKinds
  | "--help" => .help
  | "--version" => .version
  | "--config" => .path .config none
  | "--write-config" => .path .writeConfig none
  | argument =>
      match assigned? "--config" argument.toList, assigned? "--write-config" argument.toList with
      | some file, _ => .path .config (some file)
      | none, some file => .path .writeConfig (some file)
      | none, none => .unknown

/-- Reads an argument. Behind a short name the path may follow at once. -/
def ofString (argument : String) : Argument :=
  match argument.toList with
  | ['-', '-'] => .separator
  | '-' :: '-' :: _ => ofLong argument
  | ['-', 'c'] => .path .config none
  | '-' :: 'c' :: '=' :: file => .path .config (some (String.ofList file))
  | '-' :: 'c' :: file => .path .config (some (String.ofList file))
  | '-' :: 'h' :: _ => .help
  | '-' :: 'V' :: _ => .version
  | _ => .unknown

/-- Whether an argument can be the path that an option waits for. A single hyphen can. -/
def isPath (argument : String) : Bool := argument == "-" || !"-".toList.isPrefixOf argument.toList

end Argument

namespace Options

/-- Sets a path. It must not be empty, and each option is given once. -/
def setPath (options : Options) (target : PathOption) (path : String) : Option Options :=
  if path.isEmpty then none
  else
    match target with
    | .config => if options.config.isSome then none else some { options with config := path }
    | .writeConfig =>
        if options.writeConfig.isSome then none else some { options with writeConfig := path }

/-- Reads arguments on top of the options that others have set. -/
def read (options : Options) : List String → Request
  | [] => .run options
  | argument :: rest =>
      match Argument.ofString argument, rest with
      | .memoize, rest =>
          if options.memoize then .misuse else read { options with memoize := true } rest
      | .listKinds, rest =>
          if options.listKinds then .misuse else read { options with listKinds := true } rest
      | .help, _ => .help
      | .version, _ => .version
      | .path target (some path), rest =>
          match options.setPath target path with
          | some options => read options rest
          | none => .misuse
      | .path target none, path :: rest =>
          if Argument.isPath path then
            match options.setPath target path with
            | some options => read options rest
            | none => .misuse
          else .misuse
      | .path _ none, [] => .misuse
      | .separator, rest => if rest.isEmpty then .run options else .misuse
      | .unknown, _ => .misuse

end Options

/-- What the arguments of a call come to. -/
def Request.ofArguments (arguments : List String) : Request := Options.read {} arguments

structure Response where
  exitCode : Nat
  /-- What is printed, without the lines of the log. -/
  output : String
  /-- The path and the content of the file that is written. -/
  saved : Option (String × String)
deriving DecidableEq, Repr

namespace Response

/-- A call that succeeds and prints a text. -/
def printed (output : String) : Response := ⟨0, output, none⟩

/-- A call that fails without printing a result. -/
def failed (exitCode : Nat) : Response := ⟨exitCode, "", none⟩

end Response

def helpText : String :=
  "Builds and evaluates sample dataflow graphs\n\nUsage: tau_nodegraph_demo [OPTIONS]\n\nOptions:\n" ++
  "  -c, --config <CONFIG>      RON configuration file\n" ++
  "      --memoize              Compute nodes shared by several paths once per pass\n" ++
  "      --list-kinds           Print every registered node kind and exit\n" ++
  "      --write-config <PATH>  Write the effective configuration to this file and exit\n" ++
  "  -h, --help                 Print help\n" ++
  "  -V, --version              Print version\n"

def versionText : String := "tau_nodegraph_demo 0.1.0\n"

def kindsText : String :=
  String.join (Registry.withOperators.types.map fun nodeType =>
    Report.column 28 nodeType.id ++ " " ++ nodeType.category.name ++ "\n")

/-- The files that a call can reach. -/
structure Storage where
  /-- The content of a file, if it can be read. -/
  read : String → Option String
  /-- Whether a file can be written. -/
  isWritable : String → Bool

def loadSettings (storage : Storage) (options : Options) : Option Settings :=
  match options.config with
  | none => some .standard
  | some path => (storage.read path).bind fun text => (Settings.read text).toOption

/-- Does what the options ask for. Writing the settings comes before listing the kinds of nodes, and
that before running the sample graphs. The settings are written as they were read: options do not
change them. -/
def perform (storage : Storage) (options : Options) (settings : Settings) : Response :=
  match options.writeConfig with
  | some path =>
      if storage.isWritable path then ⟨0, "", some (path, settings.write)⟩ else .failed 1
  | none =>
      if options.listKinds then .printed kindsText
      else
        match Scenario.runAll settings (options.memoize || settings.memoize) with
        | .ok reports => .printed (String.join (reports.map fun report => report.text ++ "\n"))
        | .error _ => .failed 1

/-- What a call does. Of what it prints, the lines of the log are left out. -/
def respond (storage : Storage) (arguments : List String) : Response :=
  match Request.ofArguments arguments with
  | .help => .printed helpText
  | .version => .printed versionText
  | .misuse => .failed 2
  | .run options =>
      match loadSettings storage options with
      | some settings => perform storage options settings
      | none => .failed 1

end DemandFlow.Sample.CommandLine
