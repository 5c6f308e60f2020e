import DocAudit.DocSet.Basic
import DocAudit.Settings.Resolution
import DocAudit.Settings.StockText

/-!
# The command line

There are two commands: `check` checks a set of pages and prints the report, and `gen-config` prints
a file with the stock settings.  The options `--source` and `--config` may stand before or behind
the name of the command; behind it they count more.

`Wanted.ofArguments` finds out what the arguments ask for.  `Wanted.outcome` does it, given what the
paths in the arguments lead to.
-/

namespace DocAudit

/-- The name and version of the program. -/
def programVersion : String := "apidocs-check 0.4.0"

/-- How the program is used. -/
def usageLines : List String :=
  ["Usage: apidocs-check [--source <DIR>] [--config <FILE>] <COMMAND>",
   "",
   "Commands:",
   "  check       Check the documentation set",
   "              [--links] [--no-outline] [--page <PATH>]... [--json] [--verbose]",
   "  gen-config  Print a stock apidocs.toml with all options documented"]

/-! ## Options -/

/-- An argument as it may be meant: an option with a long name and perhaps a value, options with
short names, or a word. -/
inductive Argument where
  | long (name : String) (value : Option String)
  | short (names : List Char)
  | word (text : String)
  deriving DecidableEq, Repr

/-- Reads an argument. -/
def Argument.ofText (text : String) : Argument :=
  match text.toList with
  | '-' :: '-' :: rest =>
    match Text.cutFirst '=' rest with
    | some (name, value) => .long (.ofList name) (some (.ofList value))
    | none => .long (.ofList rest) none
  | '-' :: c :: rest => .short (c :: rest)
  | _ => .word text

/-- Whether an argument is a word, and so may be the value of the option before it. -/
def Argument.isWord (text : String) : Bool :=
  match ofText text with
  | word _ => true
  | _ => false

/-- The options that may stand in one place: those without and with a value, and the short names of
some. -/
structure OptionGrammar where
  flags : List String
  valued : List String
  shorts : List (Char × String)

/-- What follows options: nothing, a word with all that is behind it, or something that makes no
sense. -/
inductive Remaining where
  | nothing
  | word (text : String) (rest : List String)
  | senseless
  deriving DecidableEq, Repr

/-- Options with their values in the order in which they are given, and what follows them.  The
value of a flag is empty. -/
structure GivenOptions where
  options : List (String × String)
  remaining : Remaining
  deriving DecidableEq, Repr

namespace GivenOptions

/-- Puts options in front. -/
def after (options : List (String × String)) (given : GivenOptions) : GivenOptions :=
  { given with options := options ++ given.options }

/-- The options at the start of arguments.  Two dashes by themselves end the options. -/
def read (grammar : OptionGrammar) : List String → GivenOptions
  | [] => ⟨[], .nothing⟩
  | argument :: rest =>
    match Argument.ofText argument with
    | .word text => ⟨[], .word text rest⟩
    | .short names =>
      let known := (names.map fun name => grammar.shorts.lookup name).takeWhile Option.isSome
      let flags := known.filterMap fun name => name.map (·, "")
      if known.length = names.length then (read grammar rest).after flags else ⟨flags, .senseless⟩
    | .long name (some value) =>
      if grammar.valued.contains name then (read grammar rest).after [(name, value)]
      else ⟨[], .senseless⟩
    | .long name none =>
      if name.isEmpty && rest.isEmpty then ⟨[], .nothing⟩
      else if grammar.flags.contains name then (read grammar rest).after [(name, "")]
      else if grammar.valued.contains name then
        match rest with
        | value :: rest =>
          if Argument.isWord value then (read grammar rest).after [(name, value)]
          else ⟨[], .senseless⟩
        | [] => ⟨[], .senseless⟩
      else ⟨[], .senseless⟩

/-- Whether an option is given. -/
def has (given : GivenOptions) (name : String) : Bool :=
  given.options.any (·.1 == name)

/-- The value of an option that is given. -/
def value? (given : GivenOptions) (name : String) : Option String :=
  given.options.lookup name

/-- All values of an option. -/
def values (given : GivenOptions) (name : String) : List String :=
  (given.options.filter (·.1 == name)).map (·.2)

end GivenOptions

/-! ## What is wanted -/

/-- The command that is to be run. -/
inductive Command where
  | check (options : CheckOptions) (json verbose : Bool)
  | stockSettings
  deriving DecidableEq, Repr

/-- A command with the paths of the root and of the file with the settings, as far as they are
given. -/
structure Invocation where
  source : Option String
  config : Option String
  command : Command
  deriving DecidableEq, Repr

/-- What arguments ask for. -/
inductive Wanted where
  | run (invocation : Invocation)
  | version
  | help
  | misuse
  deriving DecidableEq, Repr

namespace Wanted

/-- What options ask for by themselves, if they are not just options of a command.  An option may be
given once, but for `--page`, and a path must not be empty.  `seen` holds the names given before. -/
def ofOptions (seen : List String) : List (String × String) → Option Wanted
  | [] => none
  | (name, value) :: rest =>
    if name = "help" then some help
    else if name = "version" then some version
    else if name = "page" then ofOptions seen rest
    else if seen.contains name then some misuse
    else if (name = "source" || name = "config") && value.isEmpty then some misuse
    else ofOptions (name :: seen) rest

/-- The options before the name of a command. -/
def outerGrammar : OptionGrammar :=
  ⟨["help", "version"], ["source", "config"], [('h', "help"), ('V', "version")]⟩

/-- The options of `check`. -/
def checkGrammar : OptionGrammar :=
  ⟨["help", "links", "no-outline", "json", "verbose"], ["source", "config", "page"],
   [('h', "help"), ('v', "verbose")]⟩

/-- The options of `gen-config`. -/
def stockGrammar : OptionGrammar :=
  ⟨["help"], ["source", "config"], [('h', "help")]⟩

/-- The command `check` with its options. -/
def checkCommand (given : GivenOptions) : Command :=
  .check
    { checksLinks := given.has "links"
      checksOutline := !given.has "no-outline"
      pages := given.values "page" }
    (given.has "json") (given.has "verbose")

/-- What the arguments behind the name of a command ask for. -/
def inside (outer : GivenOptions) (grammar : OptionGrammar) (command : GivenOptions → Command)
    (arguments : List String) : Wanted :=
  let inner := GivenOptions.read grammar arguments
  match ofOptions [] inner.options, inner.remaining with
  | some wanted, _ => wanted
  | none, .nothing =>
    .run
      { source := inner.value? "source" <|> outer.value? "source"
        config := inner.value? "config" <|> outer.value? "config"
        command := command inner }
  | none, _ => misuse

/-- What arguments ask for. -/
def ofArguments (arguments : List String) : Wanted :=
  let outer := GivenOptions.read outerGrammar arguments
  match ofOptions [] outer.options, outer.remaining with
  | some wanted, _ => wanted
  | none, .word "check" rest => inside outer checkGrammar checkCommand rest
  | none, .word "gen-config" rest => inside outer stockGrammar (fun _ => .stockSettings) rest
  | none, .word "help" _ => help
  | none, _ => misuse

end Wanted

/-! ## What is done -/

/-- The end of a run: the exit code and what is printed. -/
structure Outcome where
  exitCode : Nat
  output : String
  deriving DecidableEq, Repr

namespace Outcome

/-- The end of a run that failed without a report. -/
def failure : Outcome := ⟨1, ""⟩

/-- Some lines of output. -/
def linesOutput (lines : List String) : String :=
  String.join (lines.map (· ++ "\n"))

/-- The end of a run with a report, which fails if the report has an error. -/
def ofReport (json verbose : Bool) (report : Report) : Outcome :=
  ⟨if report.passed then 0 else 1,
   linesOutput (if json then [report.toJson.written] else report.lines verbose)⟩

end Outcome

/-- The path of the root. -/
def Invocation.sourcePath (invocation : Invocation) : String :=
  invocation.source.getD "."

/-- Does what an invocation is for.  `lookup` gives what a path leads to. -/
def Invocation.outcome (lookup : String → Option FileTree) (invocation : Invocation) : Outcome :=
  match invocation.command with
  | .stockSettings => ⟨0, Settings.stockText⟩
  | .check options json verbose =>
    let root := lookup invocation.sourcePath
    let entry := match invocation.config with
      | some path => lookup path
      | none => root.bind (·.child? Settings.fileName)
    match Settings.ofEntry entry with
    | .error _ => .failure
    | .ok settings =>
      match DocSet.check settings options invocation.sourcePath root with
      | .error _ => .failure
      | .ok set => .ofReport json verbose set.report

/-- Does what arguments ask for.  `lookup` gives what a path leads to. -/
def Wanted.outcome (lookup : String → Option FileTree) (wanted : Wanted) : Outcome :=
  match wanted with
  | .run invocation => invocation.outcome lookup
  | .version => ⟨0, Outcome.linesOutput [programVersion]⟩
  | .help => ⟨0, Outcome.linesOutput usageLines⟩
  | .misuse => ⟨2, ""⟩

end DocAudit
