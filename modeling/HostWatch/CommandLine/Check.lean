import HostWatch.CommandLine.Arguments
import HostWatch.CommandLine.LogFilter
import HostWatch.Config.EnvFile
import HostWatch.Config.Load
import HostWatch.Config.Rules
set_option autoImplicit false

/-!
# Command line: loading and checking the configuration

The variables of a file are added to the environment before anything else is looked at;
the arguments come next, and after them the filter for the log.
The configuration file is the one among the arguments, else the one that `MONIC_CONFIG`
names, else the one at the usual place.  A configuration that is loaded is checked, and a
run that was only asked for that ends there.
-/

namespace HostWatch.CommandLine

/-- What the program finds around it. -/
structure Surroundings where
  environment : Environment
  /-- the home directory of the account that runs it -/
  home : Option String
  /-- the text of the file of variables, if there is one -/
  envFile : Option String
  /-- what comes of reading a file -/
  file : String → FileReading

/-- The environment with the variables of the file; none when one of them cannot be set. -/
def Surroundings.fullEnvironment? (s : Surroundings) : Option Environment :=
  match s.envFile with
  | some text => EnvFile.extend? s.environment text
  | none => some s.environment

/-- How a run ends.  The log lines are those that are shown. -/
inductive Outcome where
  /-- the run broke down before the configuration was looked for -/
  | crashed
  /-- the arguments break a rule -/
  | misuse
  /-- a text was asked for -/
  | help
  | version
  /-- something failed, with its causes from the outermost to the innermost -/
  | failed (logs : List LogLine) (summary : String) (causes : List String)
  /-- the configuration is in order, and nothing else was asked for -/
  | valid (logs : List LogLine)
  /-- the configuration is in order, and the monitor may start -/
  | ready (config : MonitorConfig) (logs : List LogLine)
  deriving Inhabited

namespace Outcome

/-- The exit code. -/
def code : Outcome → Nat
  | crashed => 101
  | misuse => 2
  | failed _ _ _ => 1
  | _ => 0

/-- The log lines of a run. -/
def logs : Outcome → List LogLine
  | failed logs _ _ => logs
  | valid logs => logs
  | ready _ logs => logs
  | _ => []

/-- A cause with its lines indented, after its number when there are several. -/
def causeLines (number : Option Nat) (cause : String) : List String :=
  let pieces := (Text.splitAt '\n' cause.toList).map String.ofList
  match number, pieces with
  | _, [] => []
  | none, pieces => pieces.map ("    " ++ ·)
  | some i, first :: rest =>
    ("".pushn ' ' (5 - i.repr.length) ++ i.repr ++ ": " ++ first) :: rest.map ("       " ++ ·)

/-- The lines that report a failure. -/
def report : Outcome → List String
  | failed _ summary causes =>
    let numbered :=
      match causes with
      | [cause] => causeLines none cause
      | causes => causes.zipIdx.flatMap fun c => causeLines (some c.2) c.1
    ("Error: " ++ summary) :: (if causes.isEmpty then [] else ["", "Caused by:"] ++ numbered)
  | _ => []

end Outcome

/-- The configuration file that is asked for. -/
def Options.path (o : Options) (env : Environment) : Option String := o.config.or (env "MONIC_CONFIG")

/-- Loads and checks the configuration, in an environment and with a filter for the log. -/
def check (s : Surroundings) (env : Environment) (filter : LogFilter) (o : Options) : Outcome :=
  match MonitorConfig.load s.file (o.path env) (env.configPlace? s.home) env with
  | .error f => .failed [] "Failed to load configuration" f.causes
  | .ok (c, logs) =>
    let logs := filter.shown "monic::config" logs
    match c.validate with
    | .error f => .failed logs "Invalid configuration" [f.message]
    | .ok () =>
      if o.checkConfig then
        .valid (logs ++ filter.shown "monic" [.plain .info "Configuration is valid"])
      else .ready c logs

/-- Runs the program with its arguments. -/
def run (s : Surroundings) (args : List String) : Outcome :=
  match s.fullEnvironment? with
  | none => .crashed
  | some env =>
    match Request.ofArguments args with
    | .misuse => .misuse
    | .help => .help
    | .version => .version
    | .run o =>
      if o.path env = some "" then .misuse
      else
        match LogFilter.ofSetting? (env "RUST_LOG") with
        | none => .crashed
        | some filter => check s env filter o

end HostWatch.CommandLine
