import HostWatch.Text.Blank
set_option autoImplicit false

/-!
# Command line: the arguments

    -c FILE, --config FILE   the configuration file
    --check-config           check the configuration and stop
    --log-json               write the log as JSON
    -h, --help               say how the program is used
    -V, --version            say which version it is

The file may also be written as `-cFILE`, `-c=FILE` or `--config=FILE`.  It is not empty,
and stands on its own only if it does not look like an option.  Nothing may be given twice,
and there are no other arguments.  Arguments are read from the left: the first that asks
for help or the version, or breaks a rule, decides.
-/

namespace HostWatch.CommandLine

open HostWatch.Text

/-- What the arguments choose. -/
structure Options where
  config : Option String
  checkConfig : Bool
  logJson : Bool
  deriving DecidableEq, Repr, Inhabited

/-- Nothing is chosen. -/
def Options.none : Options := ⟨.none, false, false⟩

/-- What the arguments ask for. -/
inductive Request where
  /-- they break a rule -/
  | misuse
  | help
  | version
  | run (options : Options)
  deriving DecidableEq, Repr, Inhabited

/-- What a single argument asks for. -/
inductive Argument where
  /-- the configuration file -/
  | config (path : String)
  /-- the configuration file, which the next argument names -/
  | configNext
  | checkConfig
  | logJson
  | help
  | version
  /-- the end of the options -/
  | ending
  | unknown
  deriving DecidableEq, Repr, Inhabited

namespace Argument

/-- An argument with two dashes, after them. -/
def ofLong (body : String) : Argument :=
  if body = "" then .ending
  else if body = "config" then .configNext
  else if body = "check-config" then .checkConfig
  else if body = "log-json" then .logJson
  else if body = "help" then .help
  else if body = "version" then .version
  else
    match afterFront? "config=" body with
    | some path => .config path
    | none => .unknown

/-- An argument with one dash, after it. -/
def ofShort : List Char → Argument
  | ['c'] => .configNext
  | 'c' :: '=' :: path => .config (String.ofList path)
  | 'c' :: path => .config (String.ofList path)
  | 'h' :: _ => .help
  | 'V' :: _ => .version
  | _ => .unknown

/-- One argument. -/
def read (text : String) : Argument :=
  match text.toList with
  | '-' :: '-' :: body => ofLong (String.ofList body)
  | '-' :: body => ofShort body
  | _ => .unknown

end Argument

/-- A value that stands on its own: it does not begin with a dash, unless it is one. -/
def isValue (text : String) : Bool := text = "-" || !startsWith text "-"

namespace Options

/-- Chooses the file, once. -/
def withConfig (o : Options) (path : String) : Option Options :=
  if path.isEmpty || o.config.isSome then .none else some { o with config := some path }

/-- The options after the arguments that are left. -/
def request (o : Options) : List String → Request
  | [] => .run o
  | text :: rest =>
    match Argument.read text with
    | .config path =>
      match o.withConfig path with
      | some o => request o rest
      | .none => .misuse
    | .configNext =>
      match rest with
      | [] => .misuse
      | path :: rest =>
        if isValue path then
          match o.withConfig path with
          | some o => request o rest
          | .none => .misuse
        else .misuse
    | .checkConfig =>
      if o.checkConfig then .misuse else request { o with checkConfig := true } rest
    | .logJson => if o.logJson then .misuse else request { o with logJson := true } rest
    | .help => .help
    | .version => .version
    | .ending => if rest.isEmpty then .run o else .misuse
    | .unknown => .misuse

end Options

/-- What a list of arguments asks for. -/
def Request.ofArguments (args : List String) : Request := Options.none.request args

end HostWatch.CommandLine
