namespace Dialogue

structure ConsoleOptions where
  logLevel : Option String := none
  session : Option String := none
  locale : Option String := none
  workflow : Option String := none
  directory : Option String := none
  metrics : Bool := false
deriving DecidableEq

/-- What the program does: run, show a text and end, or refuse the arguments. -/
inductive Invocation where
  | run (o : ConsoleOptions)
  | show (text : String)
  | refuse (message : String)
deriving DecidableEq

namespace CommandLine

inductive Valued where
  | logLevel | session | locale | workflow | directory
deriving DecidableEq

inductive Flag where
  | valued (v : Valued)
  | metrics
  | help
  | version
deriving DecidableEq

def longNames : List (String × Flag) := [
  ("log-level", .valued .logLevel), ("session", .valued .session), ("locale", .valued .locale),
  ("workflow", .valued .workflow), ("directory", .valued .directory), ("metrics", .metrics),
  ("help", .help), ("version", .version)]

def shortNames : List (Char × Flag) := [
  ('l', .valued .logLevel), ('s', .valued .session), ('w', .valued .workflow), ('h', .help),
  ('V', .version)]

def helpText : String := String.join (([
  "Drive an onboarding conversation from the terminal",
  "",
  "Usage: onboarding-bot [OPTIONS]",
  "",
  "Options:",
  "  -l, --log-level <LOG_LEVEL>  Log level (debug, info, warn, error) [default: info]",
  "  -s, --session <SESSION>      Session key to resume; a fresh one is generated when omitted",
  "      --locale <LOCALE>        Locale for messages (defaults to DEFAULT_LOCALE)",
  "  -w, --workflow <WORKFLOW>    Workflow to start right away",
  "      --directory <DIRECTORY>  YAML list of taxpayer records, used when no verification " ++
    "gateway is configured",
  "      --metrics                Print metrics on exit",
  "  -h, --help                   Print help",
  "  -V, --version                Print version"] : List String).map (· ++ "\n"))

def versionText : String := "onboarding-engine 0.1.0\n"

def valueOf (o : ConsoleOptions) : Valued → Option String
  | .logLevel => o.logLevel
  | .session => o.session
  | .locale => o.locale
  | .workflow => o.workflow
  | .directory => o.directory

def setValue (o : ConsoleOptions) (value : String) : Valued → ConsoleOptions
  | .logLevel => { o with logLevel := some value }
  | .session => { o with session := some value }
  | .locale => { o with locale := some value }
  | .workflow => { o with workflow := some value }
  | .directory => { o with directory := some value }

def give (o : ConsoleOptions) (v : Valued) (value : String) : Except Invocation ConsoleOptions :=
  if (valueOf o v).isSome then .error (.refuse "an option was given more than once")
  else if v = .directory ∧ value.isEmpty then .error (.refuse "an option lacks its value")
  else .ok (setValue o value v)

def raise (o : ConsoleOptions) : Flag → Except Invocation ConsoleOptions
  | .help => .error (.show helpText)
  | .version => .error (.show versionText)
  | .metrics =>
    if o.metrics then .error (.refuse "an option was given more than once")
    else .ok { o with metrics := true }
  | .valued _ => .error (.refuse "an option lacks its value")

/-- What a single argument leads to: options, or an option that waits for its value. -/
abbrev Step := Except Invocation (ConsoleOptions × Option Valued)

def letters (o : ConsoleOptions) : List Char → Step
  | [] => .ok (o, none)
  | c :: rest =>
    match shortNames.lookup c with
    | none => .error (.refuse "unexpected argument")
    | some (.valued v) =>
      match rest with
      | [] => .ok (o, some v)
      | '=' :: value => (give o v (String.ofList value)).map (·, none)
      | value => (give o v (String.ofList value)).map (·, none)
    | some flag =>
      match raise o flag with
      | .ok o => letters o rest
      | .error i => .error i

def word (o : ConsoleOptions) (cs : List Char) : Step :=
  let name := cs.takeWhile (· ≠ '=')
  match longNames.lookup (String.ofList name), cs.drop name.length with
  | none, _ => .error (.refuse "unexpected argument")
  | some (.valued v), [] => .ok (o, some v)
  | some (.valued v), _ :: value => (give o v (String.ofList value)).map (·, none)
  | some flag, [] => (raise o flag).map (·, none)
  | some _, _ :: _ => .error (.refuse "unexpected value")

def argument (o : ConsoleOptions) (arg : String) : Step :=
  match arg.toList with
  | '-' :: '-' :: cs => word o cs
  | '-' :: c :: cs => letters o (c :: cs)
  | _ => .error (.refuse "unexpected argument")

def isValue (arg : String) : Bool :=
  match arg.toList with
  | '-' :: _ :: _ => false
  | _ => true

/-- Reads arguments from left to right; `waiting` is an option that has yet no value. -/
def read (o : ConsoleOptions) (waiting : Option Valued) : List String → Invocation
  | [] =>
    match waiting with
    | none => .run o
    | some _ => .refuse "an option lacks its value"
  | arg :: rest =>
    match waiting with
    | some v =>
      if isValue arg then
        match give o v arg with
        | .ok o => read o none rest
        | .error i => i
      else .refuse "an option lacks its value"
    | none =>
      if arg = "--" then if rest.isEmpty then .run o else .refuse "unexpected argument"
      else match argument o arg with
        | .ok (o, waiting) => read o waiting rest
        | .error i => i

end CommandLine

def Invocation.ofArguments (args : List String) : Invocation := CommandLine.read {} none args

end Dialogue
