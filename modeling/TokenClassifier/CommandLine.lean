import TokenClassifier.Rules.Document
import TokenClassifier.Run

/-!
# The command line

The program takes one configuration file. It classifies the tokens of its standard input, or,
with `--check`, only tells whether the configuration can be used. `--version` goes before
everything else that is well formed.

What an invocation does is a function of its arguments, the files it may read and its standard
input. An argument after `--` is a file name whatever it looks like.
-/

namespace TokenClassifier.CommandLine

/-! ## Arguments -/

/-- What the arguments ask for. -/
structure Request where
  version : Bool := false
  check : Bool := false
  paths : List String := []
  deriving DecidableEq, Repr

/-- Why arguments are refused. -/
inductive UsageError where
  /-- An option that does not exist. -/
  | unexpected (option : String)
  /-- A value for an option that takes none. -/
  | unexpectedValue (option value : String)
  /-- An option given twice. -/
  | repeated (option : String)
  deriving DecidableEq, Repr

/-- A usage error in words. -/
def UsageError.message : UsageError → String
  | .unexpected option => "error: unexpected argument '" ++ option ++ "' found"
  | .unexpectedValue option value =>
    "error: unexpected value '" ++ value ++ "' for '" ++ option ++
      "' found; no more were expected"
  | .repeated option =>
    "error: the argument '" ++ option ++ "' cannot be used multiple times"

/-- What comes of reading arguments: a request, a request for help, or a refusal. -/
inductive Arguments where
  | request (r : Request)
  | help
  | refused (e : UsageError)
  deriving DecidableEq, Repr

/-- Splits a long option at its equals sign. -/
def splitOption (cs : List Char) : List Char × Option (List Char) :=
  match cs.span (· != '=') with
  | (name, _ :: value) => (name, some value)
  | (name, []) => (name, none)

/-- Takes a long option, given without its hyphens. -/
def takeLong (r : Request) (cs : List Char) : Except Arguments Request :=
  let (name, value) := splitOption cs
  let option := "--" ++ String.ofList name
  if option ∉ ["--version", "--check", "--help"] then .error (.refused (.unexpected option))
  else
    match value with
    | some value => .error (.refused (.unexpectedValue option (String.ofList value)))
    | none =>
      if option = "--help" then .error .help
      else if option = "--version" then
        if r.version then .error (.refused (.repeated option)) else .ok { r with version := true }
      else if r.check then .error (.refused (.repeated option))
      else .ok { r with check := true }

/-- Reads arguments from left to right. -/
def readArguments (r : Request) : List String → Arguments
  | [] => .request r
  | arg :: rest =>
    match arg.toList with
    | '-' :: '-' :: [] => .request { r with paths := r.paths ++ rest }
    | '-' :: '-' :: option =>
      match takeLong r option with
      | .ok r => readArguments r rest
      | .error outcome => outcome
    | '-' :: 'h' :: _ => .help
    | '-' :: c :: _ => .refused (.unexpected ("-" ++ String.singleton c))
    | _ => readArguments { r with paths := r.paths ++ [arg] } rest

/-! ## Files -/

/-- What a file name leads to: the bytes of a file, or the reason why there are none. -/
abbrev Files := String → Except String (List UInt8)

/-- Why an invocation fails after its arguments are accepted. -/
inductive Failure where
  /-- A file that cannot be read, or is no text. -/
  | unreadable (path reason : String)
  /-- A file without a record. -/
  | undecodable (path : String) (e : DecodeError)
  | compile (e : CompileError)
  | run (e : RunError)
  deriving DecidableEq, Repr

/-- The message of an error in a configuration's text, up to the place where it is explained. -/
def decodeMessage (origin : String) : String := "failed to parse config " ++ origin ++ ": "

/-- A failure in words. -/
def Failure.message : Failure → String
  | .unreadable path reason => "failed to read config file " ++ path ++ ": " ++ reason
  | .undecodable path _ => decodeMessage path
  | .compile e => e.message
  | .run e => e.message

/-- Why bytes are no text. -/
def notText : String := "stream did not contain valid UTF-8"

/-- Reads and compiles a configuration. -/
def load (files : Files) (path : String) : Except Failure CompiledRules :=
  match files path with
  | .error reason => .error (.unreadable path reason)
  | .ok bytes =>
    match Utf8.decode? bytes with
    | none => .error (.unreadable path notText)
    | some text =>
      match RuleSet.ofText (String.ofList text) with
      | .error e => .error (.undecodable path e)
      | .ok rules => (compile rules).mapError .compile

/-! ## Invocations -/

/-- What an invocation leaves behind: its exit code, its standard output, and for an error its
message and whether the usage follows it. -/
structure Response where
  code : Nat := 0
  output : List UInt8 := []
  message : Option String := none
  usage : Bool := false
  deriving DecidableEq, Repr

/-- How the program is used. -/
def usage : String := "Usage: re-classify [OPTIONS] [config.yaml]..."

/-- The help text. -/
def help : String :=
  "Classifies tokens using the regex patterns in a YAML configuration\n\n" ++ usage ++
    "\n\nArguments:\n  [config.yaml]...  Path to the YAML rule configuration\n\nOptions:\n" ++
    "      --version  Show version information\n" ++
    "      --check    Validate configuration syntax only (don't process input)\n" ++
    "  -h, --help     Print help\n\nTokens are read from stdin, one per line, and one " ++
    "classification is written to stdout for each non-blank line.\n"

/-- The answer to `--version`. -/
def versionLine : String := "re-classify version 0.1.0\n"

/-- The answer to `--check` for a configuration that can be used. -/
def checkedLine : String := "Configuration syntax is valid\n"

/-- The response to a failure. -/
def Failure.response (e : Failure) (output : List UInt8) : Response :=
  { code := 1, output, message := some ("Error: " ++ e.message) }

/-- Checks a configuration, start and end patterns included. -/
def checkFile (files : Files) (path : String) : Response :=
  match load files path with
  | .error e => e.response []
  | .ok rules =>
    match rules.bind [] with
    | .error e => (Failure.run (.pattern e)).response []
    | .ok _ => { output := Utf8.ofString checkedLine }

/-- Classifies the tokens of an input. -/
def classifyInput (files : Files) (path : String) (input : Input) : Response :=
  match load files path with
  | .error e => e.response []
  | .ok rules =>
    match rules.run input {} with
    | (.error e, sink) => (Failure.run e).response sink.taken.toList
    | (.ok _, sink) => { output := sink.taken.toList }

/-- Answers a request. -/
def Request.answer (r : Request) (files : Files) (input : Input) : Response :=
  if r.version then { output := Utf8.ofString versionLine }
  else
    match r.paths with
    | [path] => if r.check then checkFile files path else classifyInput files path input
    | _ =>
      { code := 1, message := some "Error: exactly one config file must be specified"
        usage := true }

/-- Answers an invocation. -/
def answer (args : List String) (files : Files) (input : Input) : Response :=
  match readArguments {} args with
  | .request r => r.answer files input
  | .help => { output := Utf8.ofString help }
  | .refused e => { code := 2, message := some e.message, usage := true }

end TokenClassifier.CommandLine
