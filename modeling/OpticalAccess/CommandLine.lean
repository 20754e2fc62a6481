/-!
# Command lines

A node is told where its configuration is by the option `--config FILE`, also written `-c FILE`,
`--config=FILE` or `-cFILE`. A value that stands alone is taken only when the next option or the end
is reached, so that an argument that means nothing is reported before what is wrong with the value.
-/

namespace OpticalAccess

inductive UsageError where
  | unknownArgument
  /-- An option has no value, or an empty one. -/
  | invalidValue
  | repeatedOption
  /-- A value stands at an option that takes none. -/
  | unneededValue
  | missingConfig
  deriving DecidableEq, Repr

def UsageError.message : UsageError → String
  | unknownArgument => "unexpected argument found"
  | invalidValue => "a value is required for '--config <FILE>' but none was supplied"
  | repeatedOption => "the argument '--config <FILE>' cannot be used multiple times"
  | unneededValue => "unexpected value for '--help' found; no more were expected"
  | missingConfig => "the following required arguments were not provided: --config <FILE>"

inductive CommandLine where
  | serve (config : String)
  | help
  deriving DecidableEq, Repr

namespace CommandLine

inductive Argument where
  /-- Two dashes alone: no option follows. -/
  | divider
  | long (name : List Char) (value : Option (List Char))
  | short (letters : List Char)
  | plain (value : List Char)
  deriving DecidableEq, Repr

def splitValue (s : List Char) : List Char × Option (List Char) :=
  match s.dropWhile (· ≠ '=') with
  | [] => (s, none)
  | _ :: value => (s.takeWhile (· ≠ '='), some value)

/-- A dash alone is no option. -/
def Argument.ofChars : List Char → Argument
  | ['-', '-'] => divider
  | '-' :: '-' :: rest => let (name, value) := splitValue rest; long name value
  | ['-'] => plain ['-']
  | '-' :: letters => short letters
  | value => plain value

inductive Named where
  | nothing
  | option
  | value (value : List Char)
  deriving DecidableEq, Repr

structure State where
  config : Option (List Char) := none
  named : Named := .nothing
  deriving DecidableEq, Repr

inductive Stop where
  | help
  | misuse (error : UsageError)
  deriving DecidableEq, Repr

namespace State

def set (s : State) (value : List Char) : Except Stop State :=
  if s.config.isSome then .error (.misuse .repeatedOption)
  else if value.isEmpty then .error (.misuse .invalidValue)
  else .ok { config := some value }

def take (s : State) : Except Stop State :=
  match s.named with
  | .nothing => .ok s
  | .option => .error (.misuse .invalidValue)
  | .value value => s.set value

/-- Names the option; its value stands alone, or has been given with it. -/
def nameOption (s : State) (value : Option (List Char)) : Except Stop State := do
  let s ← s.take
  match value with
  | none => return { s with named := .option }
  | some value => s.set value

def help (s : State) : Except Stop State := do
  let _ ← s.take
  throw .help

def long (s : State) (name : List Char) (value : Option (List Char)) : Except Stop State :=
  if name = "config".toList then s.nameOption value
  else if name = "help".toList then
    if value.isSome then .error (.misuse .unneededValue) else s.help
  else .error (.misuse .unknownArgument)

/-- Letters stand for options up to the first that takes a value, which is the rest. -/
def short (s : State) : List Char → Except Stop State
  | ['c'] => s.nameOption none
  | 'c' :: '=' :: value => s.nameOption (some value)
  | 'c' :: value => s.nameOption (some value)
  | 'h' :: _ => s.help
  | _ => .error (.misuse .unknownArgument)

/-- An argument that is no option is a value, if one is expected. -/
def plain (s : State) (value : List Char) : Except Stop State :=
  if s.named = .option then .ok { s with named := .value value }
  else .error (.misuse .unknownArgument)

def read (s : State) : List (List Char) → Except Stop State
  | [] => s.take
  | argument :: rest =>
    match Argument.ofChars argument with
    | .divider => if rest.isEmpty then s.take else .error (.misuse .unknownArgument)
    | .long name value => do (← s.long name value).read rest
    | .short letters => do (← s.short letters).read rest
    | .plain value => do (← s.plain value).read rest

end State

def parse (arguments : List String) : Except UsageError CommandLine :=
  match State.read {} (arguments.map String.toList) with
  | .error .help => .ok .help
  | .error (.misuse error) => .error error
  | .ok s =>
    match s.config with
    | some path => .ok (.serve (String.ofList path))
    | none => .error .missingConfig

end CommandLine
end OpticalAccess
