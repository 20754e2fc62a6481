import OpticalAccess.ChildTransport
import OpticalAccess.Json.Quoted
import OpticalAccess.Json.Token

/-!
# Transports in JSON

A transport is read from the tokens of a text and written as an object without blanks.
-/

namespace OpticalAccess.ChildTransport

open Json (Token Tokens)

inductive JsonError where
  | format (error : Json.Error)
  | problem (reason : Problem)
  deriving DecidableEq, Repr

def JsonError.message : JsonError → String
  | .format error => error.message
  | .problem reason => reason.message .json

/-- Takes one token; if there is none, the text is not well-formed. -/
def takeToken (tokens : Tokens) : Except JsonError (Token × Tokens) :=
  match tokens.list, tokens.error with
  | token :: rest, _ => .ok (token, { tokens with list := rest })
  | [], some error => .error (.format error)
  | [], none => .error (.format .endOfValue)

def foundOf : Token → Found
  | .null => .unit
  | .flag value => .flag value
  | .number (.integer n) => .integer n
  | .number (.double x) => .double x
  | .text s => .text s
  | .key s => .text s
  | .beginArray | .endArray => .sequence
  | .beginObject | .endObject => .map

mutual

def takeValue : (fuel : Nat) → Token → Tokens → Except JsonError (Content × Tokens)
  | 0, _, _ => .error (.format .tooDeep)
  | fuel + 1, token, tokens =>
    match token with
    | .null => .ok (.unit, tokens)
    | .flag value => .ok (.flag value, tokens)
    | .number (.integer n) => .ok (.integer n, tokens)
    | .number (.double x) => .ok (.double x, tokens)
    | .text s => .ok (.text s, tokens)
    | .beginArray => do
      let (items, tokens) ← takeItems fuel tokens
      return (.sequence items, tokens)
    | .beginObject => do
      let (members, tokens) ← takeMembers fuel tokens
      return (.map members, tokens)
    | .key _ | .endArray | .endObject => .error (.format .expectedValue)

def takeItems : (fuel : Nat) → Tokens → Except JsonError (List Content × Tokens)
  | 0, _ => .error (.format .tooDeep)
  | fuel + 1, tokens => do
    let (token, tokens) ← takeToken tokens
    if token = .endArray then return ([], tokens)
    let (item, tokens) ← takeValue fuel token tokens
    let (items, tokens) ← takeItems fuel tokens
    return (item :: items, tokens)

def takeMembers : (fuel : Nat) → Tokens → Except JsonError (List (String × Content) × Tokens)
  | 0, _ => .error (.format .tooDeep)
  | fuel + 1, tokens => do
    let (token, tokens) ← takeToken tokens
    match token with
    | .key name =>
      let (first, tokens) ← takeToken tokens
      let (value, tokens) ← takeValue fuel first tokens
      let (members, tokens) ← takeMembers fuel tokens
      return ((name, value) :: members, tokens)
    | _ => return ([], tokens)

end

def takeMode (tokens : Tokens) : Except JsonError (Mode × Tokens) := do
  let (token, tokens) ← takeToken tokens
  match token with
  | .text s =>
    match Mode.ofLabel s with
    | .ok mode => return (mode, tokens)
    | .error problem => throw (.problem problem)
  | token => throw (.problem (.wrongType (foundOf token) "variant identifier"))

/-- Finds the mode among the members of an object; the others keep their order. -/
def takeTagged : (fuel : Nat) → Option Mode → Tokens →
    Except JsonError (Option Mode × List (String × Content) × Tokens)
  | 0, _, _ => .error (.format .tooDeep)
  | fuel + 1, mode, tokens => do
    let (token, tokens) ← takeToken tokens
    match token with
    | .key name =>
      if name = "mode" then
        if mode.isSome then throw (.problem (.duplicateField name))
        let (found, tokens) ← takeMode tokens
        takeTagged fuel (some found) tokens
      else
        let (first, tokens) ← takeToken tokens
        let (value, tokens) ← takeValue fuel first tokens
        let (mode, members, tokens) ← takeTagged fuel mode tokens
        return (mode, (name, value) :: members, tokens)
    | _ => return (mode, [], tokens)

def ofJson (text : String) : Except JsonError ChildTransport := do
  let tokens := Json.tokens text
  -- A token is spent on every second step.
  let fuel := 2 * tokens.list.length + 2
  let (token, tokens) ← takeToken tokens
  let (mode, parts, tokens) ← match token with
    | .beginObject => do
      let (mode, members, tokens) ← takeTagged fuel none tokens
      pure (mode, Content.map members, tokens)
    | .beginArray => do
      if tokens.list.head? = some .endArray then pure (none, Content.sequence [], tokens)
      else
        let (mode, tokens) ← takeMode tokens
        let (items, tokens) ← takeItems fuel tokens
        pure (some mode, Content.sequence items, tokens)
    | token => throw (.problem (.wrongType (foundOf token) typeName))
  match mode with
  | none => throw (.problem (.missingField "mode"))
  | some mode =>
    match ofParts mode parts with
    | .error problem => throw (.problem problem)
    | .ok transport =>
      match tokens.error with
      | some error => throw (.format error)
      | none => return transport

def jsonChars : ChildTransport → List Char
  | plaintext => Json.object [("mode", Json.quote "plaintext")]
  | tls caCertificate domainName =>
    Json.object [("mode", Json.quote "tls"), ("ca_certificate", Json.quote caCertificate),
      ("domain_name", Json.quote domainName)]

def json (t : ChildTransport) : String := String.ofList t.jsonChars

end OpticalAccess.ChildTransport
