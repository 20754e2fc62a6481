import OpticalAccess.Json5.Node

/-!
# How far a malformed document was read

A malformed document is reported at the last place where one of the named parts of the language was
looked for in vain: a value of some kind, a key, a character of a text, an escape, the end. Colons,
commas and brackets are not named parts, so that a document that lacks one is reported further up.
-/

namespace OpticalAccess.Json5

namespace Reach

/--
The last miss in a text behind its opening quote. A backslash is followed by an escape of a single
character if it can be, so that one is missed before a line end, a digit, an `x` and a `u`.
-/
def inText (quote : Char) : Position → Option Position → List Char → Option Position
  | place, _, [] => some place
  | place, _, ['\\'] => some (place.next '\\')
  | place, missed, '\\' :: c :: rest =>
    let escape := place.next '\\'
    let digits := escape.next c
    if c = 'x' then
      match rest with
      | d0 :: d1 :: rest =>
        if [d0, d1].all Digits.isHex then
          inText quote (digits.after [d0, d1]) (some escape) rest
        else some digits
      | _ => some digits
    else if c = 'u' then
      match rest with
      | d0 :: d1 :: d2 :: d3 :: rest =>
        if [d0, d1, d2, d3].all Digits.isHex then
          inText quote (digits.after [d0, d1, d2, d3]) (some escape) rest
        else some digits
      | _ => some digits
    else if '1' ≤ c && c ≤ '9' then some escape
    else if c = '0' || isLineEnd c then
      match c, rest with
      | '\r', '\n' :: rest => inText quote (digits.next '\n') (some escape) rest
      | _, rest => inText quote digits (some escape) rest
    else inText quote digits missed rest
  | place, missed, c :: rest =>
    if c = quote then missed
    else if isLineEnd c then some place
    else inText quote (place.next c) missed rest

/-- The miss in a name: an escape without its digits. -/
def inName : Position → List Char → Option Position
  | place, '\\' :: 'u' :: rest =>
    let digits := place.after ['\\', 'u']
    match rest with
    | d0 :: d1 :: d2 :: d3 :: rest =>
      if [d0, d1, d2, d3].all Digits.isHex then inName (digits.after [d0, d1, d2, d3]) rest
      else some digits
    | _ => some digits
  | place, c :: rest => if Identifier.isPart c then inName (place.next c) rest else none
  | _, [] => none

/-- The last miss where a value is looked for; null is looked for first. -/
def atValue (outermost : Bool) (place : Position) (source : List Char) : Option Position :=
  if "null".toList.isPrefixOf source then
    if outermost then some (place.after "null".toList) else none
  else
    match source with
    | '"' :: rest => (inText '"' (place.next '"') none rest).or (some place)
    | '\x27' :: rest => (inText '\x27' (place.next '\x27') none rest).or (some place)
    | _ => some place

/-- The last miss where a key is looked for; a name is looked for first. -/
def atKey (place : Position) (source : List Char) : Option Position :=
  match source with
  | '"' :: rest => (inText '"' (place.next '"') none rest).or (some place)
  | '\x27' :: rest => (inText '\x27' (place.next '\x27') none rest).or (some place)
  | '\\' :: 'u' :: _ => inName place source
  | c :: _ => if Identifier.isStart c then inName place source else some place
  | [] => some place

def meet (d : Draft) (place : Position) (source : List Char) : Option Position :=
  match d.expecting, d.opened, source with
  -- An empty container is closed without a look at what it might hold.
  | .item, .array _ [] :: _, ']' :: _ => none
  | .key, .object _ [] :: _, '\x7d' :: _ => none
  | .item, _, _ | .value, _, _ => atValue d.opened.isEmpty place source
  | .key, _, _ => atKey place source
  | .colon, _, _ | .separator, _, _ => none
  | .nothing, _, _ => some place

def search (d : Draft) (missed : Position) (r : Row) : List Located → Position
  | [] => (meet d r.place r.rest).getD missed
  | t :: rest =>
    let missed := (meet d t.place t.source).getD missed
    match d.step t with
    | none => missed
    | some d => search d missed r rest

end Reach

/-- The value of a document; the error is the place to which a malformed one was read. -/
def Node.parse (s : String) : Except Position Node :=
  let r := row s.toList
  match Node.ofRow? r with
  | some n => .ok n
  | none => .error (Reach.search Draft.start .start r r.tokens)

end OpticalAccess.Json5
