import OpticalAccess.Json5.Token

/-!
# Documents of JSON5

A document is one value. Values remember where they begin and how they were written; what texts and
numerals mean is asked for later.
-/

namespace OpticalAccess.Json5

structure Site where
  place : Position
  /-- Whether the second byte of the value lies within a character of several bytes. -/
  torn : Bool
  deriving DecidableEq, Repr

/-- Where a token begins; its first character is always a single byte. -/
def Located.site (t : Located) : Site where
  place := t.place
  torn :=
    match t.source with
    | _ :: second :: _ => 0x80 ≤ second.toNat
    | _ => false

structure Key where
  place : Position
  pieces : List Piece
  deriving Repr

inductive Node where
  | null (site : Site)
  | flag (site : Site) (value : Bool)
  | numeral (site : Site) (value : Numeral)
  | text (site : Site) (pieces : List Piece)
  | array (site : Site) (items : List Node)
  | object (site : Site) (members : List (Key × Node))
  deriving Repr

namespace Node

def site : Node → Site
  | null site => site
  | flag site _ => site
  | numeral site _ => site
  | text site _ => site
  | array site _ => site
  | object site _ => site

def place (n : Node) : Position := n.site.place

def isWord (word : String) (pieces : List Piece) : Bool := pieces = word.toList.map Piece.char

def ofToken? (t : Located) : Option Node :=
  match t.token with
  | .text pieces => some (text t.site pieces)
  | .numeral n => some (numeral t.site n)
  | .name pieces =>
    if isWord "null" pieces then some (null t.site)
    else if isWord "true" pieces then some (flag t.site true)
    else if isWord "false" pieces then some (flag t.site false)
    else if isWord "Infinity" pieces then some (numeral t.site ⟨.none, .infinity⟩)
    else if isWord "NaN" pieces then some (numeral t.site ⟨.none, .nan⟩)
    else none
  | _ => none

end Node

def Key.ofToken? (t : Located) : Option Key :=
  match t.token with
  | .name pieces => some ⟨t.place, pieces⟩
  | .text pieces => some ⟨t.place, pieces⟩
  | _ => none

/-- A container that is not closed yet; what it holds stands in reverse. -/
inductive Container where
  | array (site : Site) (items : List Node)
  | object (site : Site) (members : List (Key × Node))
  /-- An object whose last member has no value yet. -/
  | member (site : Site) (members : List (Key × Node)) (key : Key)

inductive Expecting where
  /-- A value, or the end of an array. -/
  | item
  | value
  | key
  | colon
  /-- A comma or the end of the innermost container. -/
  | separator
  | nothing
  deriving DecidableEq

/-- A document read so far: open containers, innermost first, and the value once there is one. -/
structure Draft where
  opened : List Container
  expecting : Expecting
  result : Option Node

namespace Draft

def start : Draft := ⟨[], .value, none⟩

def put (opened : List Container) (n : Node) : Option Draft :=
  match opened with
  | [] => some ⟨[], .nothing, some n⟩
  | .array site items :: outer => some ⟨.array site (n :: items) :: outer, .separator, none⟩
  | .member site members key :: outer =>
    some ⟨.object site ((key, n) :: members) :: outer, .separator, none⟩
  | .object .. :: _ => none

def closeArray : List Container → Option Draft
  | .array site items :: outer => put outer (.array site items.reverse)
  | _ => none

def closeObject : List Container → Option Draft
  | .object site members :: outer => put outer (.object site members.reverse)
  | _ => none

def beginValue (opened : List Container) (t : Located) : Option Draft :=
  match t.token with
  | .openArray => some ⟨.array t.site [] :: opened, .item, none⟩
  | .openObject => some ⟨.object t.site [] :: opened, .key, none⟩
  | _ => (Node.ofToken? t).bind (put opened)

/-- Takes one token; none if it may not stand here. -/
def step (d : Draft) (t : Located) : Option Draft :=
  match d.expecting with
  | .value => beginValue d.opened t
  | .item => if t.token = .closeArray then closeArray d.opened else beginValue d.opened t
  | .key =>
    if t.token = .closeObject then closeObject d.opened
    else
      match d.opened, Key.ofToken? t with
      | .object site members :: outer, some key =>
        some ⟨.member site members key :: outer, .colon, none⟩
      | _, _ => none
  | .colon => if t.token = .colon then some { d with expecting := .value } else none
  | .separator =>
    match d.opened, t.token with
    | .array .. :: _, .comma => some { d with expecting := .item }
    | .array .. :: _, .closeArray => closeArray d.opened
    | .object .. :: _, .comma => some { d with expecting := .key }
    | .object .. :: _, .closeObject => closeObject d.opened
    | _, _ => none
  | .nothing => none

end Draft

/-- Takes tokens one by one; none if one of them is not expected. -/
def Draft.run (d : Draft) (tokens : List Located) : Option Draft := tokens.foldlM Draft.step d

def Node.ofRow? (r : Row) : Option Node :=
  if r.rest.isEmpty then (Draft.start.run r.tokens).bind Draft.result else none

end OpticalAccess.Json5
