import OpticalAccess.Proofs.Json5.Bare
import OpticalAccess.Proofs.Json5.Numerals
import OpticalAccess.Proofs.Json5.Texts
import Mathlib.Data.List.Forall2
import Mathlib.Logic.Relation

/-!
# Documents as JSON writes them

What is written as JSON without blanks is read as the value that was written. A reader goes from
token to token; the characters of a value lead it from where a value may stand to behind the value.
-/

namespace OpticalAccess.Json5

/-! ### Values -/

def Node.ofText (s : String) : Node := .text nowhere (s.toList.map pieceOf)

def Node.ofInt (n : Int) : Node := .numeral nowhere (.ofInt n)

def Key.ofName (name : String) : Key := ⟨.start, name.toList.map pieceOf⟩

def Node.member (field : String × Node) : Key × Node := (Key.ofName field.1, field.2)

def Node.record (fields : List (String × Node)) : Node := .object nowhere (fields.map member)

@[simp] theorem Key.text_ofName (name : String) : (ofName name).text = .ok name := by
  simp [Key.text, ofName, textOf, decode_pieceOf]

theorem Key.text_of_bare {k : Key} {name : String} (bare : k.bare = ofName name) :
    k.text = .ok name := by
  have same := k.text_bare
  rw [bare, text_ofName] at same
  exact toOption_eq_some.mp same.symm

/-- A record is an object with a member for each field, wherever they stand. -/
theorem Node.exists_of_bare_record {m : Node} {fields : List (String × Node)}
    (bare : m.bare = .record fields) :
    ∃ site members, m = .object site members ∧
      List.Forall₂ (fun member field => member.1.bare = .ofName field.1 ∧ member.2.bare = field.2)
        members fields := by
  cases m with
  | object site members =>
    simp only [Node.bare, record, object.injEq, bareMembers_eq, true_and] at bare
    have both : List.Forall₂ Eq (members.map bareMember) (fields.map member) :=
      bare ▸ List.forall₂_refl _
    rw [List.forall₂_map_left_iff, List.forall₂_map_right_iff] at both
    exact ⟨site, members, rfl, both.imp fun _ _ same => Prod.mk.inj same⟩
  | _ => simp [Node.bare, record] at bare

@[simp] theorem Node.asText_ofText (s : String) : (ofText s).asText = .ok s := by
  simp [asText, ofText, textOf, decode_pieceOf]

@[simp] theorem Node.content_ofText (s : String) : (ofText s).content = .ok (.text s) := by
  simp [content, ofText, textOf, decode_pieceOf, Except.map]

/-- An integer is read as what it is, if it is exact and in range. -/
theorem Node.asInteger_ofInt {n low high : Int} (small : n.natAbs ≤ 2 ^ 53) (lower : low ≤ n)
    (upper : n ≤ high) : (ofInt n).asInteger low high = .ok n := by
  obtain ⟨x, read, exact⟩ := Numeral.toDouble_ofInt small lower upper
  simp [asInteger, ofInt, read, exact]

/-! ### Lexemes -/

/-- A character that begins neither a blank, a comment, a text, a numeral nor a name. -/
def IsMark (c : Char) : Prop :=
  isBlank c = false ∧ c ≠ '/' ∧ (c = '"' || c = '\x27') = false ∧
    (Digits.isDecimal c || c = '.' || c = '+' || c = '-') = false ∧
    (Identifier.isStart c || c = '\\') = false

instance (c : Char) : Decidable (IsMark c) :=
  inferInstanceAs (Decidable (_ ∧ _))

theorem isMark_of_mem {c : Char} (mark : c ∈ ['[', ']', '\x7b', '\x7d', ':', ',']) : IsMark c := by
  simp only [List.mem_cons, List.not_mem_nil, or_false] at mark
  obtain rfl | rfl | rfl | rfl | rfl | rfl := mark <;> decide +kernel

theorem lexeme?_mark {c : Char} {t : Token} (mark : IsMark c)
    (punctuation : punctuation? c = some t) (rest : List Char) :
    lexeme? (c :: rest) = some ⟨some t, [c], rest⟩ := by
  obtain ⟨blank, slash, quoted, number, name⟩ := mark
  unfold lexeme?
  simp only [blank, slash, quoted, number, name, punctuation, if_false, Bool.false_eq_true,
    Option.map_some]

theorem splitName_cons {c : Char} (plain : c ≠ '\\') (rest : List Char) :
    splitName (c :: rest) =
      if Identifier.isPart c then (c :: (splitName rest).1, (splitName rest).2)
      else ([], c :: rest) := by
  simp [splitName, plain]

theorem splitName_delimited {rest : List Char} (delimited : Delimited rest) :
    splitName rest = ([], rest) := by
  cases rest with
  | nil => rfl
  | cons c rest =>
    obtain ⟨plain, no_part⟩ : c ≠ '\\' ∧ Identifier.isPart c = false := by
      obtain rfl | rfl | rfl := delimited_head delimited <;> decide +kernel
    rw [splitName_cons plain, if_neg (by simp [no_part])]

theorem lexeme?_null {rest : List Char} (delimited : Delimited rest) :
    lexeme? ("null".toList ++ rest) =
      some ⟨some (.name ("null".toList.map Piece.char)), "null".toList, rest⟩ := by
  have word : "null".toList = ['n', 'u', 'l', 'l'] := rfl
  have letters : Identifier.isPart 'n' = true ∧ Identifier.isPart 'u' = true ∧
      Identifier.isPart 'l' = true := by decide
  have split : splitName ('n' :: 'u' :: 'l' :: 'l' :: rest) = (['n', 'u', 'l', 'l'], rest) := by
    simp [splitName_cons, letters, splitName_delimited delimited]
  have read : pieces ['n', 'u', 'l', 'l'] = some (['n', 'u', 'l', 'l'].map Piece.char) := by decide
  have begins : isBlank 'n' = false ∧ Digits.isDecimal 'n' = false ∧
      Identifier.isStart 'n' = true := by decide
  rw [word]
  unfold lexeme?
  simp [begins, split, read]

/-! ### From token to token -/

/-- A document that is read up to some place. -/
structure Cursor where
  draft : Draft
  place : Position
  rest : List Char

namespace Cursor

/-- Takes one token, which is written with some characters. -/
inductive Step : Cursor → Cursor → Prop where
  | token {d next : Draft} {place : Position} {token : Token} {written rest : List Char}
      (nonempty : written ≠ [])
      (lexeme : lexeme? (written ++ rest) = some ⟨some token, written, rest⟩)
      (taken : d.step ⟨token, place, written ++ rest⟩ = some next) :
      Step ⟨d, place, written ++ rest⟩ ⟨next, place.after written, rest⟩

abbrev Leads : Cursor → Cursor → Prop := Relation.ReflTransGen Step

end Cursor

/-- The value that a reader comes to with the tokens of a row. -/
def Draft.finish (d : Draft) (r : Row) : Option Node :=
  if r.rest.isEmpty then (d.run r.tokens).bind Draft.result else none

theorem Cursor.Step.finish {a b : Cursor} (step : Step a b) {fuel : Nat}
    (enough : a.rest.length ≤ fuel) :
    ∃ fuel', b.rest.length ≤ fuel' ∧ a.draft.finish (rowWithin fuel a.place a.rest) =
      b.draft.finish (rowWithin fuel' b.place b.rest) := by
  obtain ⟨nonempty, lexeme, taken⟩ := step
  rename_i d next place token written rest
  have longer : 0 < written.length := List.length_pos_iff.mpr nonempty
  simp only [List.length_append] at enough
  -- A token takes one unit of fuel and at least one character.
  obtain ⟨fuel, rfl⟩ : ∃ n, fuel = n + 1 := ⟨fuel - 1, by omega⟩
  refine ⟨fuel, by simp only; omega, ?_⟩
  have row : rowWithin (fuel + 1) place (written ++ rest) =
      { rowWithin fuel (place.after written) rest with
        tokens := ⟨token, place, written ++ rest⟩ ::
          (rowWithin fuel (place.after written) rest).tokens } := by
    obtain ⟨c, s, split⟩ : ∃ c s, written ++ rest = c :: s :=
      List.exists_cons_of_ne_nil (by simp [nonempty])
    rw [split] at lexeme ⊢
    simp only [rowWithin, lexeme]
  simp only [row, Draft.finish, Draft.run, List.foldlM_cons, taken]
  rfl

theorem Cursor.Leads.finish {a b : Cursor} (leads : Leads a b) (done : b.rest = []) {fuel : Nat}
    (enough : a.rest.length ≤ fuel) :
    a.draft.finish (rowWithin fuel a.place a.rest) = b.draft.result := by
  induction leads using Relation.ReflTransGen.head_induction_on generalizing fuel with
  | refl =>
    rw [done]
    cases fuel <;> rfl
  | head step _ ih =>
    obtain ⟨fuel', enough', same⟩ := step.finish enough
    exact same.trans (ih enough')

/-! ### What spells a value -/

/--
Characters spell a value: where a value may stand, they lead to behind it, if there they are
delimited. The places in the value are not told.
-/
def Spells (w : List Char) (n : Node) : Prop :=
  ∀ (opened : List Container) (expecting : Expecting) (place : Position) (rest : List Char),
    expecting = .value ∨ expecting = .item → Delimited rest →
    ∃ m : Node, m.bare = n ∧ ∀ d, Draft.put opened m = some d →
      ∃ place', Cursor.Leads ⟨⟨opened, expecting, none⟩, place, w ++ rest⟩ ⟨d, place', rest⟩

/-- A document is read as the value that its characters spell. -/
theorem Spells.parse {w : List Char} {n : Node} (spells : Spells w n) :
    ∃ m, Node.parse (String.ofList w) = .ok m ∧ m.bare = n := by
  obtain ⟨m, bare, leads⟩ := spells [] .value .start [] (.inl rfl) (by simp [Delimited])
  obtain ⟨place, leads⟩ := leads _ rfl
  have read : Node.ofRow? (row w) = some m := by
    rw [List.append_nil] at leads
    exact leads.finish rfl (Nat.le_refl _)
  refine ⟨m, ?_, bare⟩
  simp only [Node.parse, String.toList_ofList, read]

theorem step_value {opened : List Container} {expecting : Expecting} {t : Located}
    (value : expecting = .value ∨ expecting = .item) (opens : t.token ≠ .closeArray) :
    Draft.step ⟨opened, expecting, none⟩ t = Draft.beginValue opened t := by
  obtain rfl | rfl := value
  · rfl
  · simp [Draft.step, opens]

/-- A value of a single token. -/
theorem spells_token {w : List Char} {token : Token} {n : Node} (nonempty : w ≠ [])
    (lexeme : ∀ rest, Delimited rest → lexeme? (w ++ rest) = some ⟨some token, w, rest⟩)
    (opens : token ≠ .closeArray)
    (read : ∀ place source opened, ∃ m : Node, m.bare = n ∧
      Draft.beginValue opened ⟨token, place, source⟩ = Draft.put opened m) :
    Spells w n := by
  intro opened expecting place rest value delimited
  obtain ⟨m, bare, begins⟩ := read place (w ++ rest) opened
  refine ⟨m, bare, fun d put => ?_⟩
  refine ⟨place.after w, .single (.token nonempty (lexeme rest delimited) ?_)⟩
  rw [step_value value opens, begins, put]

theorem spells_null : Spells "null".toList (.null nowhere) :=
  spells_token (by decide) (fun _ delimited => lexeme?_null delimited) Token.noConfusion
    fun place source opened => ⟨.null _, rfl, rfl⟩

theorem spells_integer (n : Int) : Spells (Digits.signed n) (.ofInt n) := by
  have nonempty : Digits.signed n ≠ [] := by
    cases n <;> simp [Digits.signed, Digits.decimal_ne_nil]
  exact spells_token nonempty (fun _ delimited => lexeme?_signed n delimited) Token.noConfusion
    fun place source opened => ⟨.numeral _ _, rfl, rfl⟩

theorem spells_text {t : String} (unbroken : Unbroken t.toList) :
    Spells (Json.quote t) (.ofText t) :=
  spells_token (by simp [Json.quote]) (fun rest _ => lexeme?_quote unbroken rest)
    Token.noConfusion fun place source opened => ⟨.text _ _, rfl, rfl⟩

/-! ### Containers -/

section Containers

variable {outer : List Container} {site : Site} {place : Position} {rest : List Char}

/-- A mark leads behind it. -/
theorem leads_mark {d next : Draft} {c : Char} {t : Token}
    (mark : c ∈ ['[', ']', '\x7b', '\x7d', ':', ',']) (punctuation : punctuation? c = some t)
    (taken : d.step ⟨t, place, c :: rest⟩ = some next) :
    Cursor.Leads ⟨d, place, c :: rest⟩ ⟨next, place.after [c], rest⟩ :=
  .single (.token (List.cons_ne_nil c [])
    (lexeme?_mark (isMark_of_mem mark) punctuation rest) taken)

theorem delimited_cons {c : Char} (mark : c ∈ [',', ']', '\x7d']) : Delimited (c :: rest) := by
  rintro _ ⟨⟩
  exact mark

/-- What an entry of an open container does: it joins those before it. -/
def Joins (hold : List α → Container) (next : Expecting) (bare : α → α) (w : List Char) (e : α) :
    Prop :=
  ∀ outer done place rest, Delimited rest → ∃ e', bare e' = e ∧ ∃ place',
    Cursor.Leads ⟨⟨hold done :: outer, next, none⟩, place, w ++ rest⟩
      ⟨⟨hold (e' :: done) :: outer, .separator, none⟩, place', rest⟩

section Joins

variable {hold : List α → Container} {next : Expecting} {bare : α → α} (outer : List Container)
  (place : Position) (rest : List Char) {close : Char} (closes : close ∈ [',', ']', '\x7d'])
  (comma : ∀ done outer place source,
    Draft.step ⟨hold done :: outer, .separator, none⟩ ⟨.comma, place, source⟩ =
      some ⟨hold done :: outer, next, none⟩)

include closes comma

/-- Entries with commas between them are put into the container that is open. -/
theorem leads_entries {w : List Char} {ws : List (List Char)} {e : α} {es : List α}
    (first : Joins hold next bare w e) (others : List.Forall₂ (Joins hold next bare) ws es)
    (done : List α) :
    ∃ es' : List α, es'.map bare = e :: es ∧ ∃ place',
      Cursor.Leads
        ⟨⟨hold done :: outer, next, none⟩, place, [','].intercalate (w :: ws) ++ close :: rest⟩
        ⟨⟨hold (es'.reverse ++ done) :: outer, .separator, none⟩, place', close :: rest⟩ := by
  -- On the entries behind the first, since a comma stands before each of these.
  induction others generalizing w e done place with
  | nil =>
    obtain ⟨e', same, place', leads⟩ := first outer done place _ (delimited_cons closes)
    exact ⟨[e'], by simp [same], place', by simpa using leads⟩
  | @cons w' f ws es second _ ih =>
    obtain ⟨e', same, place₁, leads⟩ := first outer done place
      (',' :: ([','].intercalate (w' :: ws) ++ close :: rest)) (delimited_cons (by decide))
    have behind_comma : Cursor.Leads
        ⟨⟨hold (e' :: done) :: outer, .separator, none⟩, place₁,
          ',' :: ([','].intercalate (w' :: ws) ++ close :: rest)⟩
        ⟨⟨hold (e' :: done) :: outer, next, none⟩, place₁.after [','],
          [','].intercalate (w' :: ws) ++ close :: rest⟩ :=
      leads_mark (by decide) rfl (comma _ _ _ _)
    obtain ⟨es', sames, place', behind⟩ := ih (place₁.after [',']) second (e' :: done)
    refine ⟨e' :: es', by simp [same, sames], place', ?_⟩
    rw [List.intercalate_cons_cons]
    simpa using leads.trans (behind_comma.trans behind)

/-- The entries of a container lead from behind its opening mark to its closing mark. -/
theorem leads_body {ws : List (List Char)} {es : List α}
    (entries : List.Forall₂ (Joins hold next bare) ws es) :
    ∃ es' : List α, es'.map bare = es ∧ ∃ place' expecting,
      (expecting = next ∨ expecting = .separator) ∧
        Cursor.Leads
          ⟨⟨hold [] :: outer, next, none⟩, place, [','].intercalate ws ++ close :: rest⟩
          ⟨⟨hold es'.reverse :: outer, expecting, none⟩, place', close :: rest⟩ := by
  cases entries with
  | nil => exact ⟨[], rfl, place, next, .inl rfl, .refl⟩
  | cons first others =>
    obtain ⟨es', same, place', leads⟩ := leads_entries outer place rest closes comma first others []
    exact ⟨es', same, place', .separator, .inr rfl, by simpa using leads⟩

end Joins

theorem Spells.joins {w : List Char} {n : Node} (spells : Spells w n) (site : Site) :
    Joins (.array site) .item Node.bare w n := by
  intro outer done place rest delimited
  obtain ⟨m, bare, leads⟩ :=
    spells (.array site done :: outer) .item place rest (.inr rfl) delimited
  exact ⟨m, bare, leads _ rfl⟩

theorem spells_array {ws : List (List Char)} {ns : List Node} (items : List.Forall₂ Spells ws ns) :
    Spells (Json.array ws) (.array nowhere ns) := by
  intro opened expecting place rest value delimited
  have text : Json.array ws ++ rest = '[' :: ([','].intercalate ws ++ ']' :: rest) := by
    simp [Json.array]
  rw [text]
  let opening : Located := ⟨.openArray, place, '[' :: ([','].intercalate ws ++ ']' :: rest)⟩
  let site := opening.site
  have mark : ']' ∈ [',', ']', '\x7d'] := by decide
  obtain ⟨ms, bare, place', expecting', closes, body⟩ := leads_body opened (place.after ['[']) rest
    mark (fun _ _ _ _ => rfl) (items.imp fun _ _ spells => spells.joins site)
  have same : (Node.array site ms).bare = .array nowhere ns := by
    simp [Node.bare, Node.bareItems_eq, bare]
  refine ⟨.array site ms, same, fun d put => ?_⟩
  have opens : Draft.step ⟨opened, expecting, none⟩ opening =
      some ⟨.array site [] :: opened, .item, none⟩ := step_value value Token.noConfusion
  have close : Draft.step ⟨.array site ms.reverse :: opened, expecting', none⟩
      ⟨.closeArray, place', ']' :: rest⟩ = some d := by
    -- An empty array ends where an item could stand, another one where a comma could.
    rw [← put, ← ms.reverse_reverse]
    obtain rfl | rfl := closes <;> simp [Draft.step, Draft.closeArray]
  have begun := leads_mark (by decide) rfl opens
  have closing := leads_mark (by decide) rfl close
  exact ⟨_, begun.trans (body.trans closing)⟩

/-- A quoted name, a colon and a value join the members of the object that is open. -/
theorem Spells.joins_member {name : String} (unbroken : Unbroken name.toList) {w : List Char}
    {n : Node} (value : Spells w n) (site : Site) :
    Joins (.object site) .key Node.bareMember (Json.quote name ++ ':' :: w) (.ofName name, n) := by
  intro outer done place rest delimited
  let key : Key := ⟨place, name.toList.map pieceOf⟩
  let place₁ := place.after (Json.quote name)
  have named : Cursor.Leads
      ⟨⟨.object site done :: outer, .key, none⟩, place, Json.quote name ++ (':' :: (w ++ rest))⟩
      ⟨⟨.member site done key :: outer, .colon, none⟩, place₁, ':' :: (w ++ rest)⟩ :=
    .single (.token (by simp [Json.quote]) (lexeme?_quote unbroken _) rfl)
  have colon : Cursor.Leads
      ⟨⟨.member site done key :: outer, .colon, none⟩, place₁, ':' :: (w ++ rest)⟩
      ⟨⟨.member site done key :: outer, .value, none⟩, place₁.after [':'], w ++ rest⟩ :=
    leads_mark (by decide) rfl rfl
  obtain ⟨m, bare, leads⟩ := value (.member site done key :: outer) .value (place₁.after [':'])
    rest (.inl rfl) delimited
  obtain ⟨place', leads⟩ := leads _ rfl
  refine ⟨(key, m), by simp [Node.bareMember, Key.bare, Key.ofName, key, bare], place', ?_⟩
  simpa using named.trans (colon.trans leads)

/-- A member with its characters, and with its value. -/
inductive SpellsField : String × List Char → String × Node → Prop where
  | field {name : String} {w : List Char} {n : Node} (unbroken : Unbroken name.toList)
      (value : Spells w n) :
      SpellsField (name, w) (name, n)

theorem spells_record {members : List (String × List Char)} {fields : List (String × Node)}
    (spelled : List.Forall₂ SpellsField members fields) :
    Spells (Json.object members) (.record fields) := by
  intro opened expecting place rest value delimited
  let ws := members.map fun member => Json.quote member.1 ++ ':' :: member.2
  have text : Json.object members ++ rest =
      '\x7b' :: ([','].intercalate ws ++ '\x7d' :: rest) := by
    simp [Json.object, ws]
  rw [text]
  let opening : Located :=
    ⟨.openObject, place, '\x7b' :: ([','].intercalate ws ++ '\x7d' :: rest)⟩
  let site := opening.site
  have joins : List.Forall₂ (Joins (.object site) .key Node.bareMember) ws
      (fields.map Node.member) := by
    rw [List.forall₂_map_left_iff, List.forall₂_map_right_iff]
    refine spelled.imp fun member field spells => ?_
    obtain ⟨unbroken, value⟩ := spells
    exact value.joins_member unbroken site
  have mark : '\x7d' ∈ [',', ']', '\x7d'] := by decide
  obtain ⟨ms, bare, place', expecting', closes, body⟩ := leads_body opened
    (place.after ['\x7b']) rest mark (fun _ _ _ _ => rfl) joins
  have same : (Node.object site ms).bare = .record fields := by
    simp [Node.bare, Node.bareMembers_eq, Node.record, bare]
  refine ⟨.object site ms, same, fun d put => ?_⟩
  have opens : Draft.step ⟨opened, expecting, none⟩ opening =
      some ⟨.object site [] :: opened, .key, none⟩ := step_value value Token.noConfusion
  have close : Draft.step ⟨.object site ms.reverse :: opened, expecting', none⟩
      ⟨.closeObject, place', '\x7d' :: rest⟩ = some d := by
    rw [← put, ← ms.reverse_reverse]
    obtain rfl | rfl := closes <;> simp [Draft.step, Draft.closeObject]
  have begun := leads_mark (by decide) rfl opens
  have closing := leads_mark (by decide) rfl close
  exact ⟨_, begun.trans (body.trans closing)⟩

end Containers

end OpticalAccess.Json5
