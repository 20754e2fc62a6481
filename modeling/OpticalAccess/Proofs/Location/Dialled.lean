import Mathlib.Data.List.DropRight
import OpticalAccess.Proofs.Configuration.RoundTrip
import OpticalAccess.Proofs.Wire.Messages
import OpticalAccess.Remote.Dialer

/-!
# Where a dialled endpoint leads

The endpoint of a location is its address and its port, put behind a scheme as they are. What is
reached is read off the URI again: the authority, without the user in front of an at sign. This is
the location as long as no character of the address has a meaning of its own in a URI.
-/

namespace OpticalAccess

namespace Uri

def behindScheme : List Char → List Char
  | ':' :: '/' :: '/' :: rest => rest
  | _ :: rest => behindScheme rest
  | [] => []

def endsAuthority (c : Char) : Bool := c = '/' || c = '?' || c = '#'

def authority (uri : String) : List Char := (behindScheme uri.toList).takeWhile (!endsAuthority ·)

/-- An authority without the user that an at sign ends. -/
def withoutUser (authority : List Char) : List Char := authority.rtakeWhile (· ≠ '@')

/-- The place that a URI leads to. -/
def site (uri : String) : String := String.ofList (withoutUser (authority uri))

/-- What stands in front of the last colon. -/
def siteHost (site : String) : String :=
  String.ofList (site.toList.rdropWhile (· ≠ ':')).dropLast

def sitePort (site : String) : String := String.ofList (site.toList.rtakeWhile (· ≠ ':'))

/-! ### Authorities as bytes -/

theorem takeWhile_flatMap {p : Char → Bool} {q : UInt8 → Bool} {f : Char → List UInt8}
    (kept : ∀ c, p c = true → ∀ b ∈ f c, q b = true)
    (ended : ∀ c, p c = false → ∃ b rest, f c = b :: rest ∧ q b = false) (chars : List Char) :
    (chars.flatMap f).takeWhile q = (chars.takeWhile p).flatMap f := by
  induction chars with
  | nil => rfl
  | cons c rest ih =>
    rw [List.flatMap_cons, List.takeWhile_cons]
    cases within : p c with
    | true => simp [List.takeWhile_append_of_pos (kept c within), ih]
    | false =>
      obtain ⟨b, tail, bytes, stops⟩ := ended c within
      simp [bytes, stops]

theorem isDelimiter_iff {b : UInt8} :
    isDelimiter b = true ↔ b.toNat = '/'.toNat ∨ b.toNat = '?'.toNat ∨ b.toNat = '#'.toNat := by
  have bytes : "/?#".toUTF8.toList = [47, 63, 35] := by decide +kernel
  rw [isDelimiter, bytes]
  simp [← UInt8.toNat_inj]

theorem mem_utf8EncodeChar {c : Char} {b : UInt8} (member : b ∈ String.utf8EncodeChar c) :
    128 ≤ b.toNat ∨ (b.toNat = c.toNat ∧ String.utf8EncodeChar c = [b]) := by
  by_cases ascii : c.val.toNat ≤ 127
  · have single : String.utf8EncodeChar c = [UInt8.ofNat c.toNat] := by
      unfold String.utf8EncodeChar
      exact if_pos ascii
    rw [single, List.mem_singleton] at member
    subst member
    refine .inr ⟨?_, single⟩
    rw [UInt8.toNat_ofNat', Nat.mod_eq_of_lt]
    exact Nat.lt_of_le_of_lt ascii (by decide)
  -- All bytes of a longer encoding have the top bit set.
  · left
    unfold String.utf8EncodeChar at member
    simp only [if_neg ascii] at member
    split at member
    · simp only [List.mem_cons, List.not_mem_nil, or_false] at member
      obtain rfl | rfl := member <;> rw [UInt8.toNat_ofNat'] <;> omega
    · split at member
      · simp only [List.mem_cons, List.not_mem_nil, or_false] at member
        obtain rfl | rfl | rfl := member <;> rw [UInt8.toNat_ofNat'] <;> omega
      · simp only [List.mem_cons, List.not_mem_nil, or_false] at member
        obtain rfl | rfl | rfl | rfl := member <;> rw [UInt8.toNat_ofNat'] <;> omega

theorem endsAuthority_iff {c : Char} :
    endsAuthority c = true ↔ c.toNat = '/'.toNat ∨ c.toNat = '?'.toNat ∨ c.toNat = '#'.toNat := by
  simp only [Char.toNat_inj, endsAuthority, Bool.or_eq_true, decide_eq_true_eq, or_assoc]

theorem splitAuthority_utf8 (chars : List Char) :
    (splitAuthority (chars.flatMap String.utf8EncodeChar)).1 =
      (chars.takeWhile (!endsAuthority ·)).flatMap String.utf8EncodeChar := by
  refine takeWhile_flatMap (fun c within b member => ?_) (fun c outside => ?_) chars
  · rw [Bool.not_eq_true', Bool.eq_false_iff, ne_eq] at within ⊢
    rw [isDelimiter_iff]
    obtain high | ⟨same, -⟩ := mem_utf8EncodeChar member
    · have marks : '/'.toNat < 128 ∧ '?'.toNat < 128 ∧ '#'.toNat < 128 := by decide
      omega
    · exact same ▸ mt endsAuthority_iff.mpr within
  · rw [Bool.not_eq_false', endsAuthority, Bool.or_eq_true, Bool.or_eq_true] at outside
    simp only [decide_eq_true_eq] at outside
    refine ⟨c.val.toUInt8, [], ?_⟩
    obtain (rfl | rfl) | rfl := outside <;> decide +kernel

end Uri

theorem toList_toUTF8 (chars : List Char) :
    (String.ofList chars).toUTF8.toList = chars.flatMap String.utf8EncodeChar :=
  (Wire.toList_eq_data _).trans List.toList_data_toByteArray

/-! ### Runs of characters from the right -/

section Runs
variable {p : Char → Bool} {run : List Char}

theorem rtakeWhile_append_of_pos (kept : ∀ c ∈ run, p c = true) (before : List Char) :
    (before ++ run).rtakeWhile p = before.rtakeWhile p ++ run := by
  have reversed : ∀ c ∈ run.reverse, p c = true := fun c member =>
    kept c (List.mem_reverse.mp member)
  simp only [List.rtakeWhile, List.reverse_append, List.takeWhile_append_of_pos reversed,
    List.reverse_reverse]

theorem rdropWhile_append_of_pos (kept : ∀ c ∈ run, p c = true) (before : List Char) :
    (before ++ run).rdropWhile p = before.rdropWhile p := by
  have reversed : ∀ c ∈ run.reverse, p c = true := fun c member =>
    kept c (List.mem_reverse.mp member)
  simp only [List.rdropWhile, List.reverse_append, List.dropWhile_append_of_pos reversed]

end Runs

namespace Location
variable (l : Location)

/-- Nothing in an address ends an authority, or a user in it. -/
def Plain : Prop := ∀ c ∈ l.address.toList, Uri.endsAuthority c = false ∧ c ≠ '@'

instance : Decidable l.Plain := List.decidableBAll _ l.address.toList

theorem port_plain {c : Char} (member : c ∈ ':' :: Digits.decimal l.port.toNat) :
    Uri.endsAuthority c = false ∧ c ≠ '@' := by
  obtain rfl | digit := List.mem_cons.mp member
  · decide
  · exact Digits.forall_mem_decimal (P := fun c => Uri.endsAuthority c = false ∧ c ≠ '@')
      (by decide) _ c digit

theorem colon_not_mem_decimal (n : Nat) : ∀ c ∈ Digits.decimal n, decide (c ≠ ':') = true :=
  Digits.forall_mem_decimal (by decide) n

theorem authority_endpoint (secure : Bool) :
    Uri.authority (l.endpoint secure) = l.hostChars.takeWhile (!Uri.endsAuthority ·) := by
  cases secure <;> simp [Uri.authority, endpoint, Uri.behindScheme]

theorem authority_of_unmarked (unmarked : ∀ c ∈ l.address.toList, Uri.endsAuthority c = false)
    (secure : Bool) : Uri.authority (l.endpoint secure) = l.hostChars := by
  rw [authority_endpoint, List.takeWhile_eq_self_iff]
  intro c member
  rw [Bool.not_eq_true']
  obtain inside | behind := List.mem_append.mp member
  · exact unmarked c inside
  · exact (l.port_plain behind).1

theorem authority_of_marked (marked : ∃ c ∈ l.address.toList, Uri.endsAuthority c = true)
    (secure : Bool) :
    Uri.authority (l.endpoint secure) =
      l.address.toList.takeWhile (!Uri.endsAuthority ·) := by
  obtain ⟨c, member, mark⟩ := marked
  -- The authority ends within the address, and so does not reach the port.
  have shorter : ¬(l.address.toList.takeWhile (!Uri.endsAuthority ·)).length =
      l.address.toList.length := by
    intro whole
    have all := List.takeWhile_eq_self_iff.mp ((List.takeWhile_prefix _).eq_of_length whole)
    simpa [mark] using all c member
  rw [authority_endpoint, hostChars, List.takeWhile_append, if_neg shorter]

theorem withoutUser_hostChars :
    Uri.withoutUser l.hostChars =
      Uri.withoutUser l.address.toList ++ ':' :: Digits.decimal l.port.toNat :=
  rtakeWhile_append_of_pos (fun _ member => decide_eq_true (l.port_plain member).2) _

/-- The place of an endpoint is the location exactly if its address is plain. -/
theorem site_endpoint_iff (secure : Bool) :
    Uri.site (l.endpoint secure) = l.host ↔ l.Plain := by
  rw [Uri.site, host, String.ofList_inj, authority_endpoint]
  constructor
  -- Behind the two cuts there is nothing left of a character that causes one.
  · intro same c member
    have listed : c ∈ Uri.withoutUser (l.hostChars.takeWhile (!Uri.endsAuthority ·)) := by
      rw [same]
      exact List.mem_append_left _ member
    have inside := List.mem_takeWhile_imp (List.rtakeWhile_suffix _ _ |>.subset listed)
    have behind := List.mem_rtakeWhile_imp listed
    exact ⟨by simpa using inside, by simpa using behind⟩
  · intro plain
    have kept : ∀ c ∈ l.hostChars, Uri.endsAuthority c = false ∧ c ≠ '@' := fun c member =>
      (List.mem_append.mp member).elim (plain c) l.port_plain
    have whole : l.hostChars.takeWhile (!Uri.endsAuthority ·) = l.hostChars :=
      List.takeWhile_eq_self_iff.mpr fun c member => by simp [(kept c member).1]
    rw [whole]
    exact List.rtakeWhile_eq_self_iff.mpr fun c member => decide_eq_true (kept c member).2

theorem siteHost_append (before : List Char) :
    Uri.siteHost (String.ofList (before ++ ':' :: Digits.decimal l.port.toNat)) =
      String.ofList before := by
  rw [Uri.siteHost, String.toList_ofList, List.append_cons,
    rdropWhile_append_of_pos (colon_not_mem_decimal _),
    List.rdropWhile_concat_neg _ _ _ (by decide), List.dropLast_concat]

theorem sitePort_append (before : List Char) :
    Uri.sitePort (String.ofList (before ++ ':' :: Digits.decimal l.port.toNat)) =
      Digits.natText l.port.toNat := by
  rw [Uri.sitePort, String.toList_ofList, List.append_cons,
    rtakeWhile_append_of_pos (colon_not_mem_decimal _),
    List.rtakeWhile_concat_neg _ _ _ (by decide), List.nil_append, Digits.natText]

/-- Where the endpoint of a location leads. -/
structure Leads (l : Location) (secure : Bool) : Prop where
  /-- The authority is the one that is looked at before the endpoint is dialled. -/
  checked : (Uri.splitAuthority l.host.toUTF8.toList).1 =
    (String.ofList (Uri.authority (l.endpoint secure))).toUTF8.toList
  as_given_iff : Uri.site (l.endpoint secure) = l.host ↔ l.Plain
  host : l.Plain → Uri.siteHost (Uri.site (l.endpoint secure)) = l.address
  port : (∀ c ∈ l.address.toList, Uri.endsAuthority c = false) →
    Uri.sitePort (Uri.site (l.endpoint secure)) = Digits.natText l.port.toNat
  /-- An at sign makes a user of what is in front of it. -/
  user : (∀ c ∈ l.address.toList, Uri.endsAuthority c = false) →
    Uri.siteHost (Uri.site (l.endpoint secure)) = String.ofList (Uri.withoutUser l.address.toList)
  /-- A mark cuts off the port. -/
  cut : (∃ c ∈ l.address.toList, Uri.endsAuthority c = true) →
    Uri.site (l.endpoint secure) =
      String.ofList (Uri.withoutUser (l.address.toList.takeWhile (!Uri.endsAuthority ·)))

theorem endpoint_leads (secure : Bool) : Leads l secure where
  checked := by
    rw [authority_endpoint, Location.host, toList_toUTF8, toList_toUTF8, Uri.splitAuthority_utf8]
  as_given_iff := l.site_endpoint_iff secure
  host plain := by
    rw [(l.site_endpoint_iff secure).mpr plain, Location.host, hostChars, siteHost_append,
      String.ofList_toList]
  port unmarked := by
    rw [Uri.site, l.authority_of_unmarked unmarked, withoutUser_hostChars, sitePort_append]
  user unmarked := by
    rw [Uri.site, l.authority_of_unmarked unmarked, withoutUser_hostChars, siteHost_append]
  cut marked := by rw [Uri.site, l.authority_of_marked marked]

end Location

namespace Dialer

def Peer.events (peer : Peer ω α) (w : ω) (v : Verbosity) : List Event :=
  match peer with
  | .serving answer => (answer w).events v
  | _ => []

/-- An event says of a location that it is the one that is called. -/
def Names (l : Location) (e : Event) : Prop := ("host", Event.Value.text l.host) ∈ e.fields

section Calls
variable {d : Dialer} {request : Request} {l : Location} {peer : Peer ω α} {w : ω} {v : Verbosity}
  {e : Event}

theorem eq_of_mem_emit {given : Event} (logged : e ∈ (Traced.emit given).events v) : e = given := by
  rw [Traced.events_emit] at logged
  split at logged
  · exact List.mem_singleton.mp logged
  · cases logged

theorem mem_events_attempt (logged : e ∈ (d.attempt l peer w).events v) :
    Names l e ∨ e ∈ peer.events w v := by
  unfold attempt at logged
  rw [Traced.events_bind, List.mem_append] at logged
  obtain opened | logged := logged
  · left
    rw [eq_of_mem_emit opened]
    simp [Names, Event.fields, Event.details]
  · split at logged
    · cases logged
    · cases peer with
      | absent =>
        left
        rw [Traced.events_bind, List.mem_append] at logged
        obtain failed | done := logged
        · rw [eq_of_mem_emit failed]
          simp [Names, Event.fields, Event.details]
        · cases done
      | silent => cases logged
      | serving answer =>
        right
        rw [Traced.events_bind, List.mem_append] at logged
        obtain served | done := logged
        · exact served
        · dsimp only at done
          split at done <;> cases done

theorem mem_events_call (logged : e ∈ (d.call request l peer w).events v) :
    Names l e ∨ e ∈ peer.events w v := by
  unfold call at logged
  rw [Traced.events_bind, List.mem_append] at logged
  obtain attempted | logged := logged
  · exact mem_events_attempt attempted
  · dsimp only at logged
    split at logged
    · cases logged
    · rw [Traced.events_bind, List.mem_append] at logged
      obtain failed | done := logged
      · left
        rw [eq_of_mem_emit failed]
        simp [Names, Event.fields, Event.details]
      · cases done

end Calls
end Dialer

namespace Config

/-- A terminal with one child. -/
def parentOf (l : Location) : Config where
  device := ⟨.terminal, "olt", ⟨"olt", 1⟩⟩
  children := [⟨1, l⟩]
  childTransport := .plaintext

theorem parentOf_accepted (l : Location) :
    ofNode (parentOf l).tree = .ok (parentOf l) ∧ (parentOf l).check = .ok () := by
  refine ⟨ofNode_tree fun n member => sizeOf64_ofInt ?_, rfl⟩
  revert n
  simp [sizes, RouterConfig.sizes, parentOf]

end Config

namespace Location

/--
An endpoint leads to the address and the port of its location if the address is plain, and to
another place if it is not, while the log still has the location. Every address is accepted.
-/
theorem plain_addresses_are_reached (l : Location) (secure : Bool) :
    Leads l secure ∧
      (∀ {ω α : Type} (d : Dialer) (request : Request) (peer : Dialer.Peer ω α) (w : ω)
        (v : Verbosity), ∀ e ∈ (d.call request l peer w).events v,
          Dialer.Names l e ∨ e ∈ peer.events w v) ∧
      Config.ofNode (Config.parentOf l).tree = .ok (Config.parentOf l) ∧
        (Config.parentOf l).check = .ok () :=
  ⟨l.endpoint_leads secure, fun _ _ _ _ _ _ => Dialer.mem_events_call, Config.parentOf_accepted l⟩

theorem bracketed_address_is_reached :
    (⟨"[::1]", 50061⟩ : Location).Plain ∧
      Uri.site (endpoint ⟨"[::1]", 50061⟩ true) = host ⟨"[::1]", 50061⟩ := by
  have plain : (⟨"[::1]", 50061⟩ : Location).Plain := by decide
  exact ⟨plain, (plain_addresses_are_reached _ true).1.as_given_iff.mpr plain⟩

/-- An address with a port of its own, behind which a path begins. -/
def marked : Location := ⟨"127.0.0.1:1/", 7⟩

theorem marked_address_leads_elsewhere :
    Config.parse (Config.parentOf marked).json = .ok (Config.parentOf marked) ∧
      ⟨1, marked⟩ ∈ (Config.parentOf marked).children ∧
      (∀ secure, marked.dialable secure = true) ∧
      (∀ secure, Uri.site (marked.endpoint secure) = "127.0.0.1:1") ∧
      marked.host = "127.0.0.1:1/:7" := by
  have exact : ∀ n ∈ (Config.parentOf marked).sizes, n.toNat ≤ 2 ^ 53 := by
    simp [Config.sizes, RouterConfig.sizes, Config.parentOf]
  obtain ⟨m, tree, read⟩ := Config.read_json exact (by decide)
  refine ⟨Config.parse_eq_ok_iff.mpr ⟨m, tree, read, rfl⟩, List.mem_singleton_self _, ?_, ?_, ?_⟩
  · decide +kernel
  · intro secure
    rw [(marked.endpoint_leads secure).cut ⟨'/', by decide, by decide⟩]
    decide
  · decide +kernel

end Location
end OpticalAccess
