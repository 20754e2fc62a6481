import OpticalAccess.Config.Basic
import OpticalAccess.Network.Basic
import OpticalAccess.Proofs.Text.Words

/-!
# Locations by name

A location is known by its host, whatever its address is: the port is what stands behind the last
colon. So it is known by its endpoints, by the events and errors that name it, and whoever looks for
a node by its host finds the one at the location.
-/

namespace OpticalAccess

open Text

namespace Location

variable {a b : Location}

theorem hostChars_inj : a.hostChars = b.hostChars ↔ a = b := by
  obtain ⟨address, port⟩ := a
  obtain ⟨address', port'⟩ := b
  rw [hostChars, hostChars, append_mark_inj (p := Digits.isDecimal) (by decide)
    Digits.isDecimal_of_mem Digits.isDecimal_of_mem, String.toList_inj, Digits.decimal_inj,
    UInt16.toNat_inj, mk.injEq]

theorem host_inj : a.host = b.host ↔ a = b := by
  rw [host, host, String.ofList_inj, hostChars_inj]

theorem endpoint_inj {s t : Bool} : a.endpoint s = b.endpoint t ↔ a = b ∧ s = t := by
  rw [endpoint, endpoint, String.ofList_inj]
  by_cases secure : s = t
  · subst secure
    rw [List.append_cancel_left_eq, hostChars_inj]
    exact (and_iff_left rfl).symm
  · refine iff_of_false (fun same => ?_) fun both => secure both.2
    -- One scheme has an `s` where the other has its colon.
    have fifth := congrArg (·[4]?) same
    cases s <;> cases t <;> simp at secure fifth

end Location

/-! ### Events -/

namespace Event

/-- A field of the event is the name of the location. -/
def Shows (key : String) (l : Location) (e : Event) : Prop :=
  e.fields.lookup key = some (.text l.host)

/-- The device that the event is about, where the event holds its location. -/
def device? : Event → Option Location
  | frameReceived device _ | frameForwarded device | frameForwardFailed device _
  | deviceInfo device _ _ | flowUpdateStarted device _ _ _ | dispatched _ device _ _
  | flowUpdateDone device _ _ | statsStarted device _ | childStatsReceived device _ _
  | statsDone device _ | relayNotTerminal device | forwarding _ device _ _
  | ingressDropped device _ | flowsInstalled _ device _ => some device
  | relayStarted _ | relayReceived _ _ | relaySent _ _ | relaySendFailed _ _ | relaySourceClosed _
  | relayStreamClosed _ | plaintextTransport | connectStarted _ _ | connectFailed _ _
  | callFailed _ _ _ | childrenProvisioned _ _ => none

def child? : Event → Option Location
  | childStatsReceived _ child _ => some child
  | _ => none

variable {e e' : Event} {key : String} {a b l : Location}

theorem shows_device (held : e.device? = some l) : e.Shows "device" l := by
  cases e with
  | dispatched request => cases request <;> cases held <;> rfl
  | _ => cases held <;> rfl

theorem shows_child (held : e.child? = some l) : e.Shows "child" l := by
  cases e with
  | childStatsReceived => cases held; rfl
  | _ => cases held

theorem Shows.unique (same : e.fields = e'.fields) (shows : e.Shows key a)
    (shows' : e'.Shows key b) : a = b := by
  unfold Shows at shows shows'
  rw [← same, shows] at shows'
  exact Location.host_inj.mp (by simpa using shows')

end Event

/-! ### Errors -/

theorem TransportFault.append_message_inj {f g : TransportFault} {s t : String} :
    s ++ (": " ++ f.message) = t ++ (": " ++ g.message) ↔ s = t ∧ f = g := by
  refine ⟨fun same => ?_, fun ⟨texts, faults⟩ => by rw [texts, faults]⟩
  by_cases faults : f = g
  · subst faults
    exact ⟨(String.append_left_inj _).mp same, rfl⟩
  · have last := congrArg (fun text => text.toList.getLast?) same
    cases f <;> cases g <;> simp [message, List.getLast?_append] at faults last

namespace CallError

def host? : CallError → Option String
  | invalidEndpoint host _ | connect host _ | rpc host _ | timeout host _ => some host
  | tlsMaterial _ _ => none

/-- What a peer said itself. -/
def status? : CallError → Option Status
  | rpc _ status => some status
  | _ => none

/-- The text of an error in front of what it is about. -/
def opening : CallError → String
  | invalidEndpoint _ _ => "invalid endpoint for "
  | tlsMaterial _ _ => "unable to read TLS material "
  | connect _ _ => "unable to connect to "
  | rpc _ _ | timeout _ _ => "call to "

/-- The text of an error behind what it is about. -/
def closing : CallError → String
  | invalidEndpoint _ fault | connect _ fault => ": " ++ fault.message
  | tlsMaterial _ reason => ": " ++ reason
  | rpc _ status => " failed: " ++ status.code.name ++ " " ++ status.message
  | timeout _ micros => " timed out after " ++ Digits.natText (micros / 1000) ++ "ms"

theorem message_eq {e : CallError} {host : String} (named : e.host? = some host) :
    e.message = e.opening ++ (host ++ e.closing) := by
  unfold message opening closing
  cases e with
  | tlsMaterial => cases named
  | _ =>
    cases named
    simp only [String.append_assoc]

theorem append_timeout_inj {s t : String} {m n : Nat} :
    s ++ (" timed out after " ++ Digits.natText m ++ "ms") =
      t ++ (" timed out after " ++ Digits.natText n ++ "ms") ↔ s = t ∧ m = n := by
  have split : ∀ (s : String) (n : Nat),
      (s ++ (" timed out after " ++ Digits.natText n ++ "ms")).toList =
        (s.toList ++ " timed out after".toList) ++ ' ' :: Digits.decimal n ++ "ms".toList := by
    simp [Digits.natText]
  rw [← String.toList_inj, split, split, List.append_cancel_right_eq,
    append_mark_inj (p := Digits.isDecimal) (by decide) Digits.isDecimal_of_mem
      Digits.isDecimal_of_mem, List.append_cancel_right_eq, String.toList_inj, Digits.decimal_inj]

/-- Errors with one text are about one host, as long as no peer put in different texts of its own. -/
theorem host_unique {e e' : CallError} {host host' : String} (named : e.host? = some host)
    (named' : e'.host? = some host') (peer : e.status? = e'.status?)
    (same : e.message = e'.message) : host = host' := by
  have texts : e.opening ++ (host ++ e.closing) = e'.opening ++ (host' ++ e'.closing) := by
    rw [← message_eq named, ← message_eq named', same]
  -- Errors of two kinds begin with different letters, except if time runs out in one of them.
  have initials := congrArg (fun text => text.toList.head?) texts
  cases e with
  | tlsMaterial => cases named
  | invalidEndpoint _ fault =>
    cases e' with
    | tlsMaterial => cases named'
    | invalidEndpoint _ fault' =>
      have behind := (String.append_right_inj _).mp texts
      exact (TransportFault.append_message_inj.mp behind).1
    | connect | rpc | timeout => simp [opening] at initials
  | connect _ fault =>
    cases e' with
    | tlsMaterial => cases named'
    | connect _ fault' =>
      have behind := (String.append_right_inj _).mp texts
      exact (TransportFault.append_message_inj.mp behind).1
    | invalidEndpoint | rpc | timeout => simp [opening] at initials
  | rpc _ status =>
    cases e' with
    | tlsMaterial => cases named'
    | rpc _ status' =>
      obtain rfl : status = status' := Option.some_inj.mp peer
      exact (String.append_left_inj _).mp ((String.append_right_inj _).mp texts)
    | timeout => cases peer
    | invalidEndpoint | connect => simp [opening] at initials
  | timeout _ micros =>
    cases e' with
    | tlsMaterial => cases named'
    | timeout _ micros' =>
      have behind := (String.append_right_inj _).mp texts
      exact (append_timeout_inj.mp behind).1
    | rpc => cases peer
    | invalidEndpoint | connect => simp [opening] at initials

end CallError

theorem Config.Invalid.reservedPort_message_inj {a b : Location} :
    (reservedPort a).message = (reservedPort b).message ↔ a = b := by
  show "child " ++ a.host ++ " uses reserved port 0" =
    "child " ++ b.host ++ " uses reserved port 0" ↔ a = b
  rw [String.append_left_inj, String.append_right_inj, Location.host_inj]

/-! ### Lookups -/

namespace Network

/-- The node whose device goes by a host; of several the last. -/
def hosted? (w : Network) (host : String) : Option Node :=
  w.nodes.reverse.find? (·.device.location.host = host)

theorem hosted?_host (w : Network) (l : Location) : w.hosted? l.host = w.at? l := by
  simp only [hosted?, at?, Location.host_inj]

theorem reach_setReach (w : Network) (a b : Location) (reach : Reach) :
    (w.setReach a.host reach).reach b.host = if a = b then reach else w.reach b.host := by
  by_cases same : a = b
  · subst same
    simp [setReach, Network.reach]
  · have other : (b.host == a.host) = false :=
      beq_eq_false_iff_ne.mpr fun hosts => same (Location.host_inj.mp hosts.symm)
    simp [setReach, Network.reach, List.lookup_cons, same, other]

end Network

namespace Location

/-- What tells one location from another. -/
structure Identified (a b : Location) : Prop where
  host_iff : a.host = b.host ↔ a = b
  endpoint_iff : ∀ s t, a.endpoint s = b.endpoint t ↔ a = b ∧ s = t
  device_shown : ∀ e : Event, e.device? = some a → e.Shows "device" a
  child_shown : ∀ e : Event, e.child? = some a → e.Shows "child" a
  logged : ∀ (e e' : Event) key, e.fields = e'.fields → e.Shows key a → e'.Shows key b → a = b
  named : ∀ e : CallError, e.host? = some a.host →
    e.message = e.opening ++ (a.host ++ e.closing) ∧ (e.host? = some b.host → a = b)
  /-- The text alone tells the host, given the words of the peer, in which anything may stand. -/
  told : ∀ e e' : CallError, e.host? = some a.host → e'.host? = some b.host →
    e.status? = e'.status? → e.message = e'.message → a = b
  reserved_iff :
    (Config.Invalid.reservedPort a).message = (Config.Invalid.reservedPort b).message ↔ a = b
  found : ∀ w : Network, w.hosted? a.host = w.at? a
  reached : ∀ (w : Network) reach,
    (w.setReach a.host reach).reach b.host = if a = b then reach else w.reach b.host

/-- Whatever the addresses are, locations that are rendered alike are the same. -/
theorem renderings_identify (a b : Location) : Identified a b where
  host_iff := host_inj
  endpoint_iff _ _ := endpoint_inj
  device_shown _ := Event.shows_device
  child_shown _ := Event.shows_child
  logged _ _ _ := Event.Shows.unique
  named _ named := ⟨CallError.message_eq named, fun named' =>
    host_inj.mp (Option.some_inj.mp (named.symm.trans named'))⟩
  told _ _ named named' peer same := host_inj.mp (CallError.host_unique named named' peer same)
  reserved_iff := Config.Invalid.reservedPort_message_inj
  found w := w.hosted?_host a
  reached w := w.reach_setReach a b

/-- An address with a host of its own in it. -/
theorem renderings_identify_nested :
    host ⟨"onu:1", 23⟩ ≠ host ⟨"onu", 123⟩ ∧
      (CallError.timeout (host ⟨"onu:1", 23⟩) 5000).message ≠
        (CallError.timeout (host ⟨"onu", 123⟩) 5000).message := by
  have identified := renderings_identify ⟨"onu:1", 23⟩ ⟨"onu", 123⟩
  have other : (⟨"onu:1", 23⟩ : Location) ≠ ⟨"onu", 123⟩ := by decide
  exact ⟨fun same => other (identified.host_iff.mp same),
    fun same => other (identified.told (.timeout _ 5000) (.timeout _ 5000) rfl rfl rfl same)⟩

end Location
end OpticalAccess
