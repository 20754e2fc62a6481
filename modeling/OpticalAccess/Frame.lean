import OpticalAccess.Text.Digits

/-!
# Ethernet frames

A frame is the bytes that cross a port. Its summary names the stations, the VLANs and the
ethertype; frames are carried whether or not they have a summary.
-/

namespace OpticalAccess

abbrev Bytes := List UInt8

structure Mac where
  octet0 : UInt8
  octet1 : UInt8
  octet2 : UInt8
  octet3 : UInt8
  octet4 : UInt8
  octet5 : UInt8
  deriving DecidableEq, Repr

namespace Mac

def octets (m : Mac) : Bytes := [m.octet0, m.octet1, m.octet2, m.octet3, m.octet4, m.octet5]

def chars (m : Mac) : List Char :=
  [':'].intercalate (m.octets.map fun b => Digits.hex 2 b.toNat)

end Mac

/-- The bytes of an Ethernet frame; nothing in this library changes them. -/
structure Frame where
  payload : Bytes
  deriving DecidableEq

namespace Frame

def length (f : Frame) : Nat := f.payload.length

structure Summary where
  destination : Mac
  source : Mac
  /-- The type of the innermost payload, after any VLAN tags. -/
  ethertype : UInt16
  /-- VLAN identifiers, outermost first. -/
  vlans : List UInt16
  deriving DecidableEq

inductive DecodeError where
  | truncated (needed actual : Nat)
  deriving DecidableEq

def word (hi lo : UInt8) : UInt16 := hi.toUInt16 <<< 8 ||| lo.toUInt16

def tagTypes : List UInt16 := [0x8100, 0x88a8, 0x9100]

def maxTags : Nat := 2

def vlanOf (control : UInt16) : UInt16 := control &&& 0x0fff

/--
Reads at most `left` tags. `type` is the ethertype at `offset` and `rest` the bytes after it.
The error is the length up to which the next tag and the ethertype behind it reach.
-/
def readTags : (left offset : Nat) → (type : UInt16) → (rest : Bytes) →
    Except Nat (List UInt16 × UInt16)
  | 0, _, type, _ => .ok ([], type)
  | left + 1, offset, type, rest =>
    if type ∈ tagTypes then
      match rest with
      | c0 :: c1 :: hi :: lo :: rest =>
        match readTags left (offset + 4) (word hi lo) rest with
        | .ok (vlans, type) => .ok (vlanOf (word c0 c1) :: vlans, type)
        | .error needed => .error needed
      | _ => .error (offset + 6)
    else .ok ([], type)

def summary (f : Frame) : Except DecodeError Summary :=
  match f.payload with
  | d0 :: d1 :: d2 :: d3 :: d4 :: d5 :: s0 :: s1 :: s2 :: s3 :: s4 :: s5 :: hi :: lo :: rest =>
    match readTags maxTags 12 (word hi lo) rest with
    | .ok (vlans, type) =>
      .ok ⟨⟨d0, d1, d2, d3, d4, d5⟩, ⟨s0, s1, s2, s3, s4, s5⟩, type, vlans⟩
    | .error needed => .error (.truncated needed f.length)
  | _ => .error (.truncated 14 f.length)

namespace Summary

/-- Identifiers in brackets; nothing when there are none. -/
def vlanChars : List UInt16 → List Char
  | [] => []
  | vlans =>
    " vlans=[".toList ++
      ", ".toList.intercalate (vlans.map fun v => Digits.decimal v.toNat) ++ [']']

def chars (s : Summary) : List Char :=
  "src=".toList ++ s.source.chars ++ " dst=".toList ++ s.destination.chars ++
    " ethertype=0x".toList ++ Digits.hex 4 s.ethertype.toNat ++ vlanChars s.vlans

def text (s : Summary) : String := String.ofList s.chars

end Summary

namespace DecodeError

def chars : DecodeError → List Char
  | truncated needed actual =>
    "truncated frame: need ".toList ++ Digits.decimal needed ++ " bytes, got ".toList ++
      Digits.decimal actual

def message (e : DecodeError) : String := String.ofList e.chars

end DecodeError

def describeChars (f : Frame) : List Char :=
  match f.summary with
  | .ok s => s.chars
  | .error e =>
    "undecodable (".toList ++ e.chars ++ ", ".toList ++ Digits.decimal f.length ++ " bytes)".toList

def describe (f : Frame) : String := String.ofList f.describeChars

end Frame
end OpticalAccess
