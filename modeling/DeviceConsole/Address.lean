import DeviceConsole.Text.Hex

/-!
# Network addresses

A peer is known by its socket address: an IPv4 or IPv6 address and a port, and for IPv6
also flow information and a scope.  Both take part in the identity of a peer, although the flow
information is never written.

Main results:

- Theorem {lit}`length_segments`: an IPv6 address has eight segments.
- Definition {lit}`Ipv6.text`: the longest run of two or more zero segments, the first of
  several, is written as a double colon.
-/

namespace DeviceConsole

/-! ## IPv4 -/

/-- An IPv4 address. -/
structure Ipv4 where
  a : UInt8
  b : UInt8
  c : UInt8
  d : UInt8
deriving DecidableEq, Repr

/-- The four octets in dotted notation. -/
def Ipv4.text (address : Ipv4) : String :=
  toString address.a.toNat ++ "." ++ toString address.b.toNat ++ "." ++
    toString address.c.toNat ++ "." ++ toString address.d.toNat

/-! ## IPv6 -/

/-- An IPv6 address, as its eight segments. -/
structure Ipv6 where
  segments : List UInt16
  length_segments : segments.length = 8
deriving DecidableEq, Repr

namespace Ipv6

/-- The address of eight segments, and of nothing else. -/
def ofSegments? (segments : List UInt16) : Option Ipv6 :=
  if h : segments.length = 8 then some ⟨segments, h⟩ else none

/-- The address all of whose bits are zero. -/
def unspecified : Ipv6 :=
  ⟨List.replicate 8 0, by simp⟩

/-- The IPv4 address that the address stands for, when it is a mapped one. -/
def mapped? (address : Ipv6) : Option Ipv4 :=
  match address.segments with
  | [0, 0, 0, 0, 0, 0xFFFF, high, low] =>
      some ⟨(high >>> 8).toUInt8, high.toUInt8, (low >>> 8).toUInt8, low.toUInt8⟩
  | _ => none

/-- A run of zero segments, by its first position and its length. -/
structure ZeroRun where
  start : Nat
  length : Nat
deriving DecidableEq, Repr

/-- The first longest run of zero segments, given the longest so far and the run that ends
just before {lit}`position`. -/
def longestZeroRun (best current : ZeroRun) (position : Nat) : List UInt16 → ZeroRun
  | [] => best
  | segment :: rest =>
      if segment = 0 then
        let current :=
          if current.length = 0 then ⟨position, 1⟩ else ⟨current.start, current.length + 1⟩
        let best := if current.length > best.length then current else best
        longestZeroRun best current (position + 1) rest
      else
        longestZeroRun best ⟨0, 0⟩ (position + 1) rest

/-- Segments in hexadecimal with colons between them. -/
def joinSegments (segments : List UInt16) : String :=
  ":".intercalate (segments.map fun segment => Hex.lower segment.toNat)

/-- The address as it is written.  A mapped IPv4 address keeps its dotted notation. -/
def text (address : Ipv6) : String :=
  match address.mapped? with
  | some ipv4 => "::ffff:" ++ ipv4.text
  | none =>
      let run := longestZeroRun ⟨0, 0⟩ ⟨0, 0⟩ 0 address.segments
      if run.length > 1 then
        joinSegments (address.segments.take run.start) ++ "::" ++
          joinSegments (address.segments.drop (run.start + run.length))
      else
        joinSegments address.segments

end Ipv6

/-! ## Addresses and socket addresses -/

/-- An IP address. -/
inductive IpAddress where
  | v4 (address : Ipv4)
  | v6 (address : Ipv6)
deriving DecidableEq, Repr

/-- The address as it is written. -/
def IpAddress.text : IpAddress → String
  | v4 address => address.text
  | v6 address => address.text

/-- The address of one end of a datagram. -/
inductive SocketAddress where
  | v4 (address : Ipv4) (port : UInt16)
  | v6 (address : Ipv6) (port : UInt16) (flow : UInt32) (scope : UInt32)
deriving DecidableEq, Repr

namespace SocketAddress

/-- The socket address of an IP address and a port, without flow information and scope. -/
def ofIp : IpAddress → UInt16 → SocketAddress
  | .v4 address, port => v4 address port
  | .v6 address, port => v6 address port 0 0

/-- The address as it is written; a scope is shown when it is not zero. -/
def text : SocketAddress → String
  | v4 address port => address.text ++ ":" ++ toString port.toNat
  | v6 address port _ scope =>
      let scopeText := if scope = 0 then "" else "%" ++ toString scope.toNat
      "[" ++ address.text ++ scopeText ++ "]:" ++ toString port.toNat

instance : ToString SocketAddress :=
  ⟨text⟩

end SocketAddress

end DeviceConsole
