import DeviceConsole.Address
import DeviceConsole.Text.Reader

/-!
# Reading network addresses

Readers take a text from its front and give back what is left, so that the longer forms
are put together from the shorter ones.  A whole text is an address when nothing is left.

Main results:

- Definition {lit}`IpAddress.parse?`: the literals of either family.
- Definition {lit}`SocketAddress.parse?`: an address with a port, and brackets around an
  IPv6 address.
-/

namespace DeviceConsole

namespace Ipv4

/-- Reads one octet. -/
def readOctet : Reader UInt8 := fun text =>
  (Reader.number 10 (some 3) false 256 text).map fun (n, rest) => (UInt8.ofNat n, rest)

/-- Reads four octets with points between them. -/
def read : Reader Ipv4 := fun text => do
  let (a, text) ← readOctet text
  let (_, text) ← Reader.char '.' text
  let (b, text) ← readOctet text
  let (_, text) ← Reader.char '.' text
  let (c, text) ← readOctet text
  let (_, text) ← Reader.char '.' text
  let (d, text) ← readOctet text
  return (⟨a, b, c, d⟩, text)

/-- The two segments that the address fills in an IPv6 address. -/
def segments (address : Ipv4) : List UInt16 :=
  [address.a.toUInt16 * 256 + address.b.toUInt16, address.c.toUInt16 * 256 + address.d.toUInt16]

end Ipv4

namespace Ipv6

/-- Reads with {lit}`reader` behind a colon, or without one when nothing stands in front. -/
def readAfterColon {α : Type} (first : Bool) (reader : Reader α) : Reader α := fun text =>
  if first then reader text
  else do
    let (_, text) ← Reader.char ':' text
    reader text

/-- Reads one segment. -/
def readSegment : Reader UInt16 := fun text =>
  (Reader.number 16 (some 4) true 65536 text).map fun (n, rest) => (UInt16.ofNat n, rest)

/-- Segments read in a row, whether an IPv4 address ended them, and the text that is left. -/
structure Group where
  segments : List UInt16
  endsInIpv4 : Bool
  rest : List Char

/-- Reads as many segments as follow each other, up to {lit}`room` of them.  Where two
still fit, an IPv4 address may end the row. -/
def readGroup (first : Bool) : Nat → List Char → Group
  | 0, text => ⟨[], false, text⟩
  | room + 1, text =>
      let ipv4 := if room = 0 then none else readAfterColon first Ipv4.read text
      match ipv4 with
      | some (address, rest) => ⟨address.segments, true, rest⟩
      | none =>
          match readAfterColon first readSegment text with
          | none => ⟨[], false, text⟩
          | some (segment, rest) =>
              let group := readGroup false room rest
              { group with segments := segment :: group.segments }

/-- Reads eight segments, or fewer with one double colon in place of the missing ones. -/
def read : Reader Ipv6 := fun text =>
  let front := readGroup true 8 text
  if front.segments.length = 8 then
    (ofSegments? front.segments).map (·, front.rest)
  else if front.endsInIpv4 then
    none
  else do
    let (_, text) ← Reader.char ':' front.rest
    let (_, text) ← Reader.char ':' text
    let back := readGroup true (7 - front.segments.length) text
    let missing := 8 - front.segments.length - back.segments.length
    let address ← ofSegments? (front.segments ++ List.replicate missing 0 ++ back.segments)
    return (address, back.rest)

end Ipv6

/-- The address that a literal of either family stands for. -/
def IpAddress.parse? (text : List Char) : Option IpAddress :=
  ((Reader.whole Ipv4.read text).map IpAddress.v4).or
    ((Reader.whole Ipv6.read text).map IpAddress.v6)

namespace SocketAddress

/-- Reads a colon and a port. -/
def readPort : Reader UInt16 := fun text => do
  let (_, text) ← Reader.char ':' text
  let (n, text) ← Reader.number 10 none true 65536 text
  return (UInt16.ofNat n, text)

/-- Reads a percent sign and a scope; without the sign the scope is zero. -/
def readScope : Reader UInt32 := fun text =>
  let scope := do
    let (_, text) ← Reader.char '%' text
    let (n, text) ← Reader.number 10 none true 4294967296 text
    return (UInt32.ofNat n, text)
  scope.orElse fun _ => some (0, text)

/-- Reads an IPv4 socket address. -/
def readV4 : Reader SocketAddress := fun text => do
  let (address, text) ← Ipv4.read text
  let (port, text) ← readPort text
  return (v4 address port, text)

/-- Reads an IPv6 socket address.  No flow information is written in it. -/
def readV6 : Reader SocketAddress := fun text => do
  let (_, text) ← Reader.char '[' text
  let (address, text) ← Ipv6.read text
  let (scope, text) ← readScope text
  let (_, text) ← Reader.char ']' text
  let (port, text) ← readPort text
  return (v6 address port 0 scope, text)

/-- The socket address that a text stands for. -/
def parse? (text : List Char) : Option SocketAddress :=
  (Reader.whole readV4 text).or (Reader.whole readV6 text)

end SocketAddress

end DeviceConsole
