import DeviceConsole.Address

/-!
# The connection directory

One connection exists for each peer that the console has heard from.  A new peer gets the
next handle; handles count on across releases and wrap after the largest one.

Main results:

- Theorem {lit}`resolve_of_findByPeer?_some`: a known peer keeps its connection.
- Theorem {lit}`findByPeer?_resolve_self`: after a peer is resolved it is found.
- Theorem {lit}`release_size`: a release empties the directory and keeps the count of
  handles.
-/

namespace DeviceConsole

/-- The handle of a connection. -/
structure ConnectionId where
  number : UInt32
deriving DecidableEq, Repr

/-- The handle as it is printed. -/
def ConnectionId.text (id : ConnectionId) : String :=
  "#" ++ toString id.number.toNat

/-- A peer and the handle that leads to it. -/
structure Connection where
  id : ConnectionId
  peer : SocketAddress
deriving DecidableEq, Repr

/-- The connections in use, the newest first, and the handle of the next one. -/
structure Directory where
  entries : List Connection
  next : UInt32
deriving DecidableEq, Repr

namespace Directory

/-- The directory before any peer is known. -/
def empty : Directory :=
  ⟨[], 0⟩

/-- The connection of a handle. -/
def get? (directory : Directory) (id : ConnectionId) : Option Connection :=
  directory.entries.find? (·.id == id)

/-- The connection of a peer. -/
def findByPeer? (directory : Directory) (peer : SocketAddress) : Option Connection :=
  directory.entries.find? (·.peer == peer)

/-- The number of connections. -/
def size (directory : Directory) : Nat :=
  directory.entries.length

/-- Whether there is no connection. -/
def isEmpty (directory : Directory) : Bool :=
  directory.entries.isEmpty

/-- What resolving a peer gives: its connection, whether it is new, and the directory that
holds it. -/
structure Resolved where
  connection : Connection
  created : Bool
  directory : Directory
deriving DecidableEq, Repr

/-- The connection of a peer, made when the peer is new. -/
def resolve (directory : Directory) (peer : SocketAddress) : Resolved :=
  match directory.findByPeer? peer with
  | some connection => ⟨connection, false, directory⟩
  | none =>
      let connection := ⟨⟨directory.next⟩, peer⟩
      ⟨connection, true, ⟨connection :: directory.entries, directory.next + 1⟩⟩

/-- The directory without its connections. -/
def release (directory : Directory) : Directory :=
  { directory with entries := [] }

/-- A known peer keeps its connection. -/
theorem resolve_of_findByPeer?_some {directory : Directory} {peer : SocketAddress}
    {connection : Connection} (h : directory.findByPeer? peer = some connection) :
    directory.resolve peer = ⟨connection, false, directory⟩ := by
  simp [resolve, h]

/-- A new peer gets the next handle. -/
theorem resolve_of_findByPeer?_none {directory : Directory} {peer : SocketAddress}
    (h : directory.findByPeer? peer = none) :
    directory.resolve peer =
      ⟨⟨⟨directory.next⟩, peer⟩, true,
        ⟨⟨⟨directory.next⟩, peer⟩ :: directory.entries, directory.next + 1⟩⟩ := by
  simp [resolve, h]

/-- The connection that a peer resolves to leads back to the peer. -/
@[simp]
theorem resolve_peer (directory : Directory) (peer : SocketAddress) :
    (directory.resolve peer).connection.peer = peer := by
  cases h : directory.findByPeer? peer with
  | none => rw [resolve_of_findByPeer?_none h]
  | some connection =>
      rw [resolve_of_findByPeer?_some h]
      simpa using List.find?_some h

/-- After a peer is resolved it is found. -/
theorem findByPeer?_resolve_self (directory : Directory) (peer : SocketAddress) :
    (directory.resolve peer).directory.findByPeer? peer =
      some (directory.resolve peer).connection := by
  cases h : directory.findByPeer? peer with
  | none =>
      rw [resolve_of_findByPeer?_none h]
      simp [findByPeer?]
  | some connection =>
      rw [resolve_of_findByPeer?_some h]
      exact h

/-- A release empties the directory and keeps the count of handles. -/
@[simp]
theorem release_size (directory : Directory) :
    directory.release.size = 0 ∧ directory.release.next = directory.next :=
  ⟨rfl, rfl⟩

end Directory

end DeviceConsole
