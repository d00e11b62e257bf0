import DeviceConsole.Proofs.Session.Directory
import Mathlib.Data.List.Dedup
import Mathlib.Data.List.DropRight
import Mathlib.Data.List.Induction

/-!
# The directory over a history of calls

Whatever calls a directory has seen, it is a map from the peers that were resolved since the last
release to the connections that were made for them.  Handles are given out in the order in which
connections are made, and a release does not begin them anew.

Main results:

- Theorem {lit}`Records.step`: every call keeps the directory in line with the history.
- Theorem {lit}`findByPeer?_afterFrom`: a connection stays the one of its peer until the next
  release.
- Theorem {lit}`history_mapsPeers`: the directory behind a history is a map of peers.
-/

namespace DeviceConsole.Directory

/-! ## Calls and their answers -/

/-- A call on the directory. -/
inductive Call where
  /-- Asks for the connection of a peer, which is made when the peer is new. -/
  | resolve (peer : SocketAddress)
  /-- Looks for the connection of a peer. -/
  | findByPeer (peer : SocketAddress)
  /-- Looks for the connection of a handle. -/
  | get (id : ConnectionId)
  /-- Lets every connection go. -/
  | release
deriving DecidableEq

/-- What a call answers. -/
inductive Answer where
  /-- A connection, and whether it was made for this call. -/
  | resolved (connection : Connection) (created : Bool)
  /-- The connection that was looked for, if it is there. -/
  | found (connection : Option Connection)
  /-- How many connections were let go. -/
  | released (count : Nat)
deriving DecidableEq

/-- The answer to a call, and the directory after it. -/
def perform (directory : Directory) : Call → Answer × Directory
  | .resolve peer =>
      let resolved := directory.resolve peer
      (.resolved resolved.connection resolved.created, resolved.directory)
  | .findByPeer peer => (.found (directory.findByPeer? peer), directory)
  | .get id => (.found (directory.get? id), directory)
  | .release => (.released directory.size, directory.release)

/-- The directory after calls in a row. -/
def afterFrom (directory : Directory) (calls : List Call) : Directory :=
  calls.foldl (fun directory call => (directory.perform call).2) directory

/-- The answers to calls in a row. -/
def answersFrom (directory : Directory) : List Call → List Answer
  | [] => []
  | call :: rest => (directory.perform call).1 :: answersFrom (directory.perform call).2 rest

/-- The directory after the calls of a history. -/
def after (history : List Call) : Directory :=
  afterFrom empty history

/-- The answer to a call after the calls of a history. -/
def answer (history : List Call) (call : Call) : Answer :=
  ((after history).perform call).1

@[simp]
theorem afterFrom_append (directory : Directory) (front back : List Call) :
    directory.afterFrom (front ++ back) = (directory.afterFrom front).afterFrom back :=
  List.foldl_append

theorem answersFrom_append (directory : Directory) (front back : List Call) :
    directory.answersFrom (front ++ back) =
      directory.answersFrom front ++ (directory.afterFrom front).answersFrom back := by
  induction front generalizing directory with
  | nil => rfl
  | cons call front ih => exact congrArg (_ :: ·) (ih _)

theorem after_concat (history : List Call) (call : Call) :
    after (history ++ [call]) = ((after history).perform call).2 := by
  rw [after, afterFrom_append]
  rfl

/-! ## What a history comes to -/

/-- The connection that was made for a call. -/
def Answer.created? : Answer → Option Connection
  | resolved connection true => some connection
  | _ => none

/-- The connections that were made during a history, the oldest first. -/
def created (history : List Call) : List Connection :=
  (answersFrom empty history).filterMap Answer.created?

/-- The peer that a call resolves. -/
def Call.resolved? : Call → Option SocketAddress
  | resolve peer => some peer
  | _ => none

/-- Whether a call only looks for a connection. -/
def Call.isLookup : Call → Bool
  | findByPeer _ | get _ => true
  | _ => false

/-- The peers that were resolved since the last release, as often as they were. -/
def peersSince (history : List Call) : List SocketAddress :=
  (history.rtakeWhile (· ≠ .release)).filterMap Call.resolved?

/-- The connection that was made last for a peer. -/
def latest? (history : List Call) (peer : SocketAddress) : Option Connection :=
  ((created history).filter (·.peer = peer)).getLast?

theorem created_concat (history : List Call) (call : Call) :
    created (history ++ [call]) = created history ++ (answer history call).created?.toList := by
  have hanswer : (empty.afterFrom history).answersFrom [call] = [answer history call] := rfl
  rw [created, answersFrom_append, List.filterMap_append, hanswer]
  cases hcreated : (answer history call).created? with
  | none => simp [created, hcreated]
  | some connection => simp [created, hcreated]

theorem created_concat_of_none {history : List Call} {call : Call}
    (hnone : (answer history call).created? = none) :
    created (history ++ [call]) = created history := by
  rw [created_concat, hnone, Option.toList_none, List.append_nil]

theorem peersSince_concat_release (history : List Call) :
    peersSince (history ++ [.release]) = [] := by
  rw [peersSince, List.rtakeWhile_concat_neg _ _ _ (by simp)]
  rfl

theorem peersSince_concat_of_ne {history : List Call} {call : Call} (hne : call ≠ .release) :
    peersSince (history ++ [call]) = peersSince history ++ call.resolved?.toList := by
  rw [peersSince, List.rtakeWhile_concat_pos _ _ _ (by simpa using hne), List.filterMap_append]
  cases call <;> rfl

/-! ## The directory and its history -/

/-- A peer is found exactly when it has an entry. -/
theorem findByPeer?_eq_none_iff {directory : Directory} {peer : SocketAddress} :
    directory.findByPeer? peer = none ↔ peer ∉ directory.entries.map (·.peer) := by
  simp [findByPeer?]

/-- What is found for a peer is one of its entries. -/
theorem mem_of_findByPeer? {directory : Directory} {peer : SocketAddress} {connection : Connection}
    (hfound : directory.findByPeer? peer = some connection) :
    connection ∈ directory.entries ∧ connection.peer = peer :=
  ⟨List.mem_of_find?_eq_some hfound, by simpa using List.find?_some hfound⟩

/-- What the directory has kept of a history. -/
structure Records (history : List Call) (directory : Directory) : Prop where
  /-- The next handle is the number of connections that were made. -/
  next_eq : directory.next = UInt32.ofNat (created history).length
  /-- Connections were given handles in order. -/
  numbered : IsNumbered (created history)
  /-- No peer has two entries. -/
  nodup : (directory.entries.map (·.peer)).Nodup
  /-- The peers are those that were resolved since the last release. -/
  peers : ∀ peer, peer ∈ directory.entries.map (·.peer) ↔ peer ∈ peersSince history
  /-- Each entry is the connection that was made last for its peer. -/
  latest : ∀ connection ∈ directory.entries, latest? history connection.peer = some connection

namespace Records

variable {history : List Call} {directory : Directory}

theorem nil : Records [] empty where
  next_eq := rfl
  numbered := nofun
  nodup := List.nodup_nil
  peers _ := Iff.rfl
  latest := nofun

/-- A look-up is not recorded. -/
theorem lookup (h : Records history directory) {call : Call} (hlookup : call.isLookup)
    (hnone : (answer history call).created? = none) : Records (history ++ [call]) directory := by
  have hcreated := created_concat_of_none hnone
  have hpeers : peersSince (history ++ [call]) = peersSince history := by
    rw [peersSince_concat_of_ne (by rintro rfl; simp [Call.isLookup] at hlookup)]
    cases call <;> simp_all [Call.isLookup, Call.resolved?]
  constructor
  · rw [hcreated]
    exact h.next_eq
  · rw [hcreated]
    exact h.numbered
  · exact h.nodup
  · rw [hpeers]
    exact h.peers
  · simpa only [latest?, hcreated] using h.latest

/-- A release leaves the count of handles. -/
theorem release (h : Records history directory) :
    Records (history ++ [.release]) directory.release := by
  have hcreated : created (history ++ [.release]) = created history := created_concat_of_none rfl
  constructor
  · rw [hcreated]
    exact h.next_eq
  · rw [hcreated]
    exact h.numbered
  · exact List.nodup_nil
  · intro peer
    rw [peersSince_concat_release]
    rfl
  · intro connection hmem
    exact nomatch hmem

/-- A peer that is known keeps its entry. -/
theorem resolve_known (h : Records history directory) {peer : SocketAddress}
    {connection : Connection} (hfound : directory.findByPeer? peer = some connection)
    (hnone : (answer history (.resolve peer)).created? = none) :
    Records (history ++ [.resolve peer]) directory := by
  have hcreated := created_concat_of_none hnone
  have hknown : peer ∈ directory.entries.map (·.peer) := by
    by_contra hmissing
    rw [findByPeer?_eq_none_iff.mpr hmissing] at hfound
    exact nomatch hfound
  constructor
  · rw [hcreated]
    exact h.next_eq
  · rw [hcreated]
    exact h.numbered
  · exact h.nodup
  · intro other
    rw [h.peers, peersSince_concat_of_ne (by simp), List.mem_append]
    constructor
    · exact Or.inl
    · rintro (hmem | hmem)
      · exact hmem
      · obtain rfl : other = peer := by simpa [Call.resolved?] using hmem
        exact (h.peers other).mp hknown
  · simpa only [latest?, hcreated] using h.latest

/-- A peer that is new gets an entry in front of the others, with the next handle. -/
theorem resolve_new (h : Records history directory) {peer : SocketAddress}
    (hnew : directory.findByPeer? peer = none)
    (hmade : (answer history (.resolve peer)).created? = some ⟨⟨directory.next⟩, peer⟩) :
    Records (history ++ [.resolve peer])
      ⟨⟨⟨directory.next⟩, peer⟩ :: directory.entries, directory.next + 1⟩ := by
  have hcreated : created (history ++ [.resolve peer]) =
      created history ++ [⟨⟨directory.next⟩, peer⟩] := by
    rw [created_concat, hmade, Option.toList_some]
  have hmissing : peer ∉ directory.entries.map (·.peer) := findByPeer?_eq_none_iff.mp hnew
  constructor
  · rw [hcreated, List.length_append, List.length_singleton, UInt32.ofNat_add, ← h.next_eq]
    rfl
  · rw [hcreated]
    exact h.numbered.concat h.next_eq
  · rw [List.map_cons, List.nodup_cons]
    exact ⟨hmissing, h.nodup⟩
  · intro other
    rw [List.map_cons, List.mem_cons, h.peers, peersSince_concat_of_ne (by simp), List.mem_append,
      or_comm]
    simp [Call.resolved?]
  · intro connection hmem
    rw [latest?, hcreated, List.filter_append]
    by_cases hpeer : connection.peer = peer
    · -- The new entry is the only one of its peer.
      have hfirst : connection = ⟨⟨directory.next⟩, peer⟩ := by
        rcases List.mem_cons.mp hmem with hfirst | hold
        · exact hfirst
        · exact absurd (List.mem_map.mpr ⟨connection, hold, hpeer⟩) hmissing
      rw [hfirst]
      simp
    · have hold : connection ∈ directory.entries := by
        rcases List.mem_cons.mp hmem with rfl | hold
        · exact absurd rfl hpeer
        · exact hold
      have hother : List.filter (·.peer = connection.peer)
          [(⟨⟨directory.next⟩, peer⟩ : Connection)] = [] := by
        simp [Ne.symm hpeer]
      rw [hother, List.append_nil]
      exact h.latest connection hold

/-- Every call keeps the directory in line with the history. -/
theorem step (h : Records history (after history)) (call : Call) :
    Records (history ++ [call]) (after (history ++ [call])) := by
  rw [after_concat]
  cases call with
  | resolve peer =>
      cases hfound : (after history).findByPeer? peer with
      | some connection =>
          have hsame := resolve_of_findByPeer?_some hfound
          rw [show ((after history).perform (.resolve peer)).2 = after history by
            rw [perform, hsame]]
          refine h.resolve_known hfound ?_
          rw [answer, perform, hsame]
          rfl
      | none =>
          have hmade := resolve_of_findByPeer?_none hfound
          rw [perform, hmade]
          refine h.resolve_new hfound ?_
          rw [answer, perform, hmade]
          rfl
  | findByPeer peer => exact h.lookup rfl rfl
  | get id => exact h.lookup rfl rfl
  | release => exact h.release

end Records

/-- The directory after a history has kept what the history comes to. -/
theorem records (history : List Call) : Records history (after history) := by
  induction history using List.reverseRecOn with
  | nil => exact .nil
  | append_singleton front call ih => exact ih.step call

/-- A connection stays the one of its peer until the next release. -/
theorem findByPeer?_afterFrom {directory : Directory} {peer : SocketAddress}
    {connection : Connection} (hfound : directory.findByPeer? peer = some connection)
    {calls : List Call} (hkeeps : .release ∉ calls) :
    (directory.afterFrom calls).findByPeer? peer = some connection := by
  induction calls generalizing directory with
  | nil => exact hfound
  | cons call rest ih =>
      rw [List.mem_cons, not_or] at hkeeps
      refine ih ?_ hkeeps.2
      cases call with
      | resolve other =>
          change (directory.resolve other).directory.findByPeer? peer = some connection
          cases hother : directory.findByPeer? other with
          | some _ =>
              rw [resolve_of_findByPeer?_some hother]
              exact hfound
          | none =>
              have hne : other ≠ peer := by
                rintro rfl
                rw [hother] at hfound
                exact nomatch hfound
              rw [resolve_of_findByPeer?_none hother, findByPeer?,
                List.find?_cons_of_neg (by simpa using hne)]
              exact hfound
      | findByPeer _ => exact hfound
      | get _ => exact hfound
      | release => exact absurd rfl hkeeps.1

/-- Look-ups make no difference to what comes after them. -/
theorem afterFrom_filter (directory : Directory) (calls : List Call) :
    directory.afterFrom (calls.filter (! ·.isLookup)) = directory.afterFrom calls := by
  induction calls generalizing directory with
  | nil => rfl
  | cons call rest ih =>
      cases call with
      | resolve peer => exact ih _
      | findByPeer peer => exact ih _
      | get id => exact ih _
      | release => exact ih _

/-! ## The directory as a map -/

/-- The directory after a history is a map from peers to connections. -/
structure MapsPeers (history : List Call) : Prop where
  /-- There is at most one entry for a peer. -/
  nodup : ((after history).entries.map (·.peer)).Nodup
  /-- A peer that was not resolved since the last release is not found, and resolving it makes a
  connection for it. -/
  fresh : ∀ peer, peer ∉ peersSince history → answer history (.findByPeer peer) = .found none ∧
    ∃ connection, answer history (.resolve peer) = .resolved connection true ∧
      connection.peer = peer
  /-- Any other peer is found with the connection that was made last for it, and resolving it makes
  none. -/
  known : ∀ peer ∈ peersSince history, ∃ connection, latest? history peer = some connection ∧
    answer history (.findByPeer peer) = .found (some connection) ∧
      answer history (.resolve peer) = .resolved connection false
  /-- This is the very connection that was answered whenever the peer was resolved since then. -/
  kept : ∀ before since peer, history = before ++ .resolve peer :: since → .release ∉ since →
    ∃ connection isNew, answer before (.resolve peer) = .resolved connection isNew ∧
      answer history (.resolve peer) = .resolved connection false
  /-- There are as many entries as peers that were resolved since the last release, and a release
  tells this number. -/
  size_eq : (after history).size = (peersSince history).dedup.length
  released : answer history .release = .released (peersSince history).dedup.length
  /-- Handles count the connections that were made, across releases. -/
  numbered : ∀ index connection, (created history)[index]? = some connection →
    connection.id.number.toNat = index % Nat.pow 2 32
  /-- Looking for connections changes nothing. -/
  lookups : after (history.filter (! ·.isLookup)) = after history

/-- The directory after any history of calls is a map from peers to connections. -/
theorem history_mapsPeers (history : List Call) : MapsPeers history := by
  have h := records history
  have hsize : (after history).size = (peersSince history).dedup.length := by
    have hperm : (after history).entries.map (·.peer) |>.Perm (peersSince history).dedup := by
      rw [List.perm_ext_iff_of_nodup h.nodup (List.nodup_dedup _)]
      simpa using h.peers
    rw [← hperm.length_eq, List.length_map, size]
  constructor
  · exact h.nodup
  · intro peer hpeer
    rw [← h.peers, ← findByPeer?_eq_none_iff] at hpeer
    refine ⟨congrArg Answer.found hpeer, ⟨⟨(after history).next⟩, peer⟩, ?_, rfl⟩
    rw [answer, perform, resolve_of_findByPeer?_none hpeer]
  · intro peer hpeer
    obtain ⟨connection, hfound⟩ : ∃ connection,
        (after history).findByPeer? peer = some connection := by
      rw [← Option.ne_none_iff_exists', Ne, findByPeer?_eq_none_iff, not_not]
      exact (h.peers peer).mpr hpeer
    obtain ⟨hmem, rfl⟩ := mem_of_findByPeer? hfound
    refine ⟨connection, h.latest connection hmem, congrArg Answer.found hfound, ?_⟩
    rw [answer, perform, resolve_of_findByPeer?_some hfound]
  · rintro before since peer rfl hkeeps
    let resolved := (after before).resolve peer
    have hfound := findByPeer?_afterFrom ((after before).findByPeer?_resolve_self peer) hkeeps
    have hlater : (after (before ++ .resolve peer :: since)).findByPeer? peer =
        some resolved.connection := by
      rw [after, afterFrom_append]
      exact hfound
    refine ⟨resolved.connection, resolved.created, rfl, ?_⟩
    rw [answer, perform, resolve_of_findByPeer?_some hlater]
  · exact hsize
  · exact congrArg Answer.released hsize
  · intro index connection hfound
    rw [h.numbered index connection hfound, UInt32.toNat_ofNat']
  · exact afterFrom_filter empty history

/-- A release begins the map anew and the handles not. -/
example :
    let home : SocketAddress := .v4 ⟨192, 0, 2, 1⟩ 5683
    answer [.resolve home, .resolve home, .release] (.resolve home) =
      .resolved ⟨⟨1⟩, home⟩ true := by
  decide

end DeviceConsole.Directory
