import DeviceConsole.Proofs.Session.Moves

/-!
# The directory during a run

The directory holds the connections that were opened, the newest first, until the socket is
closed.  Handles are numbers that are given out in order and begin anew after the largest
one, so a handle leads to its connection until that many other connections were opened.

Main results:

- Theorem {lit}`Directed.step`: every step keeps the directory in line with the connections
  that were opened.
- Theorem {lit}`IsNumbered.nodup_ids`: connections have different handles while no number was
  given out twice.
- Theorem {lit}`Directed.get?_eq`: a handle leads to its connection until the numbers are
  used up.
-/

namespace DeviceConsole

variable {η ω : Type}

namespace Trace

/-- The connections that were opened, the oldest first. -/
def opened (trace : Trace) : List Connection :=
  trace.filterMap fun
    | .reported (.connectionOpened connection) => some connection
    | _ => none

@[simp]
theorem opened_append (left right : Trace) :
    opened (left ++ right) = opened left ++ opened right := by
  simp [opened]

/-- How many connections were opened after a connection was. -/
def openedSince (trace : Trace) (connection : Connection) : Nat :=
  (trace.opened.reverse.takeWhile (· ≠ connection)).length

end Trace

/-! ## The directory -/

/-- The number of handles. -/
def handleCount : Nat :=
  UInt32.size

/-- Connections that were given handles in order. -/
def IsNumbered (opened : List Connection) : Prop :=
  ∀ (index : Nat) (connection : Connection),
    opened[index]? = some connection → connection.id.number = UInt32.ofNat index

namespace IsNumbered

variable {opened more : List Connection}

theorem of_append (h : IsNumbered (opened ++ more)) : IsNumbered opened := by
  intro index connection hfound
  have hlt : index < opened.length := (List.getElem?_eq_some_iff.mp hfound).1
  exact h index connection (by rwa [List.getElem?_append_left hlt])

/-- The next connection gets the next number. -/
theorem concat (h : IsNumbered opened) {connection : Connection}
    (hnext : connection.id.number = UInt32.ofNat opened.length) :
    IsNumbered (opened ++ [connection]) := by
  intro index other hfound
  rcases Nat.lt_or_ge index opened.length with hlt | hge
  · rw [List.getElem?_append_left hlt] at hfound
    exact h index other hfound
  · rw [List.getElem?_append_right hge, List.getElem?_singleton] at hfound
    split at hfound
    · rename_i hzero
      obtain rfl := Option.some.inj hfound
      have hindex : index = opened.length := by omega
      rw [hindex]
      exact hnext
    · simp at hfound

/-- Connections that are less than a full round of numbers apart have different handles. -/
theorem id_ne (h : IsNumbered opened) {first second : Nat} {older newer : Connection}
    (hfirst : opened[first]? = some older) (hsecond : opened[second]? = some newer)
    (hlt : first < second) (hnear : second < first + handleCount) : older.id ≠ newer.id := by
  intro heq
  have hnumber : UInt32.ofNat first = UInt32.ofNat second := by
    rw [← h first older hfirst, ← h second newer hsecond, heq]
  have hmod : first % handleCount = second % handleCount := by
    simpa [handleCount, UInt32.size] using congrArg UInt32.toNat hnumber
  unfold handleCount UInt32.size at hmod hnear
  omega

/-- While no number was given out twice, connections have different handles. -/
theorem nodup_ids (h : IsNumbered opened) (hfew : opened.length ≤ handleCount) :
    (opened.map (·.id)).Nodup := by
  rw [List.Nodup, List.pairwise_map, List.pairwise_iff_getElem]
  intro first second hfirst hsecond hlt
  refine h.id_ne (List.getElem?_eq_getElem hfirst) (List.getElem?_eq_getElem hsecond) hlt ?_
  omega

end IsNumbered

/-- The directory is what the events so far make of it. -/
structure Directed (past : Trace) (session : Session η ω) : Prop where
  /-- Every connection in the directory was opened. -/
  known : ∀ connection ∈ session.directory.entries, connection ∈ past.opened
  /-- Until the socket is closed, every connection that was opened is there, the newest first. -/
  entries_eq : .socketClosed ∉ past → session.directory.entries = past.opened.reverse
  /-- The next handle is the number of connections that were opened. -/
  next_eq : session.directory.next = UInt32.ofNat past.opened.length
  /-- Connections were given handles in order. -/
  numbered : IsNumbered past.opened

namespace Directed

variable {past events : Trace} {session next : Session η ω}

theorem empty (hempty : session.directory = .empty) : Directed [] session := by
  constructor <;> simp [hempty, Directory.empty, Trace.opened, IsNumbered]

/-- Events that open nothing leave the directory in line. -/
theorem aside (h : Directed past session) (hopened : events.opened = [])
    (hdirectory : next.directory = session.directory) :
    Directed (past ++ events) next := by
  constructor
  · simpa [hopened, hdirectory] using h.known
  · intro hnone
    rw [Trace.opened_append, hopened, List.append_nil, hdirectory]
    exact h.entries_eq fun hmem => hnone (List.mem_append_left _ hmem)
  · simpa [hopened, hdirectory] using h.next_eq
  · simpa [hopened] using h.numbered

/-- A new peer gets the next handle. -/
theorem resolve_new (h : Directed past session) {peer : SocketAddress}
    (hnew : session.directory.findByPeer? peer = none) :
    Directed (past ++ [.reported (.connectionOpened ⟨⟨session.directory.next⟩, peer⟩)])
      { session with directory := (session.directory.resolve peer).directory } := by
  have hopened : Trace.opened [.reported (.connectionOpened ⟨⟨session.directory.next⟩, peer⟩)] =
      [⟨⟨session.directory.next⟩, peer⟩] := rfl
  rw [Directory.resolve_of_findByPeer?_none hnew]
  constructor
  · intro connection hmem
    rw [Trace.opened_append, hopened, List.mem_append]
    rcases List.mem_cons.mp hmem with rfl | hold
    · exact Or.inr (List.mem_singleton_self _)
    · exact Or.inl (h.known connection hold)
  · intro hnone
    have hpast : .socketClosed ∉ past := fun hmem => hnone (List.mem_append_left _ hmem)
    rw [Trace.opened_append, hopened, List.reverse_append, h.entries_eq hpast]
    rfl
  · rw [Trace.opened_append, hopened, List.length_append, List.length_singleton]
    change session.directory.next + 1 = _
    rw [h.next_eq, UInt32.ofNat_add]
    rfl
  · rw [Trace.opened_append, hopened]
    exact h.numbered.concat h.next_eq

/-- Letting everything go leaves only what was opened. -/
theorem release (h : Directed past session) :
    Directed (past ++ [.socketClosed]) { session with directory := session.directory.release } := by
  constructor
  · intro connection hmem
    simp [Directory.release] at hmem
  · intro hnone
    exact absurd (List.mem_append_right past (List.mem_singleton_self _)) hnone
  · simpa [Trace.opened] using h.next_eq
  · simpa [Trace.opened] using h.numbered

theorem opened_of_isPlain {event : Event} (hplain : event.isPlain) :
    Trace.opened [event] = [] := by
  cases event with
  | reported report => cases report <;> simp_all [Event.isPlain, Trace.opened]
  | _ => rfl

/-- Every step keeps the directory in line with the connections that were opened. -/
theorem step (h : Directed past session) (hstep : Step session events next) :
    Directed (past ++ events) next := by
  cases hstep with
  | move hmove =>
      cases hmove with
      | tell hplain => exact h.aside (opened_of_isPlain hplain) rfl
      | resolve peer =>
          cases hfound : session.directory.findByPeer? peer with
          | none =>
              have hnew := h.resolve_new hfound
              rwa [Directory.resolve_of_findByPeer?_none hfound] at hnew ⊢
          | some connection =>
              rw [Directory.resolve_of_findByPeer?_some hfound]
              exact h.aside rfl rfl
      | release => exact h.release
      | _ => exact h.aside rfl rfl
  | _ => exact h.aside rfl rfl

/-! ## Handles -/

/-- A handle leads to its connection until the numbers are used up. -/
theorem get?_eq (h : Directed past session) (hopen : .socketClosed ∉ past)
    {connection : Connection} (hmem : connection ∈ past.opened)
    (hsince : past.openedSince connection < handleCount) :
    session.directory.get? connection.id = some connection := by
  have hmem' : connection ∈ past.opened.reverse := List.mem_reverse.mpr hmem
  obtain ⟨newer, older, hsplit, hnotMem⟩ := List.eq_append_cons_of_mem hmem'
  have hnewer : newer.length < handleCount := by
    have htake : past.opened.reverse.takeWhile (· ≠ connection) = newer := by
      rw [hsplit, List.takeWhile_append_of_pos]
      · simp
      · intro other hother
        simp only [decide_eq_true_eq]
        rintro rfl
        exact hnotMem hother
    rwa [Trace.openedSince, htake] at hsince
  have hopened : past.opened = older.reverse ++ connection :: newer.reverse := by
    rw [← List.reverse_reverse past.opened, hsplit]
    simp
  have hfirst : past.opened[older.length]? = some connection := by
    rw [hopened, List.getElem?_append_right (by simp)]
    simp
  -- Every newer connection comes less than a full round of numbers later.
  have hother : ∀ other ∈ newer, (other.id == connection.id) = false := by
    intro other hother
    obtain ⟨index, hindex, hfound⟩ := List.mem_iff_getElem.mp (List.mem_reverse.mpr hother)
    rw [List.length_reverse] at hindex
    have hsecond : past.opened[older.length + 1 + index]? = some other := by
      rw [hopened, List.getElem?_append_right (by simp; omega)]
      have hskip : older.length + 1 + index - older.reverse.length = index + 1 := by
        rw [List.length_reverse]
        omega
      rw [hskip, List.getElem?_cons_succ, List.getElem?_eq_some_iff]
      exact ⟨by simpa using hindex, hfound⟩
    have hne := h.numbered.id_ne hfirst hsecond (by omega) (by omega)
    simpa using hne.symm
  rw [Directory.get?, h.entries_eq hopen, hsplit, List.find?_append,
    List.find?_eq_none.mpr (by simpa using hother)]
  simp

end Directed

end DeviceConsole
