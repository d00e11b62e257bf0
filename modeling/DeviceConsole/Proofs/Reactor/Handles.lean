import DeviceConsole.Proofs.Reactor.Moves
import DeviceConsole.Proofs.Session.Directory
import DeviceConsole.Proofs.Session.Topics

/-!
# Where handles lead

The engine is handed a connection with every datagram, and later sends datagrams over its
handle.  What it sends goes to the peer that the handle was given out for, until the handle
is given out again; a handle that was never given out leads nowhere.

Main results:

- Theorem {lit}`Traffic.step`: every step sends as the directory says.
- Theorem {lit}`run_leadsBack`: in a run, what is sent over a handle goes to its peer.
- Theorem {lit}`handle_given_out_again`: after more peers than there are handles, it goes to
  another one.
-/

namespace DeviceConsole

variable {η ω : Type}

/-! ## What was sent -/

/-- Whether an event is about a datagram to a peer or to the engine. -/
def Event.isTraffic : Event → Bool
  | called (.handlePacket _ _) | sent _ _ | sendAnswered _ _ => true
  | _ => false

/-- How a send over a handle went: a datagram was just given to the socket, for the connection
of the handle, or there was no such connection and nothing was given to the socket. -/
inductive SendResult (before : Trace) (id : ConnectionId) (answer : Except LinkFailure Unit) :
    Prop where
  | sent (front : Trace) (connection : Connection) (datagram : List UInt8)
      (hbefore : before = front ++ [.sent connection.peer datagram])
      (hknown : connection ∈ front.opened) (hid : connection.id = id)
      (honly : .socketClosed ∉ front → ∀ other ∈ front.opened, other.id = id →
        front.openedSince other < handleCount → other = connection)
  | lost (hanswer : answer = .error (.unknownConnection id))
      (hquiet : ∀ front peer datagram, before ≠ front ++ [.sent peer datagram])
      (hnone : .socketClosed ∉ before → ∀ other ∈ before.opened, other.id = id →
        handleCount ≤ before.openedSince other)

/-- What the events so far say about connections that were handed over and datagrams that were
sent. -/
structure Traffic (past : Trace) : Prop where
  handed : ∀ {before after : Trace} {connection : Connection} {bytes : List UInt8},
    past = before ++ .called (.handlePacket connection bytes) :: after →
      connection ∈ before.opened
  answered : ∀ {before after : Trace} {id : ConnectionId} {answer : Except LinkFailure Unit},
    past = before ++ .sendAnswered id answer :: after → SendResult before id answer
  paired : ∀ {before after : Trace} {peer : SocketAddress} {datagram : List UInt8},
    past = before ++ .sent peer datagram :: after →
      ∃ id answer rest, after = .sendAnswered id answer :: rest

namespace Traffic

variable {past events : Trace} {session next : Session η ω}

theorem empty : Traffic [] := by
  constructor <;> simp

/-- More events add to the traffic only what they are themselves. -/
theorem append (h : Traffic past)
    (hhanded : ∀ {front after connection bytes},
      events = front ++ .called (.handlePacket connection bytes) :: after →
        connection ∈ (past ++ front).opened)
    (hanswered : ∀ {front after id answer},
      events = front ++ .sendAnswered id answer :: after → SendResult (past ++ front) id answer)
    (hpaired : ∀ {front after peer datagram},
      events = front ++ .sent peer datagram :: after →
        ∃ id answer rest, after = .sendAnswered id answer :: rest) :
    Traffic (past ++ events) := by
  constructor
  · intro before after connection bytes hsplit
    rcases Trace.split_append hsplit with ⟨rest, hpast, -⟩ | ⟨front, rfl, hevents⟩
    · exact h.handed hpast
    · exact hhanded hevents
  · intro before after id answer hsplit
    rcases Trace.split_append hsplit with ⟨rest, hpast, -⟩ | ⟨front, rfl, hevents⟩
    · exact h.answered hpast
    · exact hanswered hevents
  · intro before after peer datagram hsplit
    rcases Trace.split_append hsplit with ⟨rest, hpast, rfl⟩ | ⟨front, rfl, hevents⟩
    · obtain ⟨id, answer, more, rfl⟩ := h.paired hpast
      exact ⟨id, answer, more ++ events, rfl⟩
    · exact hpaired hevents

theorem aside (h : Traffic past) (haside : ∀ event ∈ events, event.isTraffic = false) :
    Traffic (past ++ events) := by
  have hnot : ∀ {front after : Trace} {event : Event}, events = front ++ event :: after →
      event.isTraffic = false := by
    rintro front after event rfl
    exact haside event (by simp)
  apply h.append
  · intro front after connection bytes hevents
    exact nomatch hnot hevents
  · intro front after id answer hevents
    exact nomatch hnot hevents
  · intro front after peer datagram hevents
    exact nomatch hnot hevents

/-- Between two moves no send is left without its answer. -/
theorem quiet (h : Traffic past) (front : Trace) (peer : SocketAddress) (datagram : List UInt8) :
    past ≠ front ++ [.sent peer datagram] := by
  intro hpast
  obtain ⟨id, answer, rest, hrest⟩ := h.paired hpast
  simp at hrest

/-- One more event that sends nothing. -/
theorem push (h : Traffic past) {event : Event}
    (hhanded : ∀ connection bytes, event = .called (.handlePacket connection bytes) →
      connection ∈ past.opened)
    (hanswered : ∀ id answer, event = .sendAnswered id answer → SendResult past id answer)
    (hsent : ∀ peer datagram, event ≠ .sent peer datagram) : Traffic (past ++ [event]) := by
  have hsingle : ∀ {front after : Trace} {other : Event}, [event] = front ++ other :: after →
      front = [] ∧ event = other := by
    intro front after other hevents
    cases front with
    | nil => exact ⟨rfl, (List.cons.inj hevents).1⟩
    | cons first rest => simp at hevents
  apply h.append
  · intro front after connection bytes hevents
    obtain ⟨rfl, hevent⟩ := hsingle hevents
    rw [List.append_nil]
    exact hhanded connection bytes hevent
  · intro front after id answer hevents
    obtain ⟨rfl, hevent⟩ := hsingle hevents
    rw [List.append_nil]
    exact hanswered id answer hevent
  · intro front after peer datagram hevents
    obtain ⟨-, hevent⟩ := hsingle hevents
    exact absurd hevent (hsent peer datagram)

/-- A connection that is handed over was opened. -/
theorem hand (h : Traffic past) (hdirected : Directed past session) {connection : Connection}
    (hfound : session.directory.findByPeer? connection.peer = some connection)
    (bytes : List UInt8) :
    Traffic (past ++ [.called (.handlePacket connection bytes)]) := by
  apply h.push
  · intro handed given hevent
    obtain ⟨rfl, -⟩ : connection = handed ∧ bytes = given := by simpa using hevent
    exact hdirected.known connection (List.mem_of_find?_eq_some hfound)
  · intro id answer hevent
    exact nomatch hevent
  · intro peer datagram hevent
    exact nomatch hevent

/-- Without a connection for the handle, nothing is given to the socket. -/
theorem lose (h : Traffic past) (hdirected : Directed past session) {id : ConnectionId}
    (hnone : session.directory.get? id = none) :
    Traffic (past ++ [.sendAnswered id (.error (.unknownConnection id))]) := by
  have hresult : SendResult past id (.error (.unknownConnection id)) := by
    refine SendResult.lost rfl h.quiet ?_
    intro hopen other hother hsame
    rcases Nat.lt_or_ge (past.openedSince other) handleCount with hsince | hsince
    · have hget := hdirected.get?_eq hopen hother hsince
      rw [hsame, hnone] at hget
      simp at hget
    · exact hsince
  apply h.push
  · intro connection bytes hevent
    exact nomatch hevent
  · intro other answer hevent
    obtain ⟨rfl, rfl⟩ : id = other ∧ .error (.unknownConnection id) = answer := by
      simpa using hevent
    exact hresult
  · intro peer datagram hevent
    exact nomatch hevent

/-- A datagram goes to the connection that the directory has for the handle. -/
theorem send (h : Traffic past) (hdirected : Directed past session) {id : ConnectionId}
    {entry : Connection} (hfound : session.directory.get? id = some entry)
    (datagram : List UInt8) (answer : Except LinkFailure Unit) :
    Traffic (past ++ [.sent entry.peer datagram, .sendAnswered id answer]) := by
  have hid : entry.id = id := by simpa using List.find?_some hfound
  have hresult : SendResult (past ++ [.sent entry.peer datagram]) id answer := by
    refine SendResult.sent past entry datagram rfl
      (hdirected.known entry (List.mem_of_find?_eq_some hfound)) hid ?_
    intro hopen other hother hsame hsince
    have hget := hdirected.get?_eq hopen hother hsince
    rw [hsame, hfound] at hget
    exact (Option.some.inj hget).symm
  have hpair : ∀ {front after : Trace} {event : Event},
      [.sent entry.peer datagram, .sendAnswered id answer] = front ++ event :: after →
      (event = .sent entry.peer datagram ∧ after = [.sendAnswered id answer]) ∨
      (front = [.sent entry.peer datagram] ∧ event = .sendAnswered id answer) := by
    intro front after event hevents
    rcases front with _ | ⟨first, _ | ⟨second, front⟩⟩ <;> simp_all
  apply h.append
  · intro front after connection bytes hevents
    rcases hpair hevents with ⟨hevent, -⟩ | ⟨-, hevent⟩
    · exact nomatch hevent
    · exact nomatch hevent
  · intro front after other given hevents
    rcases hpair hevents with ⟨hevent, -⟩ | ⟨rfl, hevent⟩
    · exact nomatch hevent
    · obtain ⟨rfl, rfl⟩ : other = id ∧ given = answer := by simpa using hevent
      exact hresult
  · intro front after peer given hevents
    rcases hpair hevents with ⟨-, hafter⟩ | ⟨-, hevent⟩
    · exact ⟨id, answer, [], hafter⟩
    · exact nomatch hevent

theorem isTraffic_of_isPlain {event : Event} (hplain : event.isPlain) :
    event.isTraffic = false := by
  cases event with
  | called call => cases call <;> simp_all [Event.isPlain, Event.isTraffic]
  | _ => simp_all [Event.isPlain, Event.isTraffic]

/-- Every step adds to the traffic as the directory says. -/
theorem step (h : Traffic past) (hdirected : Directed past session)
    (hstep : Step session events next) : Traffic (past ++ events) := by
  cases hstep with
  | move hmove =>
      cases hmove with
      | tell hplain => exact h.aside (by simpa using isTraffic_of_isPlain hplain)
      | send hfound datagram result host => exact h.send hdirected hfound datagram _
      | lose hnone => exact h.lose hdirected hnone
      | hand hfound bytes => exact h.hand hdirected hfound bytes
      | resolve peer =>
          refine h.aside ?_
          split <;> simp [Event.isTraffic]
      | _ => exact h.aside (by simp [Event.isTraffic])
  | _ => exact h.aside (by simp [Event.isTraffic])

end Traffic

/-! ## A run -/

/-- Where the handles of a run lead. -/
structure LeadsBack (trace : Trace) : Prop where
  /-- The engine is handed connections that were opened. -/
  handed : ∀ (before after : Trace) (connection : Connection) (bytes : List UInt8),
    trace = before ++ .called (.handlePacket connection bytes) :: after →
      connection ∈ before.opened
  /-- What is sent over the handle of a connection that was handed over goes to its peer, until
  the socket is closed or the handle is given out again. -/
  leads : ∀ (before between after : Trace) (connection : Connection) (bytes : List UInt8)
      (answer : Except LinkFailure Unit),
    trace = before ++ .called (.handlePacket connection bytes) ::
      (between ++ .sendAnswered connection.id answer :: after) →
    .socketClosed ∉ before ++ between →
    (before ++ between).openedSince connection < handleCount →
      ∃ front datagram, between = front ++ [.sent connection.peer datagram]
  /-- Connections have different handles as long as no handle was given out twice. -/
  distinct : ∀ before after : Trace, trace = before ++ after →
    before.opened.length ≤ handleCount → (before.opened.map (·.id)).Nodup
  /-- A handle that was never given out leads nowhere. -/
  unknown : ∀ (before after : Trace) (id : ConnectionId) (answer : Except LinkFailure Unit),
    trace = before ++ .sendAnswered id answer :: after →
    (∀ connection ∈ before.opened, connection.id ≠ id) →
      answer = .error (.unknownConnection id) ∧
        ∀ front peer datagram, before ≠ front ++ [.sent peer datagram]
  /-- Nothing is given to the socket but for a handle that is answered next. -/
  paired : ∀ (before after : Trace) (peer : SocketAddress) (datagram : List UInt8),
    trace = before ++ .sent peer datagram :: after →
      ∃ id answer rest, after = .sendAnswered id answer :: rest

/-- What is sent over the handle of a connection that was handed over goes to its peer. -/
theorem Traffic.leads {trace : Trace} (h : Traffic trace) {before between after : Trace}
    {connection : Connection} {bytes : List UInt8} {answer : Except LinkFailure Unit}
    (htrace : trace = before ++ .called (.handlePacket connection bytes) ::
      (between ++ .sendAnswered connection.id answer :: after))
    (hopen : .socketClosed ∉ before ++ between)
    (hsince : (before ++ between).openedSince connection < handleCount) :
    ∃ front datagram, between = front ++ [.sent connection.peer datagram] := by
  have hpast : (before ++ .called (.handlePacket connection bytes) :: between).opened =
      (before ++ between).opened := by
    simp [Trace.opened]
  have hmem : connection ∈ (before ++ between).opened := by
    rw [Trace.opened_append]
    exact List.mem_append_left _ (h.handed htrace)
  rw [← List.cons_append, ← List.append_assoc] at htrace
  cases h.answered htrace with
  | sent front entry datagram hbefore hknown hid honly =>
      have hfront : front.opened = (before ++ between).opened := by
        rw [← hpast, hbefore, Trace.opened_append]
        simp [Trace.opened]
      have hclosed : .socketClosed ∉ front := by
        intro hmem
        have hboth :
            .socketClosed ∈ before ++ .called (.handlePacket connection bytes) :: between := by
          rw [hbefore]
          exact List.mem_append_left _ hmem
        exact hopen (by simpa using hboth)
      obtain rfl : connection = entry := by
        refine honly hclosed connection (hfront ▸ hmem) rfl ?_
        rwa [Trace.openedSince, hfront]
      rcases List.eq_nil_or_concat between with rfl | ⟨rest, last, rfl⟩
      · have hlast := List.append_inj_right' hbefore rfl
        simp at hlast
      · rw [List.concat_eq_append, ← List.cons_append, ← List.append_assoc] at hbefore
        have hlast := List.append_inj_right' hbefore rfl
        exact ⟨rest, datagram, by rw [List.concat_eq_append, hlast]⟩
  | lost hanswer hquiet hnone =>
      have hlong := hnone (by simpa using hopen) connection (hpast ▸ hmem) rfl
      rw [Trace.openedSince, hpast] at hlong
      rw [Trace.openedSince] at hsince
      omega

theorem Traffic.leadsBack {trace : Trace} (h : Traffic trace)
    (hnumbered : IsNumbered trace.opened) : LeadsBack trace := by
  constructor
  · intro before after connection bytes htrace
    exact h.handed htrace
  · intro before between after connection bytes answer htrace hopen hsince
    exact h.leads htrace hopen hsince
  · intro before after htrace hfew
    rw [htrace, Trace.opened_append] at hnumbered
    exact hnumbered.of_append.nodup_ids hfew
  · intro before after id answer htrace hunknown
    cases h.answered htrace with
    | sent front connection datagram hbefore hknown hid honly =>
        have hmem : connection ∈ before.opened := by
          rw [hbefore, Trace.opened_append]
          exact List.mem_append_left _ hknown
        exact absurd hid (hunknown connection hmem)
    | lost hanswer hquiet hnone => exact ⟨hanswer, hquiet⟩
  · intro before after peer datagram htrace
    exact h.paired htrace

/-- At the end of a run the directory is in line with what was opened, and so is the traffic. -/
theorem Traffic.run (S : Setting η ω) (rounds : Nat) (session : Session η ω) :
    let ran := Reactor.run S rounds { session with directory := .empty }
    Directed ran.events ran.session ∧ Traffic ran.events := by
  have hchain := Travels.run S rounds { session with directory := .empty }
  have hfirst : Directed [] { session with directory := .empty } ∧ Traffic [] :=
    ⟨Directed.empty rfl, Traffic.empty⟩
  exact @Chain.keeps _ _ _ _ _ _
    (fun past session => Directed past session ∧ Traffic past)
    (fun hholds hstep => ⟨hholds.1.step hstep, hholds.2.step hholds.1 hstep⟩) hchain [] hfirst

/-- In a run, what is sent over a handle goes to the peer that it was handed out for, until the
handle is given out again. -/
theorem run_leadsBack (S : Setting η ω) (rounds : Nat) (session : Session η ω) :
    LeadsBack (Reactor.run S rounds { session with directory := .empty }).events := by
  obtain ⟨hdirected, htraffic⟩ := Traffic.run S rounds session
  exact htraffic.leadsBack hdirected.numbered

/-! ## When the numbers are used up -/

namespace Crowd

/-- How many peers are told apart by three segments of their addresses. -/
def size : Nat :=
  281474976710656

/-- One of very many peers. -/
def peer (n : Nat) : SocketAddress :=
  .v6 ⟨[0xFD00, 0, 0, 0, 0,
    UInt16.ofNat (n / 4294967296), UInt16.ofNat (n / 65536), UInt16.ofNat n], rfl⟩ 5683 0 0

theorem peer_injective {first second : Nat} (hfirst : first < size) (hsecond : second < size)
    (heq : peer first = peer second) : first = second := by
  unfold size at hfirst hsecond
  simp only [peer, SocketAddress.v6.injEq, Ipv6.mk.injEq, List.cons.injEq, and_true, true_and]
    at heq
  obtain ⟨hhigh, hmiddle, hlow⟩ := heq
  have hhigh' := congrArg UInt16.toNat hhigh
  have hmiddle' := congrArg UInt16.toNat hmiddle
  have hlow' := congrArg UInt16.toNat hlow
  simp only [UInt16.toNat_ofNat'] at hhigh' hmiddle' hlow'
  omega

/-- An engine that sends every datagram back over the connection that it came over. -/
def echo : Engine Unit where
  registry _ := .empty
  step _ := .finish ((), .ok .zero)
  handlePacket _ connection bytes := .send connection.id bytes fun _ => .finish ()
  decode _ _ _ := []
  submit _ _ _ := ⟨.error .notFound, (), []⟩
  nextOutcome _ := ⟨none, (), []⟩
  close _ := .finish ()

/-- A host that has a datagram of a new peer every time. -/
def host : Host Nat where
  interrupt n := (false, n)
  wait n _ := (.ok .socket, n)
  receive n := (.ok ⟨peer n, []⟩, n + 1)
  send n _ _ := (.ok (), n)
  read n := (.ok [], n)

def setting : Setting Unit Nat where
  engine := echo
  host := host
  fallbacks := .empty
  keeps _ := false
  patience := 1

/-- The directory when so many peers are known. -/
def directory : Nat → Directory
  | 0 => .empty
  | n + 1 => ((directory n).resolve (peer n)).directory

/-- The session when so many peers are known. -/
def session (n : Nat) : Session Unit Nat where
  engine := ()
  host := n
  console := .working
  input := .empty
  directory := directory n
  token := .running

/-- The connection of a peer. -/
def connection (n : Nat) : Connection :=
  ⟨⟨UInt32.ofNat n⟩, peer n⟩

/-- The events of the round in which a peer is heard of, up to the call to the engine. -/
def arrival (n : Nat) : Trace :=
  [.checked none, .called .step, .stepped (.ok .zero), .called .nextOutcome, .popped none,
    .waited .zero (.ok .socket), .received (.ok ⟨peer n, []⟩),
    .reported (.connectionOpened (connection n))]

/-- The events of the call in which the engine sends a datagram back. -/
def reply (n : Nat) : Trace :=
  [.called (.handlePacket (connection n) []), .sent (peer n) [],
    .sendAnswered (connection n).id (.ok ())]

/-- The events of the rounds of so many peers, from a first one on. -/
def rounds (first count : Nat) : Trace :=
  (List.range' first count).flatMap fun n => arrival n ++ reply n

theorem rounds_add (first count more : Nat) :
    rounds first (count + more) = rounds first count ++ rounds (first + count) more := by
  rw [rounds, ← List.range'_append_1, List.flatMap_append]
  rfl

theorem rounds_one (first : Nat) : rounds first 1 = arrival first ++ reply first := by
  simp [rounds]

theorem socketClosed_notMem_rounds (first count : Nat) : .socketClosed ∉ rounds first count := by
  simp [rounds, arrival, reply]

/-- Only earlier peers are in the directory. -/
theorem exists_of_mem_entries {n : Nat} {entry : Connection}
    (hmem : entry ∈ (directory n).entries) : ∃ index < n, entry.peer = peer index := by
  induction n with
  | zero => simp [directory, Directory.empty] at hmem
  | succ n ih =>
      rw [directory] at hmem
      cases hfound : (directory n).findByPeer? (peer n) with
      | some known =>
          rw [Directory.resolve_of_findByPeer?_some hfound] at hmem
          obtain ⟨index, hlt, hpeer⟩ := ih hmem
          exact ⟨index, by omega, hpeer⟩
      | none =>
          rw [Directory.resolve_of_findByPeer?_none hfound] at hmem
          rcases List.mem_cons.mp hmem with rfl | hold
          · exact ⟨n, by omega, rfl⟩
          · obtain ⟨index, hlt, hpeer⟩ := ih hold
            exact ⟨index, by omega, hpeer⟩

theorem findByPeer?_eq_none {n : Nat} (hn : n < size) :
    (directory n).findByPeer? (peer n) = none := by
  rw [Directory.findByPeer?, List.find?_eq_none]
  intro entry hmem hsame
  obtain ⟨index, hlt, hpeer⟩ := exists_of_mem_entries hmem
  have heq : peer index = peer n := by
    rw [← hpeer]
    simpa using hsame
  have hindex := peer_injective (by omega) hn heq
  omega

theorem next_eq {n : Nat} (hn : n ≤ size) : (directory n).next = UInt32.ofNat n := by
  induction n with
  | zero => rfl
  | succ n ih =>
      rw [directory, Directory.resolve_of_findByPeer?_none (findByPeer?_eq_none (by omega)),
        UInt32.ofNat_add, ← ih (by omega)]
      rfl

/-- Every peer is new, and its handle is its number. -/
theorem resolve_eq {n : Nat} (hn : n < size) :
    (directory n).resolve (peer n) = ⟨connection n, true, directory (n + 1)⟩ := by
  rw [directory, Directory.resolve_of_findByPeer?_none (findByPeer?_eq_none hn),
    next_eq (Nat.le_of_lt hn)]
  rfl

theorem get?_eq {n : Nat} (hn : n < size) :
    (directory (n + 1)).get? (connection n).id = some (connection n) := by
  rw [directory, Directory.resolve_of_findByPeer?_none (findByPeer?_eq_none hn),
    next_eq (Nat.le_of_lt hn)]
  simp [Directory.get?, connection]

/-- What two activities in a row leave, when it is known what each leaves. -/
theorem bind_eq {σ α β : Type} {first : Activity σ α} {next : α → Activity σ β}
    {session middle last : σ} {value : α} {result : β} {events more all : Trace}
    (hfirst : first session = ⟨value, events, middle⟩)
    (hnext : next value middle = ⟨result, more, last⟩) (hall : events ++ more = all) :
    (first >>= next) session = ⟨result, all, last⟩ := by
  rw [Activity.bind_run, hfirst]
  simp only [hnext, hall]

theorem handlePacket_eq {n : Nat} (hn : n < size) :
    Session.handlePacket setting (connection n) [] (session (n + 1)) =
      ⟨(), reply n, session (n + 1)⟩ := by
  have hget : (session (n + 1)).directory.get? (connection n).id = some (connection n) := get?_eq hn
  have hsend : Session.sendOver setting (connection n).id [] (session (n + 1)) =
      ⟨.ok (), [.sent (peer n) []], session (n + 1)⟩ := by
    rw [Session.sendOver, Activity.get_bind_run, hget]
    rfl
  have hconverse : Session.converse setting (echo.handlePacket () (connection n) [])
      (session (n + 1)) =
      ⟨(), [.sent (peer n) [], .sendAnswered (connection n).id (.ok ())], session (n + 1)⟩ :=
    bind_eq hsend rfl rfl
  have hnote : Session.note setting (.called (.handlePacket (connection n) [])) (session (n + 1)) =
      ⟨(), [.called (.handlePacket (connection n) [])], session (n + 1)⟩ := rfl
  exact bind_eq hnote (bind_eq (Activity.get_run _) (bind_eq hconverse rfl rfl) rfl) rfl

/-- The next peer is heard of and has its datagram back. -/
theorem serveSocket_eq {n : Nat} (hn : n < size) :
    Reactor.serveSocket setting (session n) =
      ⟨(), [.received (.ok ⟨peer n, []⟩), .reported (.connectionOpened (connection n))] ++ reply n,
        session (n + 1)⟩ := by
  have hreceive : Session.receive setting (session n) =
      ⟨.ok ⟨peer n, []⟩, [.received (.ok ⟨peer n, []⟩)], { session n with host := n + 1 }⟩ := rfl
  have hresolve : (Activity.modifyGet fun session : Session Unit Nat =>
      let resolved := session.directory.resolve (peer n)
      (resolved, { session with directory := resolved.directory }))
        { session n with host := n + 1 } =
      ⟨⟨connection n, true, directory (n + 1)⟩, [], session (n + 1)⟩ := by
    have hnew : (session n).directory.resolve (peer n) = _ := resolve_eq hn
    simp only [Activity.modifyGet_run, hnew]
    rfl
  have hreport : (Session.report (.connectionOpened (connection n)) : Activity (Session Unit Nat) _)
      (session (n + 1)) = ⟨(), [.reported (.connectionOpened (connection n))], session (n + 1)⟩ :=
    rfl
  have haccept : Reactor.acceptDatagram setting ⟨peer n, []⟩ { session n with host := n + 1 } =
      ⟨(), [.reported (.connectionOpened (connection n))] ++ reply n, session (n + 1)⟩ :=
    bind_eq rfl (bind_eq rfl
      (bind_eq hresolve (bind_eq hreport (handlePacket_eq hn) rfl) rfl) rfl) rfl
  exact bind_eq hreceive haccept rfl

/-- One round: the next peer is heard of and has its datagram back. -/
theorem iterate_eq {n : Nat} (hn : n < size) :
    Reactor.iterate setting (session n) =
      ⟨true, (arrival n).tail ++ reply n, session (n + 1)⟩ := by
  have hstep : Reactor.stepEngine setting (session n) =
      ⟨.zero, [.called .step, .stepped (.ok .zero)], session n⟩ := rfl
  have hdrain : Reactor.drain setting setting.patience (session n) =
      ⟨true, [.called .nextOutcome, .popped none], session n⟩ := rfl
  have hwait : Session.wait setting .zero (session n) =
      ⟨.ok .socket, [.waited .zero (.ok .socket)], session n⟩ := rfl
  exact bind_eq hstep (bind_eq hdrain (bind_eq (Activity.get_run _)
    (bind_eq hwait (bind_eq (serveSocket_eq hn) rfl rfl) rfl) rfl) rfl) rfl

theorem loop_eq {first count : Nat} (hcount : first + count ≤ size) :
    Reactor.loop setting count (session first) =
      ⟨none, rounds first count, session (first + count)⟩ := by
  induction count generalizing first with
  | zero => rfl
  | succ count ih =>
      have hcheck : Session.check setting (session first) =
          ⟨none, [.checked none], session first⟩ := rfl
      have hrest := @ih (first + 1) (by omega)
      rw [show first + 1 + count = first + (count + 1) by omega] at hrest
      exact bind_eq hcheck (bind_eq (@iterate_eq first (by omega)) hrest rfl) rfl

/-- The run in which all these peers are heard of, with its first round and its last one. -/
theorem run_events {n : Nat} (hn : n + 2 ≤ size) :
    (Reactor.run setting (n + 2) (session 0)).events =
      .wrote (Utf8.encode prompt) :: (arrival 0 ++ reply 0 ++ rounds 1 n ++
        (arrival (n + 1) ++ reply (n + 1))) := by
  have hprompt : Session.writeConsole setting prompt (session 0) =
      ⟨(), [.wrote (Utf8.encode prompt)], session 0⟩ := rfl
  have hloop := @loop_eq 0 (n + 2) (by omega)
  have hrun : Reactor.run setting (n + 2) (session 0) =
      ⟨none, [.wrote (Utf8.encode prompt)] ++ (rounds 0 (n + 2) ++ []), session (0 + (n + 2))⟩ :=
    bind_eq hprompt (bind_eq hloop rfl rfl) rfl
  have hrounds : rounds 0 (1 + n + 1) = rounds 0 1 ++ rounds 1 n ++ rounds (n + 1) 1 := by
    rw [rounds_add, rounds_add, Nat.zero_add, Nat.zero_add, Nat.add_comm 1 n]
  rw [show 1 + n + 1 = n + 2 by omega, rounds_one, rounds_one] at hrounds
  rw [hrun, hrounds, List.append_nil]
  rfl

end Crowd

/-- A handle that is given out again leads to another peer. -/
theorem handle_given_out_again :
    ¬ ∀ (before between after : Trace) (connection : Connection) (bytes : List UInt8)
        (peer : SocketAddress) (datagram : List UInt8) (answer : Except LinkFailure Unit),
      (Reactor.run Crowd.setting (handleCount + 1) (Crowd.session 0)).events =
        before ++ .called (.handlePacket connection bytes) ::
          (between ++ .sent peer datagram :: .sendAnswered connection.id answer :: after) →
      .socketClosed ∉ before ++ between → peer = connection.peer := by
  intro hclaim
  obtain ⟨n, hn⟩ : ∃ n, handleCount = n + 1 := ⟨4294967295, rfl⟩
  have hsmall : n + 2 ≤ Crowd.size := by
    unfold handleCount UInt32.size at hn
    unfold Crowd.size
    omega
  have hsame : (Crowd.connection (n + 1)).id = (Crowd.connection 0).id := by
    rw [← hn]
    rfl
  have hevents := Crowd.run_events hsmall
  have hmiddle := Crowd.socketClosed_notMem_rounds 1 n
  rw [hn] at hclaim
  have hpeer : Crowd.peer (n + 1) = Crowd.peer 0 := by
    refine hclaim (.wrote (Utf8.encode prompt) :: Crowd.arrival 0)
      ([.sent (Crowd.peer 0) [], .sendAnswered (Crowd.connection 0).id (.ok ())] ++
        Crowd.rounds 1 n ++ Crowd.arrival (n + 1) ++
        [.called (.handlePacket (Crowd.connection (n + 1)) [])])
      [] (Crowd.connection 0) [] (Crowd.peer (n + 1)) [] (.ok ()) ?_ ?_
    · rw [hevents]
      simp [Crowd.reply, hsame]
    · simp [Crowd.arrival, hmiddle]
  have hzero := Crowd.peer_injective (by omega) (by omega) hpeer
  omega

end DeviceConsole
