import DeviceConsole.Proofs.Address.Literals
import DeviceConsole.Proofs.Text.Runs
import DeviceConsole.Settings

/-!
# The listen host

A listen host is meant to be the literal of an IP address, and around an IPv6 literal there may be
one pair of brackets.  Brackets are taken off each end by themselves, as many as stand there, so a
literal of either family is accepted with any number of them in front and any number behind it.
Since no literal has a bracket of its own, nothing else is accepted, and how many brackets stand at
each end can be told from the host.

Main results:

- Theorem {lit}`Settings.stripBrackets_enclosed`: brackets around a text without any come off.
- Theorem {lit}`Settings.listenAddress_eq_ok_iff`: the hosts that are accepted.
- Theorem {lit}`HostForm.isDocumented_iff`: the accepted hosts that are of the documented form.
- Theorem {lit}`listenHost_mayHaveBrackets`: what becomes of a listen host.
-/

namespace DeviceConsole

/-! ## Brackets -/

/-- A text with opening brackets in front and closing brackets behind it. -/
def enclosed (opening closing : Nat) (text : List Char) : List Char :=
  List.replicate opening '[' ++ text ++ List.replicate closing ']'

/-- Whether no bracket stands in a text. -/
def IsOpen (text : List Char) : Prop :=
  '[' ∉ text ∧ ']' ∉ text

/-- A literal has no bracket of its own. -/
theorem IpAddress.isOpen_of_parse? {text : List Char} {address : IpAddress}
    (h : parse? text = some address) : IsOpen text :=
  ⟨not_mem_of_parse? h (by decide), not_mem_of_parse? h (by decide)⟩

section Brackets

variable {text : List Char}

namespace Settings

/-- Brackets around a text without any come off. -/
theorem stripBrackets_enclosed (h : IsOpen text) (opening closing : Nat) :
    stripBrackets (enclosed opening closing text) = text := by
  have hfront : '[' ∉ text ++ List.replicate closing ']' := by
    intro hmem
    rcases List.mem_append.mp hmem with hmem | hmem
    · exact h.1 hmem
    · exact absurd (List.eq_of_mem_replicate hmem) (by decide)
  have hback : ']' ∉ text.reverse := fun hmem => h.2 (List.mem_reverse.mp hmem)
  rw [stripBrackets, enclosed, List.append_assoc, dropWhile_replicate_append hfront,
    List.reverse_append, List.reverse_replicate, dropWhile_replicate_append hback,
    List.reverse_reverse]

/-- A host is what is left of it with brackets around. -/
theorem exists_enclosed_stripBrackets (host : List Char) :
    ∃ opening closing, host = enclosed opening closing (stripBrackets host) := by
  let inner := host.dropWhile (· == '[')
  refine ⟨(host.takeWhile (· == '[')).length, (inner.reverse.takeWhile (· == ']')).length, ?_⟩
  have hback : stripBrackets host ++
      List.replicate (inner.reverse.takeWhile (· == ']')).length ']' = inner := by
    rw [← List.reverse_inj, List.reverse_append, List.reverse_replicate, stripBrackets,
      List.reverse_reverse]
    exact replicate_append_dropWhile ']' inner.reverse
  rw [enclosed, List.append_assoc, hback]
  exact (replicate_append_dropWhile '[' host).symm

end Settings

/-- How many brackets stand at each end can be told from the whole text. -/
theorem count_enclosed (h : IsOpen text) (opening closing : Nat) :
    (enclosed opening closing text).count '[' = opening ∧
      (enclosed opening closing text).count ']' = closing := by
  constructor
  · simp [enclosed, List.count_replicate, List.count_eq_zero.mpr h.1]
  · simp [enclosed, List.count_replicate, List.count_eq_zero.mpr h.2]

end Brackets

/-! ## Hosts -/

/-- Whether a host is the literal of an address with brackets around it. -/
def HostForm (host : String) (opening closing : Nat) (address : IpAddress) : Prop :=
  ∃ literal, host.toList = enclosed opening closing literal ∧
    IpAddress.parse? literal = some address

/-- Whether brackets are as documented: none, or one pair around an IPv6 address. -/
def bracketsAllowed (opening closing : Nat) : IpAddress → Bool
  | .v4 _ => opening = 0 ∧ closing = 0
  | .v6 _ => opening = closing ∧ closing ≤ 1

/-- A host of the documented form: a literal, or an IPv6 literal in one pair of brackets. -/
inductive DocumentedHost (host : String) : IpAddress → Prop where
  | literal {address : IpAddress} (parsed : IpAddress.parse? host.toList = some address) :
      DocumentedHost host address
  | bracketed {address : Ipv6} {literal : List Char} (pair : host.toList = '[' :: literal ++ [']'])
      (parsed : IpAddress.parse? literal = some (.v6 address)) : DocumentedHost host (.v6 address)

namespace HostForm

variable {host : String} {opening closing : Nat} {address : IpAddress}

/-- A host has one form only. -/
theorem unique {otherOpening otherClosing : Nat} {other : IpAddress}
    (h : HostForm host opening closing address)
    (hother : HostForm host otherOpening otherClosing other) :
    opening = otherOpening ∧ closing = otherClosing ∧ address = other := by
  obtain ⟨literal, hhost, hparsed⟩ := h
  obtain ⟨otherLiteral, hotherHost, hotherParsed⟩ := hother
  have hopen := IpAddress.isOpen_of_parse? hparsed
  have hotherOpen := IpAddress.isOpen_of_parse? hotherParsed
  have hsame : literal = otherLiteral := by
    rw [← Settings.stripBrackets_enclosed hopen opening closing, ← hhost, hotherHost,
      Settings.stripBrackets_enclosed hotherOpen]
  obtain ⟨hcountOpening, hcountClosing⟩ := count_enclosed hopen opening closing
  obtain ⟨hotherOpening, hotherClosing⟩ := count_enclosed hotherOpen otherOpening otherClosing
  refine ⟨?_, ?_, ?_⟩
  · rw [← hcountOpening, ← hhost, hotherHost, hotherOpening]
  · rw [← hcountClosing, ← hhost, hotherHost, hotherClosing]
  · subst hsame
    exact Option.some.inj (hparsed.symm.trans hotherParsed)

/-- A host of the documented form has allowed brackets. -/
theorem of_documented (h : DocumentedHost host address) :
    ∃ opening closing, HostForm host opening closing address ∧
      bracketsAllowed opening closing address := by
  cases h with
  | literal parsed =>
      refine ⟨0, 0, ⟨host.toList, (List.append_nil _).symm, parsed⟩, ?_⟩
      cases address <;> rfl
  | @bracketed ipv6 literal pair parsed =>
      exact ⟨1, 1, ⟨literal, pair, parsed⟩, rfl⟩

/-- The hosts of a documented form are those with allowed brackets. -/
theorem isDocumented_iff (h : HostForm host opening closing address) :
    DocumentedHost host address ↔ bracketsAllowed opening closing address := by
  constructor
  · intro hdocumented
    obtain ⟨otherOpening, otherClosing, hother, hallowed⟩ := of_documented hdocumented
    obtain ⟨rfl, rfl, -⟩ := h.unique hother
    exact hallowed
  · intro hallowed
    obtain ⟨literal, hhost, hparsed⟩ := h
    have hplain (hnone : opening = 0 ∧ closing = 0) : DocumentedHost host address := by
      obtain ⟨rfl, rfl⟩ := hnone
      have hliteral : host.toList = literal := hhost.trans (List.append_nil literal)
      exact .literal (hliteral ▸ hparsed)
    cases address with
    | v4 ipv4 => exact hplain (of_decide_eq_true hallowed)
    | v6 ipv6 =>
        obtain ⟨rfl, hfew⟩ := of_decide_eq_true hallowed
        obtain rfl | rfl : opening = 0 ∨ opening = 1 := by omega
        · exact hplain ⟨rfl, rfl⟩
        · exact .bracketed hhost hparsed

end HostForm

/-! ## The listen address -/

namespace Settings

variable {settings : Settings} {host : String}

/-- A literal with any brackets around it is accepted. -/
theorem listenAddress_of_hostForm (hset : settings.listenHost = some host) {opening closing : Nat}
    {ip : IpAddress} (hform : HostForm host opening closing ip) :
    settings.listenAddress = .ok (.ofIp ip settings.port) := by
  obtain ⟨literal, hhost, hparsed⟩ := hform
  simp only [listenAddress, hset]
  rw [hhost, stripBrackets_enclosed (IpAddress.isOpen_of_parse? hparsed), hparsed]

/-- All other hosts are rejected as they were given. -/
theorem listenAddress_of_not_hostForm (hset : settings.listenHost = some host)
    (hnone : ∀ opening closing ip, ¬ HostForm host opening closing ip) :
    settings.listenAddress = .error (.invalidHost host) := by
  simp only [listenAddress, hset]
  cases hparsed : IpAddress.parse? (stripBrackets host.toList) with
  | none => rfl
  | some ip =>
      obtain ⟨opening, closing, hhost⟩ := exists_enclosed_stripBrackets host.toList
      exact absurd ⟨_, hhost, hparsed⟩ (hnone opening closing ip)

/-- The hosts that are accepted, and the address that each of them is. -/
theorem listenAddress_eq_ok_iff (hset : settings.listenHost = some host)
    {address : SocketAddress} :
    settings.listenAddress = .ok address ↔
      ∃ opening closing ip, HostForm host opening closing ip ∧
        address = .ofIp ip settings.port := by
  constructor
  · intro hok
    by_contra! hnone
    have hform (opening closing : Nat) (ip : IpAddress) : ¬ HostForm host opening closing ip := by
      intro hform
      rw [listenAddress_of_hostForm hset hform] at hok
      exact hnone opening closing ip hform (Except.ok.inj hok).symm
    rw [listenAddress_of_not_hostForm hset hform] at hok
    cases hok
  · rintro ⟨_, _, ip, hform, rfl⟩
    exact listenAddress_of_hostForm hset hform

/-- With an allowed block size the settings are checked as their address is. -/
theorem validate_of_block (hblock : settings.block ∈ allowedBlockSizes) :
    settings.validate = settings.listenAddress.map fun _ => () := by
  rw [validate, checkBlockSize, if_pos hblock]
  cases settings.listenAddress <;> rfl

/-- What becomes of a listen host. -/
structure HostRule (settings : Settings) (host : String) : Prop where
  /-- A literal is accepted with any brackets around it, and nothing else is. -/
  accepted : ∀ address, settings.listenAddress = .ok address ↔
    ∃ opening closing ip, HostForm host opening closing ip ∧ address = .ofIp ip settings.port
  /-- Every other host is rejected, and the error has it as it was given. -/
  rejected : (∀ opening closing ip, ¬ HostForm host opening closing ip) →
    settings.listenAddress = .error (.invalidHost host)
  /-- The settings are then checked with the same result, once the block size is allowed. -/
  checked : settings.block ∈ allowedBlockSizes →
    settings.validate = settings.listenAddress.map fun _ => ()
  /-- The address family does not matter. -/
  anyFamily : ∀ family,
    { settings with addressFamily := family }.listenAddress = settings.listenAddress
  /-- A host of the documented form is accepted as the address that it names. -/
  documented : ∀ ip, DocumentedHost host ip →
    settings.listenAddress = .ok (.ofIp ip settings.port)
  /-- Of the accepted hosts, those with allowed brackets are of that form, and no others. -/
  allowed : ∀ opening closing ip, HostForm host opening closing ip →
    (DocumentedHost host ip ↔ bracketsAllowed opening closing ip)

end Settings

/-- A listen host is accepted exactly when it is an address literal with any number of brackets in
front and behind it.  It is of the documented form exactly when there is no bracket, or a pair of
them around an IPv6 address. -/
theorem listenHost_mayHaveBrackets {settings : Settings} {host : String}
    (hset : settings.listenHost = some host) : settings.HostRule host where
  accepted _ := Settings.listenAddress_eq_ok_iff hset
  rejected := Settings.listenAddress_of_not_hostForm hset
  checked := Settings.validate_of_block
  anyFamily family := by
    simp only [Settings.listenAddress, Settings.port, hset]
  documented ip hdocumented := by
    obtain ⟨opening, closing, hform, -⟩ := HostForm.of_documented hdocumented
    exact Settings.listenAddress_of_hostForm hset hform
  allowed _ _ _ hform := hform.isDocumented_iff

/-- A host in one pair of brackets is accepted, whatever the address family, and so is valid. -/
theorem listenHost_mayHaveBrackets_pair :
    let settings : Settings :=
      { Settings.empty with listenHost := some "[::1]", addressFamily := some .ipv4 }
    settings.listenHost = some "[::1]" ∧ settings.HostRule "[::1]" ∧
      settings.block ∈ Settings.allowedBlockSizes ∧
      (settings.listenAddress.toOption.map SocketAddress.text) = some "[::1]:5683" := by
  intro settings
  exact ⟨rfl, listenHost_mayHaveBrackets rfl, by decide, by decide +kernel⟩

/-- A host in two pairs of brackets is not of the documented form, and is accepted too. -/
theorem listenHost_twoPairs :
    let settings : Settings := { Settings.empty with listenHost := some "[[::1]]" }
    let loopback : Ipv6 := ⟨[0, 0, 0, 0, 0, 0, 0, 1], rfl⟩
    (∀ ip, ¬ DocumentedHost "[[::1]]" ip) ∧
      settings.listenAddress = .ok (.v6 loopback 5683 0 0) ∧ settings.validate = .ok () := by
  intro settings loopback
  refine ⟨fun ip hdocumented => ?_, by decide +kernel, by decide +kernel⟩
  have htwo : HostForm "[[::1]]" 2 2 (.v6 loopback) :=
    ⟨"::1".toList, by decide +kernel, by decide +kernel⟩
  obtain ⟨opening, closing, hform, hallowed⟩ := HostForm.of_documented hdocumented
  obtain ⟨rfl, rfl, rfl⟩ := hform.unique htwo
  exact absurd hallowed (by decide)

end DeviceConsole
