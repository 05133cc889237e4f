import IpfsEmbed.Net.PeerInfo
import Mathlib.Data.Finset.Basic

/-!
# The address book (`src/net/peers.rs`)

`AddressBook` is the libp2p `NetworkBehaviour` that keeps a `PeerInfo` for every peer the
node hears of, decides which addresses to validate by dialling them, and reports what it
learns as `Event`s.  This module models its state and the operations other than `set_info`
(`IpfsEmbed.Net.SetInfo`) and `inject_dial_failure` (`IpfsEmbed.Net.DialFailure`).

Every method becomes a function from the old state to the new one.  Sending an event to the
subscribers (`notify`) appends it to `events`, the log of everything sent; the action queue
`actions` is a `VecDeque` whose front is the head of the list, and `deferred` holds the
delayed dials with their delays.  `Utc::now()` is the argument `now` of the operations that
read the clock.  The shared `Writer`s of listeners and peers are plain fields: only the book
writes them.

`peers.entry(p).or_default()` files a default record for `p` even when nothing else is then
written to it, and the model keeps this (`entry`, `setPeer`).

Each operation has lemmas saying how it changes the peer map and which other fields it
leaves alone; the invariants of `IpfsEmbed.Properties` are proved from those lemmas and
never unfold an operation.
-/

namespace IpfsEmbed

/-- A listener id of the swarm. -/
structure ListenerId where
  id : Nat
  deriving DecidableEq, Repr

/-- `peers::Event`, as far as the modelled operations send them.  The error text of
`DialFailure` is the display of a libp2p error and is not modelled. -/
inductive Event
  | newListenAddr (id : ListenerId) (addr : Multiaddr)
  | expiredListenAddr (id : ListenerId) (addr : Multiaddr)
  | discovered (peer : PeerId)
  | dialFailure (peer : PeerId) (addr : Multiaddr)
  | unreachable (peer : PeerId)
  | connectionEstablished (peer : PeerId) (cp : ConnectedPoint)
  | connectionClosed (peer : PeerId) (cp : ConnectedPoint)
  | addressChanged (peer : PeerId) (old new : ConnectedPoint)
  | connected (peer : PeerId)
  | disconnected (peer : PeerId)
  | subscribed (peer : PeerId) (topic : String)
  | unsubscribed (peer : PeerId) (topic : String)
  | bootstrapped
  | newInfo (peer : PeerId)
  deriving DecidableEq, Repr

/-- `libp2p::swarm::dial_opts::PeerCondition`; `Disconnected` is the default. -/
inductive PeerCondition
  | disconnected
  | notDialing
  | always
  deriving DecidableEq, Repr

/-- The `DialOpts` the book builds: a peer, the dial condition and the addresses to try. -/
structure DialOpts where
  peerId : PeerId
  condition : PeerCondition
  addresses : List Multiaddr
  deriving DecidableEq, Repr

/-- `IntoAddressHandler(own_dial, keep_alive)`: a validation dial carries the address it
validates and the number of redials left after a TCP simultaneous open. -/
structure IntoAddressHandler where
  ownDial : Option (Multiaddr × UInt8)
  keepAlive : Bool
  deriving DecidableEq, Repr

/-- `IntoAddressHandler::peer_id`: the peer named by the validated address. -/
def IntoAddressHandler.peerId (h : IntoAddressHandler) : Option PeerId :=
  h.ownDial.bind fun d => d.1.peerId

/-- The actions the book asks of the swarm; it only ever asks to dial. -/
inductive NetworkBehaviourAction
  | dial (opts : DialOpts) (handler : IntoAddressHandler)
  deriving DecidableEq, Repr

/-- `SIM_OPEN_RETRIES`. -/
def simOpenRetries : UInt8 := 10

/-- `ConnectionError`, as far as `connection_closed` distinguishes it: only an I/O error
means the peer closed the connection. -/
inductive ConnectionError
  | handler
  | io
  | keepAliveTimeout
  deriving DecidableEq, Repr

/-- The fields of `AddressBook` that `AddressBook::new` sets and nothing changes after. -/
structure Settings where
  portReuse : Bool
  enableLoopback : Bool
  keepAlive : Bool
  localPeerId : PeerId
  deriving DecidableEq, Repr

/-- `AddressBook`.  The external addresses and their refresh flag are not modelled: only
`poll` and the external-address callbacks use them. -/
structure AddressBook where
  settings : Settings
  listeners : Finset Multiaddr
  peers : AList (fun _ : PeerId => PeerInfo)
  /-- Every event `notify` has sent, oldest first. -/
  events : List Event
  actions : List NetworkBehaviourAction
  deferred : List (Duration × NetworkBehaviourAction)

namespace AddressBook

/-- `AddressBook::new`, with no listeners and no peers yet. -/
def new (localPeerId : PeerId) (portReuse enableLoopback keepAlive : Bool) : AddressBook :=
  ⟨⟨portReuse, enableLoopback, keepAlive, localPeerId⟩, ∅, ∅, [], [], []⟩

/-- `peers.entry(peer).or_default()`, read. -/
def entry (b : AddressBook) (peer : PeerId) : PeerInfo :=
  (b.peers.lookup peer).getD default

/-- Write back the record of `peer`. -/
def setPeer (b : AddressBook) (peer : PeerId) (info : PeerInfo) : AddressBook :=
  { b with peers := b.peers.insert peer info }

/-- `AddressBook::notify`. -/
def notify (b : AddressBook) (e : Event) : AddressBook :=
  { b with events := b.events ++ [e] }

/-- `actions.push_back`. -/
def pushAction (b : AddressBook) (a : NetworkBehaviourAction) : AddressBook :=
  { b with actions := b.actions ++ [a] }

/-- `new_handler`. -/
def newHandler (b : AddressBook) : IntoAddressHandler :=
  ⟨none, b.settings.keepAlive⟩

/-- `AddressBook::dial`. -/
def dial (b : AddressBook) (peer : PeerId) : AddressBook :=
  if peer = b.settings.localPeerId then b
  else b.pushAction (.dial ⟨peer, .disconnected, []⟩ b.newHandler)

/-- `AddressBook::dial_address`. -/
def dialAddress (b : AddressBook) (peer : PeerId) (addr : Multiaddr) : AddressBook :=
  if peer = b.settings.localPeerId then b
  else
    let target := normalizeAddrRef addr peer
    let info := b.entry peer
    let b := b.setPeer peer info
    -- skipping dial since already connected
    if target ∈ info.connections then b
    else b.pushAction (.dial ⟨peer, .disconnected, [addr]⟩
      ⟨some (target, simOpenRetries + 1), b.settings.keepAlive⟩)

/-- Whether `add_address` files an address at all: not for ourselves, not a loopback
address unless enabled, and not one of our own listen addresses. -/
def acceptsAddress (b : AddressBook) (peer : PeerId) (address : Multiaddr) : Bool :=
  !decide (peer = b.settings.localPeerId) &&
    (b.settings.enableLoopback || !address.isLoopback) &&
    !decide (withoutPeerId address ∈ b.listeners)

/-- `AddressBook::add_address`. -/
def addAddress (b : AddressBook) (now : DateTime) (peer : PeerId) (address : Multiaddr)
    (source : AddressSource) : AddressBook :=
  if peer = b.settings.localPeerId then b
  else if !b.settings.enableLoopback && address.isLoopback then b
  else
    let discovered := !(b.peers.lookup peer).any PeerInfo.hasConfirmed
    -- `normalize_addr_ref` borrows an address that already ends in `/p2p`, and that branch
    -- pops the component off `address`: `address` is left without a peer id either way
    let addrFull := normalizeAddrRef address peer
    let address := withoutPeerId address
    -- ignoring peer address from unreachable scope
    if address ∈ b.listeners then b
    else
      let r := (b.entry peer).ingestAddress now addrFull source
      let result := r.2 && !decide (addrFull ∈ r.1.connections)
      let b := b.setPeer peer r.1
      let b := if result then
          b.pushAction (.dial ⟨peer, .always, [address]⟩
            ⟨some (addrFull, simOpenRetries + 1), false⟩)
        else b
      let b := if discovered && source.isConfirmed then b.notify (.discovered peer) else b
      b.notify (.newInfo peer)

/-- `AddressBook::remove_address`. -/
def removeAddress (b : AddressBook) (peer : PeerId) (address : Multiaddr) : AddressBook :=
  match b.peers.lookup peer with
  | some info =>
    b.setPeer peer { info with addresses := info.addresses.erase (normalizeAddrRef address peer) }
  | none => b

/-- The test `prune_peers` applies to one record: a peer is kept while it is connected,
for `min_age` after its last failure, and while it has a confirmed address or an address
to probe that is younger than `min_age` (at least ten seconds). -/
def isPrunable (info : PeerInfo) (now : DateTime) (minAge : Duration) : Bool :=
  if info.connections.keys ≠ [] then false
  else if info.failures.head?.any (fun f => diffTime f.time now < minAge) then false
  else !info.addresses.entries.any (fun e =>
    e.2.1.isConfirmed ||
      (e.2.1.isToProbe && diffTime e.2.2 now < max minAge (Duration.fromSecs 10)))

/-- `AddressBook::prune_peers`. -/
def prunePeers (b : AddressBook) (now : DateTime) (minAge : Duration) : AddressBook :=
  let remove := (b.peers.entries.filter fun e => isPrunable e.2 now minAge).map (·.1)
  remove.foldl (fun b peer => ({ b with peers := b.peers.erase peer }).notify (.newInfo peer)) b

/-- `AddressBook::connection_closed`.  The failure is booked with `probe_result` false, so
it never removes an address. -/
def connectionClosed (b : AddressBook) (now : DateTime) (peer : PeerId) (conn : ConnectedPoint)
    (numEstablished : Nat) (error : Option ConnectionError) : AddressBook :=
  let conn := normalizeConnectedPoint conn b.settings.localPeerId peer
  let addr := conn.getRemoteAddress
  let peerClosed := error == some .io
  let entry := b.entry peer
  let entry := { entry with connections := entry.connections.erase addr }
  let addrNoPeer := withoutPeerId addr
  let failure :=
    if peerClosed then ConnectionFailure.them addrNoPeer now else ConnectionFailure.us addrNoPeer now
  let b := b.setPeer peer (entry.pushFailure addr failure false)
  let b := b.notify (.connectionClosed peer conn)
  let b := if numEstablished = 0 then b.notify (.disconnected peer) else b
  b.notify (.newInfo peer)

/-- `AddressBook::set_rtt`. -/
def setRtt (b : AddressBook) (peer : PeerId) (rtt : Option Duration) : AddressBook :=
  match b.peers.lookup peer with
  | some info => (b.setPeer peer (info.setRtt rtt)).notify (.newInfo peer)
  | none => b

/-- `NetworkBehaviour::addresses_of_peer`: the confirmed addresses. -/
def addressesOfPeer (b : AddressBook) (peer : PeerId) : List Multiaddr :=
  match b.peers.lookup peer with
  | some info => info.confirmedAddresses
  | none => []

/-- `inject_connection_established`. -/
def injectConnectionEstablished (b : AddressBook) (now : DateTime) (peer : PeerId)
    (conn : ConnectedPoint) (otherEstablished : Nat) : AddressBook :=
  let conn := normalizeConnectedPoint conn b.settings.localPeerId peer
  let address := conn.getRemoteAddress
  let src := if conn.isDialer then AddressSource.dial else AddressSource.incoming
  let b := b.addAddress now peer address src
  let entry := b.entry peer
  let b := b.setPeer peer
    { entry with connections :=
        entry.connections.insert address (now, Direction.ofConnectedPoint conn) }
  let b := if otherEstablished = 0 then b.notify (.connected peer) else b
  b.notify (.connectionEstablished peer conn)

/-- `inject_address_change`. -/
def injectAddressChange (b : AddressBook) (now : DateTime) (peer : PeerId)
    (old new : ConnectedPoint) : AddressBook :=
  let old := normalizeConnectedPoint old b.settings.localPeerId peer
  let new := normalizeConnectedPoint new b.settings.localPeerId peer
  let oldAddr := old.getRemoteAddress
  let newAddr := new.getRemoteAddress
  let src := if new.isDialer then AddressSource.dial else AddressSource.incoming
  let b := b.addAddress now peer newAddr src
  let entry := b.entry peer
  let b := b.setPeer peer
    { entry with connections :=
        (entry.connections.erase oldAddr).insert newAddr (now, Direction.ofConnectedPoint new) }
  b.notify (.addressChanged peer old new)

/-- `inject_new_listen_addr`. -/
def injectNewListenAddr (b : AddressBook) (id : ListenerId) (addr : Multiaddr) : AddressBook :=
  ({ b with listeners := insert addr b.listeners }).notify (.newListenAddr id addr)

/-- `inject_expired_listen_addr`. -/
def injectExpiredListenAddr (b : AddressBook) (id : ListenerId) (addr : Multiaddr) :
    AddressBook :=
  ({ b with listeners := b.listeners.erase addr }).notify (.expiredListenAddr id addr)

/-! ## How each operation changes the book -/

section Frame

variable (b : AddressBook)

@[simp] theorem notify_peers (e : Event) : (b.notify e).peers = b.peers := rfl
@[simp] theorem notify_settings (e : Event) : (b.notify e).settings = b.settings := rfl
@[simp] theorem notify_listeners (e : Event) : (b.notify e).listeners = b.listeners := rfl
@[simp] theorem notify_actions (e : Event) : (b.notify e).actions = b.actions := rfl
@[simp] theorem notify_deferred (e : Event) : (b.notify e).deferred = b.deferred := rfl
@[simp] theorem notify_events (e : Event) : (b.notify e).events = b.events ++ [e] := rfl

@[simp] theorem pushAction_peers (a : NetworkBehaviourAction) :
    (b.pushAction a).peers = b.peers := rfl
@[simp] theorem pushAction_settings (a : NetworkBehaviourAction) :
    (b.pushAction a).settings = b.settings := rfl
@[simp] theorem pushAction_listeners (a : NetworkBehaviourAction) :
    (b.pushAction a).listeners = b.listeners := rfl
@[simp] theorem pushAction_actions (a : NetworkBehaviourAction) :
    (b.pushAction a).actions = b.actions ++ [a] := rfl
@[simp] theorem pushAction_deferred (a : NetworkBehaviourAction) :
    (b.pushAction a).deferred = b.deferred := rfl
@[simp] theorem pushAction_events (a : NetworkBehaviourAction) :
    (b.pushAction a).events = b.events := rfl

@[simp] theorem setPeer_peers (p : PeerId) (info : PeerInfo) :
    (b.setPeer p info).peers = b.peers.insert p info := rfl
@[simp] theorem setPeer_settings (p : PeerId) (info : PeerInfo) :
    (b.setPeer p info).settings = b.settings := rfl
@[simp] theorem setPeer_listeners (p : PeerId) (info : PeerInfo) :
    (b.setPeer p info).listeners = b.listeners := rfl
@[simp] theorem setPeer_actions (p : PeerId) (info : PeerInfo) :
    (b.setPeer p info).actions = b.actions := rfl
@[simp] theorem setPeer_deferred (p : PeerId) (info : PeerInfo) :
    (b.setPeer p info).deferred = b.deferred := rfl
@[simp] theorem setPeer_events (p : PeerId) (info : PeerInfo) :
    (b.setPeer p info).events = b.events := rfl

theorem entry_of_lookup {p : PeerId} {info : PeerInfo} (h : b.peers.lookup p = some info) :
    b.entry p = info := by
  simp [entry, h]

theorem acceptsAddress_iff (peer : PeerId) (address : Multiaddr) :
    b.acceptsAddress peer address = true ↔
      peer ≠ b.settings.localPeerId ∧ (!b.settings.enableLoopback && address.isLoopback) = false ∧
        withoutPeerId address ∉ b.listeners := by
  unfold acceptsAddress
  cases b.settings.enableLoopback <;> cases address.isLoopback <;> simp

/-- An address `add_address` does not accept leaves the book as it was. -/
theorem addAddress_of_not_accepts {peer : PeerId} {address : Multiaddr}
    (h : b.acceptsAddress peer address = false) (now : DateTime) (source : AddressSource) :
    b.addAddress now peer address source = b := by
  have h' : ¬ (peer ≠ b.settings.localPeerId ∧
      (!b.settings.enableLoopback && address.isLoopback) = false ∧
        withoutPeerId address ∉ b.listeners) := by
    rw [← acceptsAddress_iff, h]
    simp
  unfold addAddress
  by_cases hl : peer = b.settings.localPeerId
  · simp [hl]
  by_cases hb : (!b.settings.enableLoopback && address.isLoopback) = true
  · simp [hl, hb]
  have hs : withoutPeerId address ∈ b.listeners := by
    by_contra hs
    exact h' ⟨hl, by simpa using hb, hs⟩
  simp [hl, hb, hs]

/-- `add_address` past its early returns: ingest the normalized address, dial it when it is
new to probe and not connected, report a discovery and the new information. -/
theorem addAddress_of_accepts {peer : PeerId} {address : Multiaddr}
    (h : b.acceptsAddress peer address = true) (now : DateTime) (source : AddressSource) :
    b.addAddress now peer address source =
      let r := (b.entry peer).ingestAddress now (normalizeAddrRef address peer) source
      let b' := b.setPeer peer r.1
      let b' := if r.2 && !decide (normalizeAddrRef address peer ∈ r.1.connections) then
          b'.pushAction (.dial ⟨peer, .always, [withoutPeerId address]⟩
            ⟨some (normalizeAddrRef address peer, simOpenRetries + 1), false⟩)
        else b'
      let b' := if !(b.peers.lookup peer).any PeerInfo.hasConfirmed && source.isConfirmed then
          b'.notify (.discovered peer)
        else b'
      b'.notify (.newInfo peer) := by
  obtain ⟨hl, hb, hs⟩ := (acceptsAddress_iff b peer address).1 h
  unfold addAddress
  simp only [hl, hb, hs, if_false, Bool.false_eq_true]

theorem addAddress_peers (now : DateTime) (peer : PeerId) (address : Multiaddr)
    (source : AddressSource) :
    (b.addAddress now peer address source).peers =
      if b.acceptsAddress peer address then
        b.peers.insert peer
          ((b.entry peer).ingestAddress now (normalizeAddrRef address peer) source).1
      else b.peers := by
  cases h : b.acceptsAddress peer address
  · rw [addAddress_of_not_accepts b h]
    simp
  · rw [addAddress_of_accepts b h, if_pos rfl]
    dsimp only
    split_ifs <;> simp

@[simp] theorem addAddress_settings (now : DateTime) (peer : PeerId) (address : Multiaddr)
    (source : AddressSource) : (b.addAddress now peer address source).settings = b.settings := by
  cases h : b.acceptsAddress peer address
  · rw [addAddress_of_not_accepts b h]
  · rw [addAddress_of_accepts b h]
    dsimp only
    split_ifs <;> simp

@[simp] theorem addAddress_listeners (now : DateTime) (peer : PeerId) (address : Multiaddr)
    (source : AddressSource) :
    (b.addAddress now peer address source).listeners = b.listeners := by
  cases h : b.acceptsAddress peer address
  · rw [addAddress_of_not_accepts b h]
  · rw [addAddress_of_accepts b h]
    dsimp only
    split_ifs <;> simp

@[simp] theorem dial_peers (peer : PeerId) : (b.dial peer).peers = b.peers := by
  unfold dial
  split_ifs <;> simp

theorem dialAddress_peers (peer : PeerId) (addr : Multiaddr) :
    (b.dialAddress peer addr).peers =
      if peer = b.settings.localPeerId then b.peers else b.peers.insert peer (b.entry peer) := by
  unfold dialAddress
  by_cases hl : peer = b.settings.localPeerId
  · simp [hl]
  · simp only [hl, if_false]
    split_ifs <;> simp

theorem removeAddress_lookup (peer : PeerId) (address : Multiaddr) (q : PeerId) :
    (b.removeAddress peer address).peers.lookup q =
      if q = peer then
        (b.peers.lookup peer).map fun info =>
          { info with addresses := info.addresses.erase (normalizeAddrRef address peer) }
      else b.peers.lookup q := by
  unfold removeAddress
  cases h : b.peers.lookup peer with
  | none =>
    by_cases hq : q = peer
    · subst hq; simp [h]
    · simp [hq]
  | some info => simp [AList.lookup_insert_eq_ite]

theorem setRtt_lookup (peer : PeerId) (rtt : Option Duration) (q : PeerId) :
    (b.setRtt peer rtt).peers.lookup q =
      if q = peer then (b.peers.lookup peer).map (·.setRtt rtt) else b.peers.lookup q := by
  unfold setRtt
  cases h : b.peers.lookup peer with
  | none =>
    by_cases hq : q = peer
    · subst hq; simp [h]
    · simp [hq]
  | some info => simp [AList.lookup_insert_eq_ite]

/-- Erasing the keys of a list one after the other. -/
theorem lookup_foldl_erase (l : List PeerId) (m : AList (fun _ : PeerId => PeerInfo))
    (q : PeerId) : (l.foldl (fun m p => m.erase p) m).lookup q = if q ∈ l then none else m.lookup q := by
  induction l generalizing m with
  | nil => simp
  | cons p l ih =>
    rw [List.foldl_cons, ih, AList.lookup_erase_eq_ite]
    by_cases hq : q = p <;> simp [hq]

theorem prunePeers_peers (now : DateTime) (minAge : Duration) :
    (b.prunePeers now minAge).peers =
      ((b.peers.entries.filter fun e => isPrunable e.2 now minAge).map (·.1)).foldl
        (fun m p => m.erase p) b.peers := by
  unfold prunePeers
  generalize (b.peers.entries.filter fun e => isPrunable e.2 now minAge).map (·.1) = l
  induction l generalizing b with
  | nil => rfl
  | cons p l ih =>
    simp only [List.foldl_cons]
    exact ih _

/-- `prune_peers` removes exactly the records that pass `isPrunable`. -/
theorem prunePeers_lookup (now : DateTime) (minAge : Duration) (q : PeerId) :
    (b.prunePeers now minAge).peers.lookup q =
      (b.peers.lookup q).filter fun info => !isPrunable info now minAge := by
  rw [prunePeers_peers, lookup_foldl_erase]
  cases h : b.peers.lookup q with
  | none => simp
  | some info =>
    have hmem : (⟨q, info⟩ : Sigma fun _ : PeerId => PeerInfo) ∈ b.peers.entries :=
      AList.mem_lookup_iff.1 h
    have hkey : q ∈ (b.peers.entries.filter fun e => isPrunable e.2 now minAge).map (·.1) ↔
        isPrunable info now minAge = true := by
      constructor
      · intro hq
        obtain ⟨e, he, rfl⟩ := List.mem_map.1 hq
        have he' := List.mem_filter.1 he
        have hlook : b.peers.lookup e.1 = some e.2 := AList.mem_lookup_iff.2 he'.1
        rw [h] at hlook
        cases hlook
        exact he'.2
      · intro hp
        exact List.mem_map.2 ⟨_, List.mem_filter.2 ⟨hmem, hp⟩, rfl⟩
    by_cases hp : isPrunable info now minAge = true
    · simp [hkey.2 hp, Option.filter_some, hp]
    · simp [show q ∉ _ from fun hq => hp (hkey.1 hq), Option.filter_some, hp]

@[simp] theorem prunePeers_settings (now : DateTime) (minAge : Duration) :
    (b.prunePeers now minAge).settings = b.settings := by
  unfold prunePeers
  generalize (b.peers.entries.filter fun e => isPrunable e.2 now minAge).map (·.1) = l
  induction l generalizing b with
  | nil => rfl
  | cons p l ih =>
    simp only [List.foldl_cons]
    rw [ih]
    rfl

theorem connectionClosed_peers (now : DateTime) (peer : PeerId) (conn : ConnectedPoint)
    (numEstablished : Nat) (error : Option ConnectionError) :
    (b.connectionClosed now peer conn numEstablished error).peers =
      let addr := (normalizeConnectedPoint conn b.settings.localPeerId peer).getRemoteAddress
      b.peers.insert peer
        ({ b.entry peer with connections := (b.entry peer).connections.erase addr }.pushFailure
          addr
          (if error == some ConnectionError.io then ConnectionFailure.them (withoutPeerId addr) now
            else ConnectionFailure.us (withoutPeerId addr) now)
          false) := by
  unfold connectionClosed
  split_ifs <;> simp_all

@[simp] theorem connectionClosed_settings (now : DateTime) (peer : PeerId) (conn : ConnectedPoint)
    (numEstablished : Nat) (error : Option ConnectionError) :
    (b.connectionClosed now peer conn numEstablished error).settings = b.settings := by
  unfold connectionClosed
  split_ifs <;> simp

theorem injectConnectionEstablished_peers (now : DateTime) (peer : PeerId)
    (conn : ConnectedPoint) (otherEstablished : Nat) :
    (b.injectConnectionEstablished now peer conn otherEstablished).peers =
      let cp := normalizeConnectedPoint conn b.settings.localPeerId peer
      let b' := b.addAddress now peer cp.getRemoteAddress
        (if cp.isDialer then AddressSource.dial else AddressSource.incoming)
      b'.peers.insert peer
        { b'.entry peer with
          connections := (b'.entry peer).connections.insert cp.getRemoteAddress
            (now, Direction.ofConnectedPoint cp) } := by
  unfold injectConnectionEstablished
  split_ifs <;> simp

theorem injectAddressChange_peers (now : DateTime) (peer : PeerId) (old new : ConnectedPoint) :
    (b.injectAddressChange now peer old new).peers =
      let o := normalizeConnectedPoint old b.settings.localPeerId peer
      let n := normalizeConnectedPoint new b.settings.localPeerId peer
      let b' := b.addAddress now peer n.getRemoteAddress
        (if n.isDialer then AddressSource.dial else AddressSource.incoming)
      b'.peers.insert peer
        { b'.entry peer with
          connections := ((b'.entry peer).connections.erase o.getRemoteAddress).insert
            n.getRemoteAddress (now, Direction.ofConnectedPoint n) } := by
  unfold injectAddressChange
  simp

end Frame

end AddressBook

end IpfsEmbed
