import IpfsEmbed.Net.AddressBook

/-!
# Identify information (`AddressBook::set_info`)

When a peer's Identify information arrives, `set_info` stores it and derives addresses to
validate.  An `Incoming` address is the remote end of a connection the peer opened to us; with
NAT or without port reuse its port is not one we can dial, so it is *translated*: its port is
replaced by an advertised listen port on the same IP, else by each advertised port, and if no
port was advertised the address is kept as it is.  Advertised addresses we are connected to do
not count as advertised ports.  The `Incoming` entries are then purged, the advertised listen
addresses are added to the translations (without loopback ones unless `enable_loopback`), and
each candidate that is not one of our own listen addresses is ingested as `Listen`.  A newly
learnt candidate is dialled to validate it, unless `port_reuse` holds and we are connected on it,
in which case it is raised to `Candidate` and offered to the swarm instead.

The two `addr.replace(1, ..).unwrap()` calls would panic on an address too short to have a
component at index 1, so `set_info` is partial here: `none` is the panic.  The loop over the
candidates is a fold of `setInfoIngest` over the `FnvHashSet` of candidates, taken in the order
the list gives; the order changes only the order of the dial actions.

`public_key` and `observed_addr` of `identify::Info` are not read by `set_info` and are left out.
-/

namespace IpfsEmbed

/-- `identify::Info`, with the fields `set_info` reads. -/
structure IdentifyInfo where
  protocolVersion : String
  agentVersion : String
  listenAddrs : List Multiaddr
  protocols : List String
  deriving DecidableEq, Repr

namespace AddressBook

/-- `listen_port`: the `(ip, port)` pairs of the advertised listen addresses that we are not
connected to. -/
def listenPort (info : PeerInfo) (peer : PeerId) : List (IpAddr × UInt16) :=
  (info.listeners.filter fun a => !decide (normalizeAddrRef a peer ∈ info.connections)).filterMap
    ipPort

/-- `common_port`: the set of all ports in `listen_port`. -/
def commonPort (listenPort : List (IpAddr × UInt16)) : List UInt16 :=
  (listenPort.map (·.2)).dedup

/-- The translations of one address to translate: one per listen port on its IP, else one
per advertised port, else the address itself.  `none` when `unwrap` panics. -/
def translateAddr (listenPort : List (IpAddr × UInt16)) (commonPort : List UInt16)
    (addr : Multiaddr) : Option (List Multiaddr) :=
  match ipPort addr with
  | none => some []
  | some (ip, _) =>
    let lps := (listenPort.filter fun x => x.1 = ip).map (·.2)
    if lps ≠ [] then lps.mapM fun lp => addr.replace 1 fun _ => some (.tcp lp)
    else if commonPort ≠ [] then commonPort.mapM fun cp => addr.replace 1 fun _ => some (.tcp cp)
    else some [addr]

/-- The translated addresses of all `Incoming` addresses. -/
def translations (info : PeerInfo) (listenPort : List (IpAddr × UInt16)) :
    Option (List Multiaddr) :=
  (info.addressesToTranslate.mapM (translateAddr listenPort (commonPort listenPort))).map
    List.flatten

/-- The advertised listen addresses `set_info` adds to the candidates, named with `peer`. -/
def listenCandidates (enableLoopback : Bool) (info : PeerInfo) (peer : PeerId) :
    List Multiaddr :=
  (info.listeners.filter fun a => enableLoopback || !a.isLoopback).map (normalizeAddrRef · peer)

/-- One candidate of the final loop of `set_info`. -/
def setInfoIngest (listeners : Finset Multiaddr) (portReuse : Bool) (peer : PeerId)
    (now : DateTime) (acc : PeerInfo × List NetworkBehaviourAction) (addr : Multiaddr) :
    PeerInfo × List NetworkBehaviourAction :=
  let tcp := addr.pop
  -- dialling our own listener somehow breaks the Swarm
  if tcp ∈ listeners then acc
  else
    let r := acc.1.ingestAddress now addr .listen
    if r.2 then
      -- with port reuse a second connection to where we are connected is impossible:
      -- offer the address to the swarm instead of dialling it
      if portReuse && decide (addr ∈ r.1.connections) then
        ((r.1.ingestAddress now addr .candidate).1, acc.2)
      else (r.1, acc.2 ++ [.dial ⟨peer, .always, [tcp]⟩ ⟨some (addr, 4), false⟩])
    else (r.1, acc.2)

/-- The record after the Identify fields are stored. -/
def withIdentify (info : PeerInfo) (identify : IdentifyInfo) : PeerInfo :=
  { info with
    protocolVersion := some identify.protocolVersion
    agentVersion := some identify.agentVersion
    protocols := identify.protocols
    listeners := identify.listenAddrs }

/-- `info.addresses.retain(|_a, (s, _dt)| !s.is_to_translate())`. -/
def purgeIncoming (info : PeerInfo) : PeerInfo :=
  { info with addresses := info.addresses.retain fun _ v => !v.1.isToTranslate }

/-- `AddressBook::set_info`; `none` is a panic of `unwrap`. -/
def setInfo (b : AddressBook) (now : DateTime) (peer : PeerId) (identify : IdentifyInfo) :
    Option AddressBook :=
  match b.peers.lookup peer with
  | none => some b
  | some info =>
    let info := withIdentify info identify
    match translations info (listenPort info peer) with
    | none => none
    | some ts =>
      let info := purgeIncoming info
      let translated := (ts ++ listenCandidates b.settings.enableLoopback info peer).dedup
      let r := translated.foldl (setInfoIngest b.listeners b.settings.portReuse peer now) (info, b.actions)
      some ((setPeer { b with actions := r.2 } peer r.1).notify (.newInfo peer))

/-! ## What `set_info` does -/

@[simp] theorem withIdentify_addresses (info : PeerInfo) (identify : IdentifyInfo) :
    (withIdentify info identify).addresses = info.addresses := rfl
@[simp] theorem withIdentify_connections (info : PeerInfo) (identify : IdentifyInfo) :
    (withIdentify info identify).connections = info.connections := rfl
@[simp] theorem withIdentify_listeners (info : PeerInfo) (identify : IdentifyInfo) :
    (withIdentify info identify).listeners = identify.listenAddrs := rfl
@[simp] theorem purgeIncoming_connections (info : PeerInfo) :
    (purgeIncoming info).connections = info.connections := rfl
@[simp] theorem purgeIncoming_listeners (info : PeerInfo) :
    (purgeIncoming info).listeners = info.listeners := rfl

/-- A candidate whose transport part is one of our listeners is skipped. -/
theorem setInfoIngest_of_listener {listeners : Finset Multiaddr} {addr : Multiaddr}
    (h : addr.pop ∈ listeners) (portReuse : Bool) (peer : PeerId) (now : DateTime)
    (acc : PeerInfo × List NetworkBehaviourAction) :
    setInfoIngest listeners portReuse peer now acc addr = acc := by
  unfold setInfoIngest
  exact if_pos h

theorem setInfo_of_lookup_none {b : AddressBook} {peer : PeerId} (h : b.peers.lookup peer = none)
    (now : DateTime) (identify : IdentifyInfo) : b.setInfo now peer identify = some b := by
  simp [setInfo, h]

/-- The candidates `set_info` ingests, once the translations `ts` are known. -/
def candidates (enableLoopback : Bool) (info : PeerInfo) (peer : PeerId) (ts : List Multiaddr) :
    List Multiaddr :=
  (ts ++ listenCandidates enableLoopback (purgeIncoming info) peer).dedup

/-- The last loop of `set_info`: the candidates ingested one by one, starting from the purged
record and the queued actions. -/
def ingestCandidates (b : AddressBook) (now : DateTime) (peer : PeerId) (info : PeerInfo)
    (ts : List Multiaddr) : PeerInfo × List NetworkBehaviourAction :=
  (candidates b.settings.enableLoopback info peer ts).foldl
    (setInfoIngest b.listeners b.settings.portReuse peer now) (purgeIncoming info, b.actions)

/-- `set_info` on a known peer whose translations succeed. -/
theorem setInfo_of_translations {b : AddressBook} {now : DateTime} {peer : PeerId}
    {identify : IdentifyInfo} {info : PeerInfo} {ts : List Multiaddr}
    (hl : b.peers.lookup peer = some info)
    (ht : translations (withIdentify info identify) (listenPort (withIdentify info identify) peer) =
      some ts) :
    b.setInfo now peer identify =
      some ((setPeer { b with actions := (ingestCandidates b now peer (withIdentify info identify) ts).2 }
        peer (ingestCandidates b now peer (withIdentify info identify) ts).1).notify (.newInfo peer)) := by
  simp only [setInfo, hl, ht]
  rfl

/-- **Inversion of `set_info`.**  A call that does not panic either finds no record, and
changes nothing, or stores the Identify fields, translates, purges and ingests the
candidates. -/
theorem setInfo_eq_some {b b' : AddressBook} {now : DateTime} {peer : PeerId}
    {identify : IdentifyInfo} (h : b.setInfo now peer identify = some b') :
    (b.peers.lookup peer = none ∧ b' = b) ∨
      ∃ info ts, b.peers.lookup peer = some info ∧
        translations (withIdentify info identify) (listenPort (withIdentify info identify) peer) =
          some ts ∧
        b' = (setPeer { b with actions := (ingestCandidates b now peer (withIdentify info identify) ts).2 }
          peer (ingestCandidates b now peer (withIdentify info identify) ts).1).notify (.newInfo peer) := by
  cases hl : b.peers.lookup peer with
  | none =>
    rw [setInfo_of_lookup_none hl] at h
    exact .inl ⟨rfl, (Option.some.inj h).symm⟩
  | some info =>
    cases ht : translations (withIdentify info identify) (listenPort (withIdentify info identify) peer) with
    | none =>
      simp only [setInfo, hl, ht] at h
      cases h
    | some ts =>
      rw [setInfo_of_translations hl ht] at h
      exact .inr ⟨info, ts, rfl, ht, (Option.some.inj h).symm⟩

end AddressBook

end IpfsEmbed
