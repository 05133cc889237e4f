import IpfsEmbed.Net.AddressBook

/-!
# Failed dials (`AddressBook::inject_dial_failure`)

The swarm reports a failed dial with the peer it was for (if any), the handler the dial was
issued with and the `DialError`.  The failure is booked against the peer the handler's
validated address names, else against the swarm's peer.  A validation dial (handler with an
address) books one failure at that address; the failure settles a probe for transport,
connection I/O and wrong-peer errors, which forgets the address if it was only to be probed,
and a wrong peer forgets it in any case.  Any other failed dial books one failure per address
of a transport error and settles each as a probe.

A TCP simultaneous open shows as a particular Noise I/O error; it schedules a redial after a
random delay, with one retry fewer for a validation dial and `SIM_OPEN_RETRIES` otherwise.
`rand i` is the `i`-th value `rand::random::<u32>()` returns during the call.

Only the structure of an `io::Error` that `is_sim_open` downcasts is modelled (`IoError`); the
display texts of errors are not.
-/

namespace IpfsEmbed

/-- `std::io::ErrorKind`, as far as `is_sim_open` compares it. -/
inductive ErrorKind
  | invalidData
  | other
  deriving DecidableEq, Repr

/-- The payload of an `io::Error`, as far as `is_sim_open` downcasts it. -/
inductive IoError
  /-- `DnsErr::Transport(err)` around the transport's `io::Error`. -/
  | dnsTransport (inner : IoError)
  /-- `TransportTimeoutError::Other(EitherError::A(EitherError::B(UpgradeError::Apply(
  NoiseError::Io(e)))))`, with `e.kind()`. -/
  | noiseIo (kind : ErrorKind)
  | other
  deriving DecidableEq, Repr

/-- `libp2p::TransportError<io::Error>`. -/
inductive TransportError
  | multiaddrNotSupported (addr : Multiaddr)
  | other (err : IoError)
  deriving DecidableEq, Repr

/-- `libp2p::swarm::DialError`. -/
inductive DialError
  | banned
  | connectionLimit
  | localPeerId
  | noAddresses
  | dialPeerConditionFalse (condition : PeerCondition)
  | aborted
  | invalidPeerId
  | wrongPeerId (obtained : PeerId) (endpoint : ConnectedPoint)
  | connectionIo (err : IoError)
  | transport (errors : List (Multiaddr × TransportError))
  deriving DecidableEq, Repr

/-- `is_sim_open`: the Noise handshake failed with `InvalidData` under DNS. -/
def isSimOpen : TransportError → Bool
  | .multiaddrNotSupported _ => false
  | .other (.dnsTransport (.noiseIo kind)) => kind == .invalidData
  | .other _ => false

namespace DialError

/-- `matches!(error, DialError::Transport(_))`. -/
def isTransport : DialError → Bool
  | transport _ => true
  | _ => false

/-- `matches!(error, DialError::WrongPeerId { .. })`. -/
def isWrongPeerId : DialError → Bool
  | wrongPeerId _ _ => true
  | _ => false

/-- `matches!(error, DialError::ConnectionIo(_))`. -/
def isConnectionIo : DialError → Bool
  | connectionIo _ => true
  | _ => false

/-- Whether some transport error of the dial is a simultaneous open. -/
def anySimOpen : DialError → Bool
  | transport v => v.any fun e => isSimOpen e.2
  | _ => false

/-- The transport errors a dial error reports, one per address. -/
def transportErrors : DialError → List (Multiaddr × TransportError)
  | transport v => v
  | _ => []

end DialError

/-- `Duration::from_secs(1) * r / u32::MAX`: the delay before a redial. -/
def redialDelay (r : UInt32) : Duration :=
  Duration.fromSecs 1 * r.toNat / 4294967295

namespace AddressBook

/-- `deferred.push(Delay::new(delay).map(move |_| action))`. -/
def deferAction (b : AddressBook) (delay : Duration) (a : NetworkBehaviourAction) : AddressBook :=
  { b with deferred := b.deferred ++ [(delay, a)] }

/-- The record after our own validation dial of `addr` failed: the failure is booked, it
settles a probe for transport, connection I/O and wrong-peer errors, and a wrong peer
forgets the address. -/
def validationFailureRecord (info : PeerInfo) (now : DateTime) (addr : Multiaddr)
    (error : DialError) : PeerInfo :=
  let wrongPeer := error.isWrongPeerId
  let probeResult := error.isTransport || wrongPeer || error.isConnectionIo
  let info := info.pushFailure addr (ConnectionFailure.dial (withoutPeerId addr) now) probeResult
  -- we know who we dialled and someone else answered: kill the address even if confirmed
  if wrongPeer then { info with addresses := info.addresses.erase addr } else info

/-- The failure of our own validation dial of `addr`, booked against `peerId`. -/
def validationDialFailure (b : AddressBook) (now : DateTime) (peerId : PeerId) (info : PeerInfo)
    (addr : Multiaddr) (retries : UInt8) (keepAlive : Bool) (error : DialError) (r : UInt32) :
    AddressBook :=
  let b := b.setPeer peerId (validationFailureRecord info now addr error)
  let b := if error.anySimOpen && retries > 0 then
      b.deferAction (redialDelay r)
        (.dial ⟨peerId, .disconnected, [addr]⟩ ⟨some (addr, retries - 1), keepAlive⟩)
    else b
  (b.notify (.dialFailure peerId addr)).notify (.newInfo peerId)

/-- One failed address of a dial that was not ours to validate. -/
def transportFailureStep (keepAlive : Bool) (now : DateTime) (peerId : PeerId)
    (acc : PeerInfo × List Event × List NetworkBehaviourAction)
    (ae : Multiaddr × TransportError) : PeerInfo × List Event × List NetworkBehaviourAction :=
  let failure := ConnectionFailure.transport (withoutPeerId ae.1) now
  let info := acc.1.pushFailure (normalizeAddrRef ae.1 peerId) failure true
  let deferred := if isSimOpen ae.2 then
      acc.2.2 ++ [.dial ⟨peerId, .disconnected, [ae.1]⟩ ⟨some (ae.1, simOpenRetries), keepAlive⟩]
    else acc.2.2
  (info, acc.2.1 ++ [.dialFailure peerId ae.1], deferred)

/-- The transport failure of a dial that was not ours to validate. -/
def transportDialFailure (b : AddressBook) (now : DateTime) (peerId : PeerId) (info : PeerInfo)
    (v : List (Multiaddr × TransportError)) (rand : Nat → UInt32) : AddressBook :=
  let r := v.foldl (transportFailureStep b.settings.keepAlive now peerId) (info, [], [])
  let b := b.setPeer peerId r.1
  let b := r.2.1.foldl notify b
  let b := if r.2.2.isEmpty then b.notify (.unreachable peerId) else b
  let b := r.2.2.zipIdx.foldl (fun b ai => b.deferAction (redialDelay (rand ai.2)) ai.1) b
  b.notify (.newInfo peerId)

/-- `inject_dial_failure`. -/
def injectDialFailure (b : AddressBook) (now : DateTime) (peerId : Option PeerId)
    (handler : IntoAddressHandler) (error : DialError) (rand : Nat → UInt32) : AddressBook :=
  match handler.peerId.or peerId with
  | none => b
  | some peerId =>
    match b.peers.lookup peerId with
    | none => b
    | some info =>
      match handler.ownDial with
      | some (addr, retries) =>
        validationDialFailure b now peerId info addr retries handler.keepAlive error (rand 0)
      | none =>
        match error with
        | .transport v => transportDialFailure b now peerId info v rand
        | .dialPeerConditionFalse _ => b
        | .banned | .localPeerId => b
        | _ => b.notify (.unreachable peerId)

/-! ## What `inject_dial_failure` does to the records -/

section Frame

variable (b : AddressBook)

@[simp] theorem deferAction_peers (d : Duration) (a : NetworkBehaviourAction) :
    (b.deferAction d a).peers = b.peers := rfl

/-- A loop of steps that leave the records alone leaves the records alone. -/
theorem foldl_peers_eq {α : Type} (g : AddressBook → α → AddressBook)
    (hg : ∀ b x, (g b x).peers = b.peers) (l : List α) : (l.foldl g b).peers = b.peers := by
  induction l generalizing b with
  | nil => rfl
  | cons x l ih => rw [List.foldl_cons, ih, hg]

/-- The record the transport loop leaves: one `push_failure` per reported address. -/
def transportFailureRecord (now : DateTime) (peerId : PeerId) (info : PeerInfo)
    (v : List (Multiaddr × TransportError)) : PeerInfo :=
  v.foldl (fun info ae =>
    info.pushFailure (normalizeAddrRef ae.1 peerId) (ConnectionFailure.transport (withoutPeerId ae.1) now)
      true) info

theorem foldl_transportFailureStep_fst (keepAlive : Bool) (now : DateTime) (peerId : PeerId)
    (v : List (Multiaddr × TransportError)) (info : PeerInfo) (es : List Event)
    (ds : List NetworkBehaviourAction) :
    (v.foldl (transportFailureStep keepAlive now peerId) (info, es, ds)).1 =
      transportFailureRecord now peerId info v := by
  induction v generalizing info es ds with
  | nil => rfl
  | cons ae v ih =>
    simp only [List.foldl_cons, transportFailureRecord]
    exact ih _ _ _

/-- **Inversion of `inject_dial_failure` on the records.**  Only the record of the peer the
failure is booked against changes, by `validationFailureRecord` or `transportFailureRecord`. -/
theorem injectDialFailure_peers (now : DateTime) (peerId : Option PeerId)
    (handler : IntoAddressHandler) (error : DialError) (rand : Nat → UInt32) :
    (b.injectDialFailure now peerId handler error rand).peers =
      match handler.peerId.or peerId with
      | none => b.peers
      | some q =>
        match b.peers.lookup q with
        | none => b.peers
        | some info =>
          match handler.ownDial, error with
          | some (addr, _), _ => b.peers.insert q (validationFailureRecord info now addr error)
          | none, .transport v => b.peers.insert q (transportFailureRecord now q info v)
          | none, _ => b.peers := by
  unfold injectDialFailure
  rcases hq : handler.peerId.or peerId with _ | q
  · rfl
  · dsimp only
    rcases hl : b.peers.lookup q with _ | info
    · rfl
    · dsimp only
      rcases hd : handler.ownDial with _ | ⟨addr, retries⟩
      · cases error with
        | transport v =>
          simp only [transportDialFailure, notify_peers]
          rw [foldl_peers_eq _ (fun (b : AddressBook) (ai : NetworkBehaviourAction × Nat) =>
            b.deferAction (redialDelay (rand ai.2)) ai.1) (fun _ _ => rfl)]
          split_ifs <;>
            simp [foldl_peers_eq _ notify (fun _ _ => rfl), foldl_transportFailureStep_fst]
        | _ => simp
      · simp only [validationDialFailure]
        split_ifs <;> simp

end Frame

end AddressBook

end IpfsEmbed
