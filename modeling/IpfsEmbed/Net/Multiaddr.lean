import Mathlib.Data.List.Basic
import Mathlib.Data.BitVec

/-!
# Multiaddresses, peer ids and connected points

The address book (`src/net/peers.rs`) handles libp2p multiaddresses only through a few
operations of the `multiaddr` crate: appending (`push`, `with`) and removing (`pop`) the last
component, reading the first and last components (`iter().next()`, `iter().last()`) and
replacing one component (`replace`).  A `Multiaddr` is therefore its list of components, and
those operations are the list operations they are documented to be.

Of the protocols a component may name, the book inspects `/ip4`, `/ip6`, `/tcp` and `/p2p`;
`/dns` and `/udp` are kept as examples of the others, and `other` stands for every remaining
protocol, none of which the book distinguishes.  A `/p2p` component carries a multihash, which
`p.try_into().ok()` turns into a peer id only when it is the multihash of one
(`Multihash.toPeerId`): an address may end in a `/p2p` component that names no peer.

The helpers of `peers.rs` on addresses follow: `normalize_addr_ref`, `without_peer_id`,
`MultiaddrExt::{is_loopback, peer_id}`, `ip_port` and `normalize_connected_point`.
-/

namespace IpfsEmbed

/-- A libp2p peer id; only its identity matters to the address book. -/
structure PeerId where
  id : Nat
  deriving DecidableEq, Repr

/-- `std::net::Ipv4Addr`, as its four octets. -/
structure Ipv4Addr where
  o₀ : UInt8
  o₁ : UInt8
  o₂ : UInt8
  o₃ : UInt8
  deriving DecidableEq, Repr

/-- `std::net::Ipv6Addr`, as its 128 bits in network order. -/
structure Ipv6Addr where
  bits : BitVec 128
  deriving DecidableEq, Repr

/-- `Ipv4Addr::is_loopback`: the address lies in `127.0.0.0/8`. -/
def Ipv4Addr.isLoopback (a : Ipv4Addr) : Bool :=
  a.o₀ == 127

/-- `Ipv6Addr::is_loopback`: the address is `::1`. -/
def Ipv6Addr.isLoopback (a : Ipv6Addr) : Bool :=
  a.bits == 1

/-- `std::net::IpAddr`. -/
inductive IpAddr
  | v4 (a : Ipv4Addr)
  | v6 (a : Ipv6Addr)
  deriving DecidableEq, Repr

/-- The multihash of a `/p2p` component.  `PeerId::try_from` accepts the multihash of a peer id
(`peer`: a SHA2-256 hash, or the identity hash of a short key); any other multihash (`other`,
distinct numbers for distinct multihashes) stays in the address but names no peer. -/
inductive Multihash
  | peer (id : PeerId)
  | other (id : Nat)
  deriving DecidableEq, Repr

/-- `PeerId::try_from(multihash).ok()`. -/
def Multihash.toPeerId : Multihash → Option PeerId
  | .peer id => some id
  | .other _ => none

/-- One component of a multiaddress (`multiaddr::Protocol`). -/
inductive Protocol
  | ip4 (addr : Ipv4Addr)
  | ip6 (addr : Ipv6Addr)
  | dns (name : String)
  | tcp (port : UInt16)
  | udp (port : UInt16)
  | p2p (hash : Multihash)
  | other (name : String) (value : String)
  deriving DecidableEq, Repr

/-- A multiaddress, as the list of its components in order. -/
structure Multiaddr where
  protocols : List Protocol
  deriving DecidableEq, Repr

namespace Multiaddr

/-- `Multiaddr::push` (and `with`): append a component. -/
def push (a : Multiaddr) (p : Protocol) : Multiaddr :=
  ⟨a.protocols ++ [p]⟩

/-- `Multiaddr::pop`, for its effect on the address: drop the last component. -/
def pop (a : Multiaddr) : Multiaddr :=
  ⟨a.protocols.dropLast⟩

/-- `iter().next()`. -/
def first (a : Multiaddr) : Option Protocol :=
  a.protocols.head?

/-- `iter().last()`. -/
def last (a : Multiaddr) : Option Protocol :=
  a.protocols.getLast?

/-- The loop of `Multiaddr::replace`: the component at index `i` is replaced by `f` of it;
the call fails when `f` refuses or the address is shorter than `i + 1`. -/
def replaceAt : List Protocol → Nat → (Protocol → Option Protocol) → Option (List Protocol)
  | [], _, _ => none
  | p :: ps, 0, f => (f p).map (· :: ps)
  | p :: ps, i + 1, f => (replaceAt ps i f).map (p :: ·)

/-- `Multiaddr::replace`. -/
def replace (a : Multiaddr) (i : Nat) (f : Protocol → Option Protocol) : Option Multiaddr :=
  (replaceAt a.protocols i f).map Multiaddr.mk

/-- `if let Some(Protocol::P2p(_)) = addr.iter().last()`: the address already names a peer. -/
def endsWithP2p (a : Multiaddr) : Bool :=
  match a.last with
  | some (.p2p _) => true
  | _ => false

/-- `MultiaddrExt::is_loopback`.  Every address whose first component is not an `/ip4`
component counts as loopback. -/
def isLoopback (a : Multiaddr) : Bool :=
  match a.first with
  | some (.ip4 addr) => addr.isLoopback
  | _ => true

/-- The addresses that start with a loopback IP (`/ip4/127.0.0.0/8` or `/ip6/::1`), the
notion of loopback that `isLoopback` is meant to decide.  Not in the source: it states the
intended behaviour that `isLoopback` is compared with. -/
def startsWithLoopbackIp (a : Multiaddr) : Bool :=
  match a.first with
  | some (.ip4 addr) => addr.isLoopback
  | some (.ip6 addr) => addr.isLoopback
  | _ => false

/-- `MultiaddrExt::peer_id`: the peer named by a trailing `/p2p` component. -/
def peerId (a : Multiaddr) : Option PeerId :=
  match a.last with
  | some (.p2p hash) => hash.toPeerId
  | _ => none

end Multiaddr

/-- `normalize_addr_ref`: append `/p2p/peer` unless the address already ends in a `/p2p`
component, whichever peer that one names. -/
def normalizeAddrRef (addr : Multiaddr) (peer : PeerId) : Multiaddr :=
  if addr.endsWithP2p then addr else addr.push (.p2p (.peer peer))

/-- `without_peer_id`: drop a trailing `/p2p` component. -/
def withoutPeerId (addr : Multiaddr) : Multiaddr :=
  if addr.endsWithP2p then addr.pop else addr

/-- `ip_port`: the leading IP address and TCP port, when the address starts with them. -/
def ipPort (m : Multiaddr) : Option (IpAddr × UInt16) :=
  match m.protocols with
  | .ip4 ip :: .tcp p :: _ => some (.v4 ip, p)
  | .ip6 ip :: .tcp p :: _ => some (.v6 ip, p)
  | _ => none

/-- `libp2p::core::Endpoint`. -/
inductive Endpoint
  | dialer
  | listener
  deriving DecidableEq, Repr

/-- `libp2p::core::ConnectedPoint`: how a connection was opened, with its addresses. -/
inductive ConnectedPoint
  | dialer (address : Multiaddr) (roleOverride : Endpoint)
  | listener (localAddr : Multiaddr) (sendBackAddr : Multiaddr)
  deriving DecidableEq, Repr

namespace ConnectedPoint

/-- `ConnectedPoint::get_remote_address`. -/
def getRemoteAddress : ConnectedPoint → Multiaddr
  | dialer address _ => address
  | listener _ sendBackAddr => sendBackAddr

/-- `ConnectedPoint::is_dialer`. -/
def isDialer : ConnectedPoint → Bool
  | dialer _ _ => true
  | listener _ _ => false

end ConnectedPoint

/-- `normalize_connected_point`: name the local peer on the local address and the remote
peer on the remote one. -/
def normalizeConnectedPoint (cp : ConnectedPoint) (localPeer remote : PeerId) : ConnectedPoint :=
  match cp with
  | .dialer address roleOverride => .dialer (normalizeAddrRef address remote) roleOverride
  | .listener localAddr sendBackAddr =>
    .listener (normalizeAddrRef localAddr localPeer) (normalizeAddrRef sendBackAddr remote)

/-! ## Basic facts -/

namespace Multiaddr

@[simp] theorem pop_push (a : Multiaddr) (p : Protocol) : (a.push p).pop = a := by
  simp [push, pop]

@[simp] theorem last_push (a : Multiaddr) (p : Protocol) : (a.push p).last = some p := by
  simp [push, last]

@[simp] theorem peerId_push_p2p (a : Multiaddr) (peer : PeerId) :
    (a.push (.p2p (.peer peer))).peerId = some peer := by
  simp [peerId, Multihash.toPeerId]

@[simp] theorem endsWithP2p_push_p2p (a : Multiaddr) (hash : Multihash) :
    (a.push (.p2p hash)).endsWithP2p = true := by
  simp [endsWithP2p]

theorem endsWithP2p_iff (a : Multiaddr) : a.endsWithP2p = true ↔ ∃ q, a.last = some (.p2p q) := by
  unfold endsWithP2p
  split <;> simp_all

/-- An address that names a peer ends in `/p2p`; the converse fails for a multihash that is no
peer id. -/
theorem endsWithP2p_of_peerId_isSome {a : Multiaddr} (h : a.peerId.isSome) :
    a.endsWithP2p = true := by
  unfold endsWithP2p
  unfold peerId at h
  split at h <;> simp_all

/-- `replace` at an index inside the address succeeds whenever the replacement function
does, and changes nothing but that one component. -/
theorem replaceAt_eq_set {ps : List Protocol} {i : Nat} (hi : i < ps.length) (q : Protocol) :
    replaceAt ps i (fun _ => some q) = some (ps.set i q) := by
  induction ps generalizing i with
  | nil => simp at hi
  | cons p ps ih =>
    cases i with
    | zero => simp [replaceAt]
    | succ i =>
      have hi' : i < ps.length := by simpa using hi
      simp [replaceAt, ih hi']

end Multiaddr

/-- An address with a leading IP and TCP port has those two components first; setting the
port keeps the IP. -/
theorem ipPort_eq_some {m : Multiaddr} {ip : IpAddr} {port : UInt16}
    (h : ipPort m = some (ip, port)) :
    ∃ c rest, m.protocols = c :: .tcp port :: rest ∧
      ∀ port', ipPort ⟨c :: .tcp port' :: rest⟩ = some (ip, port') := by
  obtain ⟨ps⟩ := m
  unfold ipPort at h
  split at h
  · rename_i a p rest heq
    simp only [Option.some.injEq, Prod.mk.injEq] at h
    obtain ⟨rfl, rfl⟩ := h
    exact ⟨_, rest, heq, fun _ => rfl⟩
  · rename_i a p rest heq
    simp only [Option.some.injEq, Prod.mk.injEq] at h
    obtain ⟨rfl, rfl⟩ := h
    exact ⟨_, rest, heq, fun _ => rfl⟩
  · cases h

/-- `replace(1, ..)` cannot fail on an address `ip_port` accepts: it has a component at
index 1. -/
theorem replace_one_of_ipPort {m : Multiaddr} {ip : IpAddr} {port : UInt16}
    (h : ipPort m = some (ip, port)) (q : Protocol) :
    m.replace 1 (fun _ => some q) = some ⟨m.protocols.set 1 q⟩ := by
  obtain ⟨c, rest, hm, -⟩ := ipPort_eq_some h
  have hlen : 1 < m.protocols.length := by simp [hm]
  simp [Multiaddr.replace, Multiaddr.replaceAt_eq_set hlen]

/-- Replacing the port keeps the IP. -/
theorem ipPort_set_one {m : Multiaddr} {ip : IpAddr} {port : UInt16}
    (h : ipPort m = some (ip, port)) (port' : UInt16) :
    ipPort ⟨m.protocols.set 1 (.tcp port')⟩ = some (ip, port') := by
  obtain ⟨c, rest, hm, hip⟩ := ipPort_eq_some h
  rw [hm]
  exact hip port'

/-- Setting the port an address already has gives the address back. -/
theorem set_one_of_ipPort {m : Multiaddr} {ip : IpAddr} {port : UInt16}
    (h : ipPort m = some (ip, port)) : (⟨m.protocols.set 1 (.tcp port)⟩ : Multiaddr) = m := by
  obtain ⟨c, rest, hm, -⟩ := ipPort_eq_some h
  obtain ⟨ps⟩ := m
  simp only at hm
  simp [hm]

/-- Replacing the port of an address that ends in `/p2p` keeps its last component: the port
is at index 1 and the `/p2p` component comes after it. -/
theorem last_set_one_of_ipPort {m : Multiaddr} {ip : IpAddr} {port : UInt16}
    (h : ipPort m = some (ip, port)) (hm : m.endsWithP2p = true) (port' : UInt16) :
    (⟨m.protocols.set 1 (.tcp port')⟩ : Multiaddr).last = m.last := by
  obtain ⟨c, rest, hps, -⟩ := ipPort_eq_some h
  obtain ⟨q, hq⟩ := (Multiaddr.endsWithP2p_iff m).1 hm
  -- the address is longer than its IP and port, since it ends in `/p2p`
  have hrest : rest ≠ [] := by
    rintro rfl
    simp [Multiaddr.last, hps] at hq
  obtain ⟨r, rs, rfl⟩ := List.exists_cons_of_ne_nil hrest
  obtain ⟨ps⟩ := m
  simp only at hps
  subst hps
  simp [Multiaddr.last, List.getLast?_cons_cons]

theorem normalizeAddrRef_endsWithP2p (addr : Multiaddr) (peer : PeerId) :
    (normalizeAddrRef addr peer).endsWithP2p = true := by
  unfold normalizeAddrRef
  split <;> simp_all

/-- Normalizing names `peer` unless the address already ended in `/p2p`, whatever that
component names. -/
theorem normalizeAddrRef_peerId (addr : Multiaddr) (peer : PeerId) :
    (normalizeAddrRef addr peer).peerId = if addr.endsWithP2p then addr.peerId else some peer := by
  unfold normalizeAddrRef
  split <;> simp

theorem normalizeAddrRef_of_endsWithP2p {addr : Multiaddr} (h : addr.endsWithP2p = true)
    (peer : PeerId) : normalizeAddrRef addr peer = addr := by
  simp [normalizeAddrRef, h]

@[simp] theorem normalizeAddrRef_normalizeAddrRef (addr : Multiaddr) (peer peer' : PeerId) :
    normalizeAddrRef (normalizeAddrRef addr peer) peer' = normalizeAddrRef addr peer :=
  normalizeAddrRef_of_endsWithP2p (normalizeAddrRef_endsWithP2p addr peer) peer'

/-- Stripping the peer from a normalized address gives what stripping it from the address
gives. -/
theorem withoutPeerId_normalizeAddrRef (addr : Multiaddr) (peer : PeerId) :
    withoutPeerId (normalizeAddrRef addr peer) = withoutPeerId addr := by
  unfold normalizeAddrRef withoutPeerId
  by_cases h : addr.endsWithP2p = true
  · simp [h]
  · simp [h]

@[simp] theorem normalizeConnectedPoint_getRemoteAddress (cp : ConnectedPoint)
    (localPeer remote : PeerId) :
    (normalizeConnectedPoint cp localPeer remote).getRemoteAddress =
      normalizeAddrRef cp.getRemoteAddress remote := by
  cases cp <;> rfl

end IpfsEmbed
