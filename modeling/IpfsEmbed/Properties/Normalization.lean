import IpfsEmbed.Net.Run
import IpfsEmbed.Properties.SetInfo
import IpfsEmbed.Properties.DialFailure

/-!
# Normalized addresses

The book files every address and every connection of a peer under its *normalized* form,
with a trailing `/p2p` component: `add_address`, the listen addresses of `set_info` and the
remote addresses of connections go through `normalize_addr_ref`, and the translations of
`set_info` replace the port of an address that is already a key, which keeps its last
component.  So in every reachable state every key ends in `/p2p`, and the `debug_assert` of
`ingest_address` (a new key ends in `/p2p`) never fails.

Which peer the `/p2p` component names is another matter: `normalize_addr_ref` keeps an address
that already ends in `/p2p`, whichever peer it names, so `add_address(p, /…/p2p/q)` files a key
naming `q` under `p` and queues a validation dial for `p` whose handler names `q`.  It keeps as
well a `/p2p` component whose multihash is no peer id, which names no peer at all.  In runs whose address arguments end in no `/p2p`
component, or in `/p2p/p` for the call's peer `p`, every key of `p` names `p`, and every
queued or deferred dial's handler names no peer other than the one the dial is for.

Both invariants are instances of one argument, stated once for a `KeyPolicy`: a property of
keys that normalization establishes for admissible arguments and that port translation keeps.
-/

namespace IpfsEmbed

namespace PeerInfo

variable {Q : Multiaddr → Prop} {info info' : PeerInfo}

/-- Every address and every connection key of the record satisfies `Q`. -/
def KeysSatisfy (Q : Multiaddr → Prop) (info : PeerInfo) : Prop :=
  (∀ a ∈ info.addresses, Q a) ∧ ∀ a ∈ info.connections, Q a

theorem keysSatisfy_default : (default : PeerInfo).KeysSatisfy Q :=
  ⟨fun a ha => absurd ha (AList.notMem_empty a), fun a ha => absurd ha (AList.notMem_empty a)⟩

/-- Fewer keys keep the property. -/
theorem KeysSatisfy.of_subset (h : info.KeysSatisfy Q)
    (ha : ∀ a ∈ info'.addresses, a ∈ info.addresses)
    (hc : ∀ a ∈ info'.connections, a ∈ info.connections) : info'.KeysSatisfy Q :=
  ⟨fun a h' => h.1 a (ha a h'), fun a h' => h.2 a (hc a h')⟩

theorem KeysSatisfy.ingestAddress (h : info.KeysSatisfy Q) {addr : Multiaddr} (haddr : Q addr)
    (now : DateTime) (source : AddressSource) :
    (info.ingestAddress now addr source).1.KeysSatisfy Q := by
  rw [ingestAddress_eq]
  refine ⟨fun a ha => ?_, h.2⟩
  rcases (AList.mem_insert _).1 ha with rfl | ha
  · exact haddr
  · exact h.1 a ha

theorem KeysSatisfy.pushFailure (h : info.KeysSatisfy Q) (addr : Multiaddr)
    (f : ConnectionFailure) (probeResult : Bool) :
    (info.pushFailure addr f probeResult).KeysSatisfy Q := by
  refine h.of_subset (fun a ha => ?_) (fun a ha => ha)
  rw [AList.mem_iff_lookup_isSome, pushFailure_lookup] at ha
  split_ifs at ha
  · cases ha
  · exact (AList.mem_iff_lookup_isSome _ _).2 ha

/-- A record that only lost addresses, with the same connections, keeps the property. -/
theorem KeysSatisfy.removesOnly (h : info.KeysSatisfy Q) {P : Multiaddr → AddressSource → Prop}
    (hr : info.RemovesOnly P info') (hk : info.KeepsFields info') : info'.KeysSatisfy Q := by
  refine h.of_subset (fun a ha => ?_) (fun a ha => ?_)
  · rw [AList.mem_iff_lookup_isSome] at ha ⊢
    rcases hr a with hr | ⟨hr, -⟩
    · rwa [← hr]
    · rw [hr] at ha
      cases ha
  · rwa [← hk.2.2.2.2.1]

theorem KeysSatisfy.insertConnection (h : info.KeysSatisfy Q) {a : Multiaddr} (ha : Q a)
    (v : DateTime × Direction) :
    ({ info with connections := info.connections.insert a v } : PeerInfo).KeysSatisfy Q := by
  refine ⟨h.1, fun x hx => ?_⟩
  rcases (AList.mem_insert _).1 hx with rfl | hx
  · exact ha
  · exact h.2 x hx

theorem KeysSatisfy.eraseConnection (h : info.KeysSatisfy Q) (a : Multiaddr) :
    ({ info with connections := info.connections.erase a } : PeerInfo).KeysSatisfy Q :=
  h.of_subset (fun _ hx => hx) (fun _ hx => (AList.mem_erase.1 hx).2)

end PeerInfo

/-! ## The property on every record of a book -/

/-- What every key of every record is to satisfy, and what the calls' address arguments must
satisfy for normalization to establish it.  Port translation must keep it. -/
structure KeyPolicy where
  /-- The property of a key of peer `p`'s record. -/
  Holds : PeerId → Multiaddr → Prop
  /-- The admissible address arguments of a call for peer `p`. -/
  Arg : PeerId → Multiaddr → Prop
  normalize : ∀ p a, Arg p a → Holds p (normalizeAddrRef a p)
  translate : ∀ p x ip port port', Holds p x → ipPort x = some (ip, port) →
    Holds p ⟨x.protocols.set 1 (.tcp port')⟩

namespace AddressBook

open PeerInfo

/-- Every key of the record of every peer `p` satisfies `P p`. -/
def KeysSatisfy (P : PeerId → Multiaddr → Prop) (b : AddressBook) : Prop :=
  ∀ p info, b.peers.lookup p = some info → info.KeysSatisfy (P p)

variable {P : PeerId → Multiaddr → Prop} {b b' : AddressBook}

theorem keysSatisfy_new (localPeerId : PeerId) (portReuse enableLoopback keepAlive : Bool) :
    KeysSatisfy P (new localPeerId portReuse enableLoopback keepAlive) := by
  intro p info h
  simp [new] at h

theorem KeysSatisfy.entry (h : KeysSatisfy P b) (p : PeerId) : (b.entry p).KeysSatisfy (P p) := by
  unfold AddressBook.entry
  cases hl : b.peers.lookup p with
  | none => exact keysSatisfy_default
  | some info => exact h p info hl

/-- A book whose records are records of `b` or satisfy the property satisfies it. -/
theorem KeysSatisfy.of_lookup (h : KeysSatisfy P b)
    (hl : ∀ p info', b'.peers.lookup p = some info' →
      b.peers.lookup p = some info' ∨ info'.KeysSatisfy (P p)) : KeysSatisfy P b' := by
  intro p info' h'
  rcases hl p info' h' with hb | hk
  · exact h p info' hb
  · exact hk

theorem KeysSatisfy.of_peers_eq (h : KeysSatisfy P b) (hpeers : b'.peers = b.peers) :
    KeysSatisfy P b' :=
  h.of_lookup fun _ _ h' => .inl (hpeers ▸ h')

theorem KeysSatisfy.insert (h : KeysSatisfy P b) {p : PeerId} {info : PeerInfo}
    (hinfo : info.KeysSatisfy (P p)) (hpeers : b'.peers = b.peers.insert p info) :
    KeysSatisfy P b' := by
  refine h.of_lookup fun q info' h' => ?_
  rw [hpeers, AList.lookup_insert_eq_ite] at h'
  split_ifs at h' with hq
  · subst hq
    cases h'
    exact .inr hinfo
  · exact .inl h'

/-! ## One lemma per call -/

section Calls

variable (now : DateTime)

theorem KeysSatisfy.addAddress (h : KeysSatisfy P b) {peer : PeerId} {address : Multiaddr}
    (source : AddressSource) (harg : P peer (normalizeAddrRef address peer)) :
    KeysSatisfy P (b.addAddress now peer address source) := by
  by_cases hacc : b.acceptsAddress peer address = true
  · exact h.insert ((h.entry peer).ingestAddress harg now source)
      (by rw [addAddress_peers, if_pos hacc])
  · exact h.of_peers_eq (by rw [addAddress_peers, if_neg hacc])

theorem KeysSatisfy.removeAddress (h : KeysSatisfy P b) (peer : PeerId) (address : Multiaddr) :
    KeysSatisfy P (b.removeAddress peer address) := by
  refine h.of_lookup fun q info' h' => ?_
  rw [removeAddress_lookup] at h'
  split_ifs at h' with hq
  · obtain ⟨info, hl, rfl⟩ := Option.map_eq_some_iff.1 h'
    subst hq
    exact .inr ((h q info hl).of_subset (fun a ha => (AList.mem_erase.1 ha).2) (fun _ hx => hx))
  · exact .inl h'

theorem KeysSatisfy.dialAddress (h : KeysSatisfy P b) (peer : PeerId) (addr : Multiaddr) :
    KeysSatisfy P (b.dialAddress peer addr) := by
  by_cases hl : peer = b.settings.localPeerId
  · exact h.of_peers_eq (by rw [dialAddress_peers, if_pos hl])
  · exact h.insert (h.entry peer) (by rw [dialAddress_peers, if_neg hl])

theorem KeysSatisfy.prunePeers (h : KeysSatisfy P b) (minAge : Duration) :
    KeysSatisfy P (b.prunePeers now minAge) := by
  refine h.of_lookup fun q info' h' => ?_
  rw [prunePeers_lookup] at h'
  exact .inl (Option.filter_eq_some_iff.1 h').1

theorem KeysSatisfy.setRtt (h : KeysSatisfy P b) (peer : PeerId) (rtt : Option Duration) :
    KeysSatisfy P (b.setRtt peer rtt) := by
  refine h.of_lookup fun q info' h' => ?_
  rw [setRtt_lookup] at h'
  split_ifs at h' with hq
  · obtain ⟨info, hl, rfl⟩ := Option.map_eq_some_iff.1 h'
    subst hq
    exact .inr ((h q info hl).of_subset (fun a ha => by rwa [setRtt_addresses] at ha)
      (fun a ha => by rwa [setRtt_connections] at ha))
  · exact .inl h'

theorem KeysSatisfy.connectionClosed (h : KeysSatisfy P b) (peer : PeerId) (conn : ConnectedPoint)
    (numEstablished : Nat) (error : Option ConnectionError) :
    KeysSatisfy P (b.connectionClosed now peer conn numEstablished error) :=
  h.insert (((h.entry peer).eraseConnection _).pushFailure _ _ _) (connectionClosed_peers _ _ _ _ _ _)

/-- A new connection files its remote address, normalized with the peer, as an address and as
a connection key. -/
theorem KeysSatisfy.injectConnectionEstablished (h : KeysSatisfy P b) {peer : PeerId}
    {conn : ConnectedPoint} (otherEstablished : Nat)
    (harg : P peer (normalizeAddrRef conn.getRemoteAddress peer)) :
    KeysSatisfy P (b.injectConnectionEstablished now peer conn otherEstablished) := by
  have harg' : P peer (normalizeAddrRef
      (normalizeConnectedPoint conn b.settings.localPeerId peer).getRemoteAddress peer) := by
    simpa using harg
  have h' := h.addAddress now (if (normalizeConnectedPoint conn b.settings.localPeerId peer).isDialer
    then AddressSource.dial else AddressSource.incoming) harg'
  refine h'.insert ((h'.entry peer).insertConnection ?_ _) (injectConnectionEstablished_peers _ _ _ _ _)
  simpa using harg

theorem KeysSatisfy.injectAddressChange (h : KeysSatisfy P b) {peer : PeerId}
    (old : ConnectedPoint) {new : ConnectedPoint}
    (harg : P peer (normalizeAddrRef new.getRemoteAddress peer)) :
    KeysSatisfy P (b.injectAddressChange now peer old new) := by
  have harg' : P peer (normalizeAddrRef
      (normalizeConnectedPoint new b.settings.localPeerId peer).getRemoteAddress peer) := by
    simpa using harg
  have h' := h.addAddress now (if (normalizeConnectedPoint new b.settings.localPeerId peer).isDialer
    then AddressSource.dial else AddressSource.incoming) harg'
  refine h'.insert (((h'.entry peer).eraseConnection _).insertConnection ?_ _)
    (injectAddressChange_peers _ _ _ _ _)
  simpa using harg

theorem KeysSatisfy.injectDialFailure (h : KeysSatisfy P b) (peerId : Option PeerId)
    (handler : IntoAddressHandler) (error : DialError) (rand : Nat → UInt32) :
    KeysSatisfy P (b.injectDialFailure now peerId handler error rand) := by
  refine h.of_lookup fun p info' h' => ?_
  by_cases hq : handler.peerId.or peerId = some p
  · cases hl : b.peers.lookup p with
    | none =>
      rw [injectDialFailure_lookup_of_ne b now peerId handler error rand (.inr hl), hl] at h'
      cases h'
    | some info =>
      -- the booked record only loses addresses
      rw [injectDialFailure_lookup_self b now peerId handler error rand hq hl] at h'
      cases h'
      exact .inr ((h p info hl).removesOnly (dialFailureRecord_removesOnly now p info handler error)
        (dialFailureRecord_keepsFields now p info handler error))
  · rw [injectDialFailure_lookup_of_ne b now peerId handler error rand (.inl hq)] at h'
    exact .inl h'

/-- Every address the last loop of `set_info` considers has the property when the translations
and the listen addresses that pass the loopback filter, normalized, have it. -/
theorem candidates_satisfy {Q : Multiaddr → Prop} {enableLoopback : Bool} {info : PeerInfo}
    {peer : PeerId} {ts : List Multiaddr} (hts : ∀ a ∈ ts, Q a)
    (hlisten : ∀ l ∈ info.listeners, (enableLoopback || !l.isLoopback) = true →
      Q (normalizeAddrRef l peer)) :
    ∀ a ∈ candidates enableLoopback info peer ts, Q a := by
  intro a ha
  rcases mem_candidates.1 ha with ha | ⟨l, hl, hf, rfl⟩
  · exact hts a ha
  · exact hlisten l hl hf

/-- The record `set_info` leaves has the property when the old record and the candidates
have it. -/
theorem ingestCandidates_keysSatisfy {Q : Multiaddr → Prop} (b₀ : AddressBook) (peer : PeerId)
    {info : PeerInfo} (hinfo : info.KeysSatisfy Q) {ts : List Multiaddr}
    (hcand : ∀ a ∈ candidates b₀.settings.enableLoopback info peer ts, Q a) :
    (ingestCandidates b₀ now peer info ts).1.KeysSatisfy Q := by
  refine ⟨fun a ha => ?_, fun a ha => ?_⟩
  · rw [AList.mem_iff_lookup_isSome, Option.isSome_iff_ne_none] at ha
    rcases foldl_setInfoIngest_lookup_ne_none _ _ _ _ _ _ ha with ha | ha
    · -- an address kept from the purged record
      rw [purgeIncoming_lookup] at ha
      apply hinfo.1 a
      rw [AList.mem_iff_lookup_isSome, Option.isSome_iff_ne_none]
      intro hnone
      rw [hnone, Option.filter_none] at ha
      exact ha rfl
    · exact hcand a ha
  · rw [ingestCandidates, foldl_setInfoIngest_connections] at ha
    exact hinfo.2 a ha

/-- Every translation `set_info` makes has the property when port translation keeps it: it
replaces the port of a key. -/
theorem translations_satisfy {Q : Multiaddr → Prop} {info : PeerInfo} (hinfo : info.KeysSatisfy Q)
    (htranslate : ∀ x ip port port', Q x → ipPort x = some (ip, port) →
      Q ⟨x.protocols.set 1 (.tcp port')⟩)
    {listenPort : List (IpAddr × UInt16)} {ts : List Multiaddr}
    (ht : translations info listenPort = some ts) : ∀ a ∈ ts, Q a := by
  obtain ⟨ts', ht', hmem⟩ := translations_eq_some info listenPort
  rw [ht, Option.some.injEq] at ht'
  subst ht'
  intro a ha
  obtain ⟨x, t, hx, ip, port, port', hip, -, rfl⟩ := hmem a ha
  exact htranslate x ip port port'
    (hinfo.1 x ((AList.mem_iff_lookup_isSome _ _).2 (by rw [hx]; rfl))) hip

/-- Every address `set_info` ingests for `peer` has `P peer`, when the listen addresses do
after normalization and port translation keeps `P peer`. -/
theorem KeysSatisfy.setInfo_candidates (h : KeysSatisfy P b) {peer : PeerId}
    {identify : IdentifyInfo}
    (hlisten : ∀ l ∈ identify.listenAddrs, P peer (normalizeAddrRef l peer))
    (htranslate : ∀ x ip port port', P peer x → ipPort x = some (ip, port) →
      P peer ⟨x.protocols.set 1 (.tcp port')⟩)
    {info : PeerInfo} {ts : List Multiaddr} (hl : b.peers.lookup peer = some info)
    (ht : translations (withIdentify info identify) (listenPort (withIdentify info identify) peer) =
      some ts) :
    ∀ a ∈ candidates b.settings.enableLoopback (withIdentify info identify) peer ts, P peer a :=
  candidates_satisfy (translations_satisfy (h peer info hl) htranslate ht)
    (fun l hl _ => hlisten l hl)

theorem KeysSatisfy.setInfo (h : KeysSatisfy P b) {peer : PeerId} {identify : IdentifyInfo}
    (hlisten : ∀ l ∈ identify.listenAddrs, P peer (normalizeAddrRef l peer))
    (htranslate : ∀ x ip port port', P peer x → ipPort x = some (ip, port) →
      P peer ⟨x.protocols.set 1 (.tcp port')⟩)
    (he : b.setInfo now peer identify = some b') : KeysSatisfy P b' := by
  rcases setInfo_eq_some he with ⟨-, rfl⟩ | ⟨info, ts, hl, ht, rfl⟩
  · exact h
  · -- `withIdentify` leaves the keys alone
    have hinfo : (withIdentify info identify).KeysSatisfy (P peer) := h peer info hl
    exact h.insert (ingestCandidates_keysSatisfy now b peer hinfo
      (h.setInfo_candidates hlisten htranslate hl ht)) (by simp)

end Calls

end AddressBook

/-! ## Every call -/

/-- The address arguments of a call satisfy `Arg` of the peer they are for. -/
def BookOp.ArgsOk (Arg : PeerId → Multiaddr → Prop) : BookOp → Prop
  | .addAddress peer address _ => Arg peer address
  | .dialAddress peer addr => Arg peer addr
  | .setInfo peer identify => ∀ l ∈ identify.listenAddrs, Arg peer l
  | .injectConnectionEstablished peer conn _ => Arg peer conn.getRemoteAddress
  | .injectAddressChange peer _ new => Arg peer new.getRemoteAddress
  | .injectDialFailure peerId handler error _ =>
    ∀ q, handler.peerId.or peerId = some q → ∀ ae ∈ error.transportErrors, Arg q ae.1
  | _ => True

open AddressBook in
/-- **Every call keeps the policy's property on all keys**, given admissible arguments. -/
theorem BookOp.exec_keysSatisfy (pol : KeyPolicy) {b b' : AddressBook} {now : DateTime}
    {op : BookOp} (h : KeysSatisfy pol.Holds b) (hop : op.ArgsOk pol.Arg)
    (he : op.exec b now = some b') : KeysSatisfy pol.Holds b' := by
  cases op with
  | addAddress peer address source =>
    cases he
    exact h.addAddress now source (pol.normalize _ _ hop)
  | removeAddress peer address =>
    cases he
    exact h.removeAddress peer address
  | dial peer =>
    cases he
    exact h.of_peers_eq (dial_peers b peer)
  | dialAddress peer addr =>
    cases he
    exact h.dialAddress peer addr
  | prunePeers minAge =>
    cases he
    exact h.prunePeers now minAge
  | setRtt peer rtt =>
    cases he
    exact h.setRtt peer rtt
  | setInfo peer identify =>
    exact h.setInfo now (fun l hl => pol.normalize _ _ (hop l hl)) (pol.translate peer) he
  | connectionClosed peer conn n error =>
    cases he
    exact h.connectionClosed now peer conn n error
  | injectConnectionEstablished peer conn n =>
    cases he
    exact h.injectConnectionEstablished now n (pol.normalize _ _ hop)
  | injectAddressChange peer old new =>
    cases he
    exact h.injectAddressChange now old (pol.normalize _ _ hop)
  | injectDialFailure peerId handler error rand =>
    cases he
    exact h.injectDialFailure now peerId handler error rand
  | injectNewListenAddr id addr =>
    cases he
    exact h.of_peers_eq rfl
  | injectExpiredListenAddr id addr =>
    cases he
    exact h.of_peers_eq rfl
  | poll =>
    cases he
    exact h.of_peers_eq rfl

/-! ## The two policies -/

/-- Every key ends in `/p2p`; every argument is admissible. -/
def KeyPolicy.endsInP2p : KeyPolicy where
  Holds _ a := a.endsWithP2p = true
  Arg _ _ := True
  normalize p a _ := normalizeAddrRef_endsWithP2p a p
  translate _ x _ _ port' hx hip := by
    have hlast := last_set_one_of_ipPort hip hx port'
    unfold Multiaddr.endsWithP2p at hx ⊢
    rw [hlast]
    exact hx

/-- Every key of `p` names `p`; an admissible argument names no other peer: it does not end in
`/p2p`, or it ends in `/p2p/p`.  An address ending in a `/p2p` component whose multihash is no
peer id names no peer, but `normalize_addr_ref` keeps it, so it is not admissible. -/
def KeyPolicy.namesPeer : KeyPolicy where
  Holds p a := a.peerId = some p
  Arg p a := a.endsWithP2p = false ∨ a.peerId = some p
  normalize p a ha := by
    rw [normalizeAddrRef_peerId]
    rcases ha with ha | ha <;> simp [ha]
  translate _ x _ _ port' hx hip := by
    have hend : x.endsWithP2p = true := Multiaddr.endsWithP2p_of_peerId_isSome (by simp [hx])
    have hlast := last_set_one_of_ipPort hip hend port'
    unfold Multiaddr.peerId at hx ⊢
    rw [hlast]
    exact hx

/-- An admissible argument names the call's peer or none. -/
theorem KeyPolicy.namesPeer_arg_peerId {p : PeerId} {a : Multiaddr}
    (h : KeyPolicy.namesPeer.Arg p a) : a.peerId = none ∨ a.peerId = some p := by
  rcases h with h | h
  · -- an address that does not end in `/p2p` names no peer
    left
    cases hp : a.peerId with
    | none => rfl
    | some q => simp [Multiaddr.endsWithP2p_of_peerId_isSome (a := a) (by simp [hp])] at h
  · exact .inr h

theorem BookOp.argsOk_true (op : BookOp) : op.ArgsOk fun _ _ => True := by
  cases op <;> simp [BookOp.ArgsOk]

/-! ## What each call queues

Dials are queued by `add_address`, `dial`, `dial_address` and `set_info` (and by the two
connection callbacks through `add_address`), and deferred by `inject_dial_failure`. -/

namespace AddressBook

variable (b : AddressBook) (now : DateTime)

theorem addAddress_deferred (peer : PeerId) (address : Multiaddr) (source : AddressSource) :
    (b.addAddress now peer address source).deferred = b.deferred := by
  cases h : b.acceptsAddress peer address
  · rw [addAddress_of_not_accepts b h]
  · rw [addAddress_of_accepts b h]
    dsimp only
    split_ifs <;> rfl

theorem addAddress_actions (peer : PeerId) (address : Multiaddr) (source : AddressSource) :
    (b.addAddress now peer address source).actions = b.actions ∨
      (b.addAddress now peer address source).actions = b.actions ++ [.dial
        ⟨peer, .always, [withoutPeerId address]⟩
        ⟨some (normalizeAddrRef address peer, simOpenRetries + 1), false⟩] := by
  cases h : b.acceptsAddress peer address
  · rw [addAddress_of_not_accepts b h]
    exact .inl rfl
  · rw [addAddress_of_accepts b h]
    dsimp only
    split_ifs <;> simp

theorem dial_actions (peer : PeerId) :
    (b.dial peer).actions = b.actions ∨
      (b.dial peer).actions = b.actions ++ [.dial ⟨peer, .disconnected, []⟩ b.newHandler] := by
  unfold dial
  split_ifs
  · exact .inl rfl
  · exact .inr rfl

theorem dial_deferred (peer : PeerId) : (b.dial peer).deferred = b.deferred := by
  unfold dial
  split_ifs <;> rfl

theorem dialAddress_actions (peer : PeerId) (addr : Multiaddr) :
    (b.dialAddress peer addr).actions = b.actions ∨
      (b.dialAddress peer addr).actions = b.actions ++ [.dial ⟨peer, .disconnected, [addr]⟩
        ⟨some (normalizeAddrRef addr peer, simOpenRetries + 1), b.settings.keepAlive⟩] := by
  unfold dialAddress
  dsimp only
  split_ifs <;> simp

theorem dialAddress_deferred (peer : PeerId) (addr : Multiaddr) :
    (b.dialAddress peer addr).deferred = b.deferred := by
  unfold dialAddress
  dsimp only
  split_ifs <;> rfl

theorem prunePeers_queues (minAge : Duration) :
    (b.prunePeers now minAge).actions = b.actions ∧ (b.prunePeers now minAge).deferred = b.deferred := by
  unfold prunePeers
  generalize (b.peers.entries.filter fun e => isPrunable e.2 now minAge).map (·.1) = l
  induction l generalizing b with
  | nil => exact ⟨rfl, rfl⟩
  | cons p l ih =>
    rw [List.foldl_cons]
    exact ih _

theorem setRtt_queues (peer : PeerId) (rtt : Option Duration) :
    (b.setRtt peer rtt).actions = b.actions ∧ (b.setRtt peer rtt).deferred = b.deferred := by
  unfold setRtt
  split <;> exact ⟨rfl, rfl⟩

theorem connectionClosed_queues (peer : PeerId) (conn : ConnectedPoint) (n : Nat)
    (error : Option ConnectionError) :
    (b.connectionClosed now peer conn n error).actions = b.actions ∧
      (b.connectionClosed now peer conn n error).deferred = b.deferred := by
  unfold connectionClosed
  split_ifs <;> exact ⟨rfl, rfl⟩

theorem removeAddress_queues (peer : PeerId) (address : Multiaddr) :
    (b.removeAddress peer address).actions = b.actions ∧
      (b.removeAddress peer address).deferred = b.deferred := by
  unfold removeAddress
  split <;> exact ⟨rfl, rfl⟩

/-- The two connection callbacks queue what their `add_address` queues. -/
theorem injectConnectionEstablished_queues (peer : PeerId) (conn : ConnectedPoint) (n : Nat) :
    let cp := normalizeConnectedPoint conn b.settings.localPeerId peer
    let b' := b.addAddress now peer cp.getRemoteAddress
      (if cp.isDialer then AddressSource.dial else AddressSource.incoming)
    (b.injectConnectionEstablished now peer conn n).actions = b'.actions ∧
      (b.injectConnectionEstablished now peer conn n).deferred = b'.deferred := by
  unfold injectConnectionEstablished
  split_ifs <;> exact ⟨rfl, rfl⟩

theorem injectAddressChange_queues (peer : PeerId) (old new : ConnectedPoint) :
    let n := normalizeConnectedPoint new b.settings.localPeerId peer
    let b' := b.addAddress now peer n.getRemoteAddress
      (if n.isDialer then AddressSource.dial else AddressSource.incoming)
    (b.injectAddressChange now peer old new).actions = b'.actions ∧
      (b.injectAddressChange now peer old new).deferred = b'.deferred :=
  ⟨rfl, rfl⟩

end AddressBook

/-! ## Whom the dial handlers name -/

/-- The handler of a dial names no peer other than the one dialled. -/
def NetworkBehaviourAction.NamesPeer : NetworkBehaviourAction → Prop
  | .dial opts handler => handler.peerId = none ∨ handler.peerId = some opts.peerId

instance (a : NetworkBehaviourAction) : Decidable a.NamesPeer :=
  match a with
  | .dial _ _ => inferInstanceAs (Decidable (_ ∨ _))

/-- A dial's handler names no other peer exactly when `inject_dial_failure`, which prefers the
handler's peer to the one the swarm reports, books a failure of the dial against the peer
dialled. -/
theorem NetworkBehaviourAction.namesPeer_iff (opts : DialOpts) (handler : IntoAddressHandler) :
    (NetworkBehaviourAction.dial opts handler).NamesPeer ↔
      handler.peerId.or (some opts.peerId) = some opts.peerId := by
  simp only [NamesPeer]
  cases handler.peerId with
  | none => simp
  | some q => simp

/-- A redial after a failed validation dial names the peer the failure was booked against, or
none: it keeps the validated address. -/
theorem NetworkBehaviourAction.namesPeer_redial {handler : IntoAddressHandler}
    {peerId : Option PeerId} {q : PeerId} (hq : handler.peerId.or peerId = some q)
    {addr : Multiaddr} {retries : UInt8} (hown : handler.ownDial = some (addr, retries))
    (c : PeerCondition) (as : List Multiaddr) (retries' : UInt8) (keepAlive : Bool) :
    (NetworkBehaviourAction.dial ⟨q, c, as⟩ ⟨some (addr, retries'), keepAlive⟩).NamesPeer := by
  have hp : handler.peerId = addr.peerId := by
    simp [IntoAddressHandler.peerId, hown]
  rw [hp] at hq
  show addr.peerId = none ∨ addr.peerId = some q
  cases hx : addr.peerId with
  | none => exact .inl rfl
  | some x =>
    rw [hx, Option.some_or] at hq
    exact .inr hq

namespace AddressBook

/-- Every queued and every deferred dial of the book has a handler that names no peer other
than the one dialled. -/
def HandlersNamePeer (b : AddressBook) : Prop :=
  (∀ a ∈ b.actions, a.NamesPeer) ∧ ∀ d ∈ b.deferred, d.2.NamesPeer

variable {b b' : AddressBook}

theorem handlersNamePeer_new (localPeerId : PeerId) (portReuse enableLoopback keepAlive : Bool) :
    (new localPeerId portReuse enableLoopback keepAlive).HandlersNamePeer :=
  ⟨fun _ h => absurd h List.not_mem_nil, fun _ h => absurd h List.not_mem_nil⟩

/-- A book whose queued dials are old ones or name their peer keeps the property. -/
theorem HandlersNamePeer.of_queues (h : b.HandlersNamePeer)
    (ha : ∀ a ∈ b'.actions, a ∈ b.actions ∨ a.NamesPeer)
    (hd : ∀ d ∈ b'.deferred, d ∈ b.deferred ∨ d.2.NamesPeer) : b'.HandlersNamePeer := by
  refine ⟨fun a h' => ?_, fun d h' => ?_⟩
  · rcases ha a h' with ha | ha
    · exact h.1 a ha
    · exact ha
  · rcases hd d h' with hd | hd
    · exact h.2 d hd
    · exact hd

theorem HandlersNamePeer.of_eq (h : b.HandlersNamePeer) (ha : b'.actions = b.actions)
    (hd : b'.deferred = b.deferred) : b'.HandlersNamePeer :=
  h.of_queues (fun _ h' => .inl (ha ▸ h')) (fun _ h' => .inl (hd ▸ h'))

/-- A call that may queue one dial whose handler names its peer keeps the property. -/
theorem HandlersNamePeer.push (h : b.HandlersNamePeer) {a : NetworkBehaviourAction}
    (ha : b'.actions = b.actions ∨ b'.actions = b.actions ++ [a]) (hna : a.NamesPeer)
    (hd : b'.deferred = b.deferred) : b'.HandlersNamePeer := by
  refine h.of_queues (fun x hx => ?_) (fun d h' => .inl (hd ▸ h'))
  rcases ha with ha | ha <;> rw [ha] at hx
  · exact .inl hx
  · rcases List.mem_append.1 hx with hx | hx
    · exact .inl hx
    · exact .inr (List.mem_singleton.1 hx ▸ hna)

section Calls

variable (now : DateTime)

theorem HandlersNamePeer.addAddress (h : b.HandlersNamePeer) {peer : PeerId} {address : Multiaddr}
    (source : AddressSource) (harg : KeyPolicy.namesPeer.Arg peer address) :
    (b.addAddress now peer address source).HandlersNamePeer :=
  h.push (addAddress_actions b now peer address source)
    (Or.inr (KeyPolicy.namesPeer.normalize peer address harg)) (addAddress_deferred b now peer address source)

theorem HandlersNamePeer.dial (h : b.HandlersNamePeer) (peer : PeerId) :
    (b.dial peer).HandlersNamePeer :=
  h.push (dial_actions b peer) (Or.inl rfl) (dial_deferred b peer)

theorem HandlersNamePeer.dialAddress (h : b.HandlersNamePeer) {peer : PeerId} {addr : Multiaddr}
    (harg : KeyPolicy.namesPeer.Arg peer addr) : (b.dialAddress peer addr).HandlersNamePeer :=
  h.push (dialAddress_actions b peer addr) (Or.inr (KeyPolicy.namesPeer.normalize peer addr harg))
    (dialAddress_deferred b peer addr)

/-- A connection's remote address is an admissible argument of the `add_address` it makes. -/
theorem namesPeer_arg_remote {peer : PeerId} {conn : ConnectedPoint}
    (harg : KeyPolicy.namesPeer.Arg peer conn.getRemoteAddress) (localPeer : PeerId) :
    KeyPolicy.namesPeer.Arg peer (normalizeConnectedPoint conn localPeer peer).getRemoteAddress := by
  rw [normalizeConnectedPoint_getRemoteAddress]
  exact .inr (KeyPolicy.namesPeer.normalize peer _ harg)

theorem HandlersNamePeer.injectConnectionEstablished (h : b.HandlersNamePeer) {peer : PeerId}
    {conn : ConnectedPoint} (n : Nat) (harg : KeyPolicy.namesPeer.Arg peer conn.getRemoteAddress) :
    (b.injectConnectionEstablished now peer conn n).HandlersNamePeer :=
  (h.addAddress now _ (namesPeer_arg_remote harg b.settings.localPeerId)).of_eq
    (injectConnectionEstablished_queues b now peer conn n).1
    (injectConnectionEstablished_queues b now peer conn n).2

theorem HandlersNamePeer.injectAddressChange (h : b.HandlersNamePeer) {peer : PeerId}
    (old : ConnectedPoint) {new : ConnectedPoint}
    (harg : KeyPolicy.namesPeer.Arg peer new.getRemoteAddress) :
    (b.injectAddressChange now peer old new).HandlersNamePeer :=
  (h.addAddress now _ (namesPeer_arg_remote harg b.settings.localPeerId)).of_eq
    (injectAddressChange_queues b now peer old new).1 (injectAddressChange_queues b now peer old new).2

/-- A failed dial defers redials of the validated address, which name the peer booked, and of
the reported addresses, which must not name another peer. -/
theorem HandlersNamePeer.injectDialFailure (h : b.HandlersNamePeer) {peerId : Option PeerId}
    {handler : IntoAddressHandler} {error : DialError} (rand : Nat → UInt32)
    (harg : ∀ q, handler.peerId.or peerId = some q →
      ∀ ae ∈ error.transportErrors, KeyPolicy.namesPeer.Arg q ae.1) :
    (b.injectDialFailure now peerId handler error rand).HandlersNamePeer := by
  refine h.of_queues (fun a ha => .inl ?_) (fun d hd => ?_)
  · rwa [injectDialFailure_actions] at ha
  · rcases mem_injectDialFailure_deferred b now peerId handler error rand hd with
      hd | ⟨q, hq, ⟨addr, retries, hown, hd⟩ | ⟨ae, hae, hd⟩⟩
    · exact .inl hd
    · rw [hd]
      exact .inr (NetworkBehaviourAction.namesPeer_redial hq hown _ _ _ _)
    · rw [hd]
      exact .inr (KeyPolicy.namesPeer_arg_peerId (harg q hq ae hae))

/-- The dials `set_info` queues are of its candidates, which name the peer when every key
does. -/
theorem HandlersNamePeer.setInfo (h : b.HandlersNamePeer)
    (hk : KeysSatisfy KeyPolicy.namesPeer.Holds b) {peer : PeerId} {identify : IdentifyInfo}
    (harg : ∀ l ∈ identify.listenAddrs, KeyPolicy.namesPeer.Arg peer l)
    (he : b.setInfo now peer identify = some b') : b'.HandlersNamePeer := by
  rcases setInfo_eq_some he with ⟨-, rfl⟩ | ⟨info, ts, hl, ht, rfl⟩
  · exact h
  · have hcand := hk.setInfo_candidates (fun l hl => KeyPolicy.namesPeer.normalize _ _ (harg l hl))
      (KeyPolicy.namesPeer.translate peer) hl ht
    refine h.of_queues (fun a ha => ?_) (fun d hd => .inl hd)
    have ha : a ∈ (ingestCandidates b now peer (withIdentify info identify) ts).2 := ha
    rcases mem_foldl_setInfoIngest_actions _ _ _ _ _ _ ha with ha | ⟨addr, haddr, rfl⟩
    · exact .inl ha
    · exact .inr (Or.inr (hcand addr haddr))

end Calls

end AddressBook

open AddressBook in
/-- **Every call keeps the dial handlers naming their peers**, in a book whose keys name their
peers, given admissible arguments. -/
theorem BookOp.exec_handlersNamePeer {b b' : AddressBook} {now : DateTime} {op : BookOp}
    (hk : KeysSatisfy KeyPolicy.namesPeer.Holds b) (h : b.HandlersNamePeer)
    (hop : op.ArgsOk KeyPolicy.namesPeer.Arg) (he : op.exec b now = some b') :
    b'.HandlersNamePeer := by
  cases op with
  | addAddress peer address source =>
    cases he
    exact h.addAddress now source hop
  | removeAddress peer address =>
    cases he
    exact h.of_eq (removeAddress_queues b peer address).1 (removeAddress_queues b peer address).2
  | dial peer =>
    cases he
    exact h.dial peer
  | dialAddress peer addr =>
    cases he
    exact h.dialAddress hop
  | prunePeers minAge =>
    cases he
    exact h.of_eq (prunePeers_queues b now minAge).1 (prunePeers_queues b now minAge).2
  | setRtt peer rtt =>
    cases he
    exact h.of_eq (setRtt_queues b peer rtt).1 (setRtt_queues b peer rtt).2
  | setInfo peer identify =>
    exact h.setInfo now hk hop he
  | connectionClosed peer conn n error =>
    cases he
    exact h.of_eq (connectionClosed_queues b now peer conn n error).1
      (connectionClosed_queues b now peer conn n error).2
  | injectConnectionEstablished peer conn n =>
    cases he
    exact h.injectConnectionEstablished now n hop
  | injectAddressChange peer old new =>
    cases he
    exact h.injectAddressChange now old hop
  | injectDialFailure peerId handler error rand =>
    cases he
    exact h.injectDialFailure now rand hop
  | injectNewListenAddr id addr =>
    cases he
    exact h.of_eq rfl rfl
  | injectExpiredListenAddr id addr =>
    cases he
    exact h.of_eq rfl rfl
  | poll =>
    cases he
    -- `poll` only takes the front of the queue
    exact h.of_queues (fun _ ha => .inl (List.mem_of_mem_drop ha)) (fun _ hd => .inl hd)

/-! ## Every run -/

/-- The states a book reaches from `AddressBook::new`, with any settings, under calls whose
address arguments satisfy `Arg`. -/
def BookReachableUnder (Arg : PeerId → Multiaddr → Prop) (b : AddressBook) : Prop :=
  ∃ settings : Settings,
    Reach.Reachable (bookStep fun _ call => call.2.ArgsOk Arg)
      (AddressBook.new settings.localPeerId settings.portReuse settings.enableLoopback
        settings.keepAlive) b

/-- Any run is a run under arguments that are all admissible. -/
theorem BookReachable.under {b : AddressBook} (h : BookReachable b) :
    BookReachableUnder (fun _ _ => True) b := by
  obtain ⟨settings, hr⟩ := h
  exact ⟨settings, hr.mono (Reach.stepOf_mono fun _ call _ => call.2.argsOk_true)⟩

/-- The policy's property holds on every key of every book reached under admissible
arguments. -/
theorem reachable_keysSatisfy (pol : KeyPolicy) {b : AddressBook}
    (hb : BookReachableUnder pol.Arg b) : AddressBook.KeysSatisfy pol.Holds b := by
  obtain ⟨settings, hr⟩ := hb
  refine Reach.Reachable.invariant (AddressBook.keysSatisfy_new _ _ _ _) ?_ hr
  rintro s s' hs ⟨⟨now, op⟩, hop, he⟩
  exact BookOp.exec_keysSatisfy pol hs hop he

/-- Under arguments that name no other peer, the dial handlers name their peers in every
reachable book; the keys naming their peers is the auxiliary invariant `set_info` needs. -/
theorem reachable_handlersNamePeer {b : AddressBook}
    (hb : BookReachableUnder KeyPolicy.namesPeer.Arg b) : b.HandlersNamePeer := by
  obtain ⟨settings, hr⟩ := hb
  refine Reach.Reachable.invariant_of_aux
    (fun s hs => reachable_keysSatisfy KeyPolicy.namesPeer ⟨settings, hs⟩)
    (AddressBook.handlersNamePeer_new _ _ _ _) ?_ hr
  rintro s s' hk hs ⟨⟨now, op⟩, hop, he⟩
  exact BookOp.exec_handlersNamePeer hk hs hop he

/-- `add_address(1, /ip4/1.2.3.4/tcp/4001/p2p/2)`, from a Kademlia record, files the address as it
is under peer 1, and queues a validation dial of peer 1 whose handler names peer 2. -/
theorem addAddress_files_foreign_key :
    BookReachable ((AddressBook.new ⟨0⟩ false false false).addAddress 0 ⟨1⟩
      ⟨[.ip4 ⟨1, 2, 3, 4⟩, .tcp 4001, .p2p (.peer ⟨2⟩)]⟩ .kad) ∧
    ¬ AddressBook.KeysSatisfy (fun p a => a.peerId = some p)
      ((AddressBook.new ⟨0⟩ false false false).addAddress 0 ⟨1⟩
        ⟨[.ip4 ⟨1, 2, 3, 4⟩, .tcp 4001, .p2p (.peer ⟨2⟩)]⟩ .kad) ∧
    ¬ ((AddressBook.new ⟨0⟩ false false false).addAddress 0 ⟨1⟩
        ⟨[.ip4 ⟨1, 2, 3, 4⟩, .tcp 4001, .p2p (.peer ⟨2⟩)]⟩ .kad).HandlersNamePeer := by
  refine ⟨⟨⟨false, false, false, ⟨0⟩⟩, Reach.Reachable.tail Reach.Reachable.refl
    ⟨(0, .addAddress ⟨1⟩ ⟨[.ip4 ⟨1, 2, 3, 4⟩, .tcp 4001, .p2p (.peer ⟨2⟩)]⟩ .kad), trivial, rfl⟩⟩,
    fun h => ?_, fun h => ?_⟩
  · -- the one key of peer 1 names peer 2
    have hkey := (h ⟨1⟩ _ rfl).1 ⟨[.ip4 ⟨1, 2, 3, 4⟩, .tcp 4001, .p2p (.peer ⟨2⟩)]⟩ (by decide)
    exact absurd hkey (by decide)
  · -- the handler of the queued dial of peer 1 names peer 2
    have hdial := h.1 (.dial ⟨⟨1⟩, .always, [⟨[.ip4 ⟨1, 2, 3, 4⟩, .tcp 4001]⟩]⟩
      ⟨some (⟨[.ip4 ⟨1, 2, 3, 4⟩, .tcp 4001, .p2p (.peer ⟨2⟩)]⟩, simOpenRetries + 1), false⟩) (by decide)
    exact absurd hdial (by decide)

/-- A `/p2p` component whose multihash is no peer id names no peer, yet `normalize_addr_ref`
keeps it: `add_address` files the address as it is under peer 1, as a key that names no peer.
So an admissible argument is one that does not end in `/p2p` at all, not one that names no
peer. -/
example :
    (⟨[.ip4 ⟨1, 2, 3, 4⟩, .tcp 4001, .p2p (.other 7)]⟩ : Multiaddr).peerId = none ∧
      (((AddressBook.new ⟨0⟩ false false false).addAddress 0 ⟨1⟩
          ⟨[.ip4 ⟨1, 2, 3, 4⟩, .tcp 4001, .p2p (.other 7)]⟩ .kad).peers.lookup ⟨1⟩).map
        (fun info => info.addresses.keys) =
        some [⟨[.ip4 ⟨1, 2, 3, 4⟩, .tcp 4001, .p2p (.other 7)]⟩] := by
  decide

open AddressBook in
/-- **Normalization.**  Every key of every reachable book ends in `/p2p`, and so does every
address `set_info` hands to `ingest_address` (`add_address` normalizes its own).  In runs whose
address arguments end in no `/p2p` component or in `/p2p/p` for their call's peer `p`, every key
of `p` names `p`, and every queued or deferred dial's handler names no peer other than the one
dialled. -/
theorem normalization_invariant :
    (∀ b, BookReachable b →
      AddressBook.KeysSatisfy (fun _ a => a.endsWithP2p = true) b ∧
      ∀ peer identify info ts, b.peers.lookup peer = some info →
        translations (withIdentify info identify) (listenPort (withIdentify info identify) peer) =
          some ts →
        ∀ a ∈ candidates b.settings.enableLoopback (withIdentify info identify) peer ts,
          a.endsWithP2p = true) ∧
    ∀ b, BookReachableUnder (fun p a => a.endsWithP2p = false ∨ a.peerId = some p) b →
      AddressBook.KeysSatisfy (fun p a => a.peerId = some p) b ∧ b.HandlersNamePeer := by
  refine ⟨fun b hb => ?_, fun b hb =>
    ⟨reachable_keysSatisfy KeyPolicy.namesPeer hb, reachable_handlersNamePeer hb⟩⟩
  have hk : AddressBook.KeysSatisfy KeyPolicy.endsInP2p.Holds b :=
    reachable_keysSatisfy KeyPolicy.endsInP2p hb.under
  refine ⟨hk, fun peer identify info ts hl ht => ?_⟩
  -- listen addresses are normalized, and translations keep the last component
  exact hk.setInfo_candidates (fun l _ => normalizeAddrRef_endsWithP2p l peer)
    (KeyPolicy.endsInP2p.translate peer) hl ht

theorem normalization_invariant_addAddress :
    (BookReachable ((AddressBook.new ⟨0⟩ false false false).addAddress 0 ⟨1⟩
        ⟨[.ip4 ⟨1, 2, 3, 4⟩, .tcp 4001]⟩ .kad) ∧
      AddressBook.KeysSatisfy (fun _ a => a.endsWithP2p = true)
        ((AddressBook.new ⟨0⟩ false false false).addAddress 0 ⟨1⟩
          ⟨[.ip4 ⟨1, 2, 3, 4⟩, .tcp 4001]⟩ .kad)) ∧
    BookReachableUnder (fun p a => a.endsWithP2p = false ∨ a.peerId = some p)
        ((AddressBook.new ⟨0⟩ false false false).addAddress 0 ⟨1⟩
          ⟨[.ip4 ⟨1, 2, 3, 4⟩, .tcp 4001]⟩ .kad) ∧
      AddressBook.KeysSatisfy (fun p a => a.peerId = some p)
        ((AddressBook.new ⟨0⟩ false false false).addAddress 0 ⟨1⟩
          ⟨[.ip4 ⟨1, 2, 3, 4⟩, .tcp 4001]⟩ .kad) ∧
      ((AddressBook.new ⟨0⟩ false false false).addAddress 0 ⟨1⟩
          ⟨[.ip4 ⟨1, 2, 3, 4⟩, .tcp 4001]⟩ .kad).HandlersNamePeer :=
  have hA : BookReachable ((AddressBook.new ⟨0⟩ false false false).addAddress 0 ⟨1⟩
      ⟨[.ip4 ⟨1, 2, 3, 4⟩, .tcp 4001]⟩ .kad) :=
    ⟨⟨false, false, false, ⟨0⟩⟩, Reach.Reachable.tail Reach.Reachable.refl
      ⟨(0, .addAddress ⟨1⟩ ⟨[.ip4 ⟨1, 2, 3, 4⟩, .tcp 4001]⟩ .kad), trivial, rfl⟩⟩
  have hB : BookReachableUnder (fun p a => a.endsWithP2p = false ∨ a.peerId = some p)
      ((AddressBook.new ⟨0⟩ false false false).addAddress 0 ⟨1⟩
        ⟨[.ip4 ⟨1, 2, 3, 4⟩, .tcp 4001]⟩ .kad) :=
    ⟨⟨false, false, false, ⟨0⟩⟩, Reach.Reachable.tail Reach.Reachable.refl
      ⟨(0, .addAddress ⟨1⟩ ⟨[.ip4 ⟨1, 2, 3, 4⟩, .tcp 4001]⟩ .kad), .inl rfl, rfl⟩⟩
  ⟨⟨hA, (normalization_invariant.1 _ hA).1⟩, hB, normalization_invariant.2 _ hB⟩

end IpfsEmbed
