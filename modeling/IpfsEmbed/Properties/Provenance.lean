import IpfsEmbed.Properties.Events
import IpfsEmbed.Properties.Sources

/-!
# Where the book's own sources come from

Of the sources of an address, three are given by the book itself from what a connection
shows: `Dial` to the remote address of a connection we dialled, `Incoming` to that of a
connection a peer made to us, and `Candidate` to an advertised listen address the peer is
connected on (`set_info` with port reuse).  The others come from outside the book: `User`
from the node's commands, `Mdns` from mDNS, `Kad` from Kademlia, `Listen` from Identify.

The result of this module is that every address with one of the book's own sources, and
every connection key, is the remote address of a connection that the book's event log shows
(`ConnectionEstablished` or `AddressChanged`), and a `Dial` or `Incoming` address one in the
right direction.  It holds in every run in which `add_address` is not
called from outside with one of these sources, as the node never does.

The proof follows where keys and sources come from.  `KeysFrom S K` relates two states of a
record, or of the book: every address keeps the source it had or gets one that `S` allows,
and every connection key is an old one or one that `K` allows.  Each call is `KeysFrom` with
the keys and sources it writes, and a call that writes an own source or a connection key
sends the event that shows the connection (`BookOp.exec_shown`).
-/

namespace IpfsEmbed

/-- The sources the book gives an address itself, from what a connection shows. -/
def AddressSource.isFromConnection : AddressSource → Bool
  | .dial | .incoming | .candidate => true
  | _ => false

/-- `src` in `inject_connection_established` and `inject_address_change`. -/
def AddressSource.ofEndpoint (cp : ConnectedPoint) : AddressSource :=
  if cp.isDialer then .dial else .incoming

/-- A source that the connection `cp` bears out: the one its direction gives, or `Candidate`,
which says only that the peer is connected there. -/
def AddressSource.BorneOut (s : AddressSource) (cp : ConnectedPoint) : Prop :=
  s = AddressSource.ofEndpoint cp ∨ s = .candidate

/-- The event shows a connection to `p` with endpoint `cp`. -/
def Event.Shows (p : PeerId) (cp : ConnectedPoint) : Event → Prop
  | .connectionEstablished q c => q = p ∧ c = cp
  | .addressChanged q _ c => q = p ∧ c = cp
  | _ => False

/-- The events `es` show a connection to `p` whose remote address is `a` and whose endpoint
satisfies `P`. -/
def ShowsConnection (es : List Event) (p : PeerId) (a : Multiaddr) (P : ConnectedPoint → Prop) :
    Prop :=
  ∃ cp, cp.getRemoteAddress = a ∧ P cp ∧ ∃ e ∈ es, e.Shows p cp

theorem ShowsConnection.append_right {es : List Event} {p : PeerId} {a : Multiaddr}
    {P : ConnectedPoint → Prop} (h : ShowsConnection es p a P) (new : List Event) :
    ShowsConnection (es ++ new) p a P := by
  obtain ⟨cp, ha, hp, e, he, hs⟩ := h
  exact ⟨cp, ha, hp, e, List.mem_append_left new he, hs⟩

theorem ShowsConnection.mono {es : List Event} {p : PeerId} {a : Multiaddr}
    {P Q : ConnectedPoint → Prop} (h : ShowsConnection es p a P) (hPQ : ∀ cp, P cp → Q cp) :
    ShowsConnection es p a Q := by
  obtain ⟨cp, ha, hp, he⟩ := h
  exact ⟨cp, ha, hPQ cp hp, he⟩

/-! ## Where the keys of a record come from -/

namespace PeerInfo

/-- Every address of `info'` has the source it has in `info`, or one that `S` allows for it;
every connection key of `info'` is one of `info` or one that `K` allows. -/
structure KeysFrom (S : Multiaddr → AddressSource → Prop) (K : Multiaddr → Prop)
    (info info' : PeerInfo) : Prop where
  addresses : ∀ a s t', info'.addresses.lookup a = some (s, t') →
    (∃ t, info.addresses.lookup a = some (s, t)) ∨ S a s
  connections : ∀ a ∈ info'.connections, a ∈ info.connections ∨ K a

namespace KeysFrom

variable {S S' : Multiaddr → AddressSource → Prop} {K K' : Multiaddr → Prop}
  {info info' info'' : PeerInfo}

theorem refl (info : PeerInfo) : info.KeysFrom S K info :=
  ⟨fun _ _ t' h => .inl ⟨t', h⟩, fun _ h => .inl h⟩

theorem trans (h₁ : info.KeysFrom S K info') (h₂ : info'.KeysFrom S' K' info'') :
    info.KeysFrom (fun a s => S a s ∨ S' a s) (fun a => K a ∨ K' a) info'' := by
  refine ⟨fun a s t'' ha => ?_, fun a ha => ?_⟩
  · rcases h₂.addresses a s t'' ha with ⟨t', ha'⟩ | hs
    · exact (h₁.addresses a s t' ha').imp_right .inl
    · exact .inr (.inr hs)
  · rcases h₂.connections a ha with ha' | hk
    · exact (h₁.connections a ha').imp_right .inl
    · exact .inr (.inr hk)

theorem mono (h : info.KeysFrom S K info') (hS : ∀ a s, S a s → S' a s) (hK : ∀ a, K a → K' a) :
    info.KeysFrom S' K' info' :=
  ⟨fun a s t' ha => (h.addresses a s t' ha).imp_right (hS a s),
    fun a ha => (h.connections a ha).imp_right (hK a)⟩

/-- A record that only lost addresses and connection keys. -/
theorem of_subset (ha : ∀ a s t', info'.addresses.lookup a = some (s, t') →
      info.addresses.lookup a = some (s, t'))
    (hc : ∀ a ∈ info'.connections, a ∈ info.connections) : info.KeysFrom S K info' :=
  ⟨fun a s t' h => .inl ⟨t', ha a s t' h⟩, fun a h => .inl (hc a h)⟩

theorem of_eq (ha : info'.addresses = info.addresses) (hc : info'.connections = info.connections) :
    info.KeysFrom S K info' :=
  of_subset (fun _ _ _ h => ha ▸ h) (fun _ h => hc ▸ h)

/-- `ingest_address` writes one address, under the source it ingests or the one it had. -/
theorem ingestAddress (info : PeerInfo) (now : DateTime) (addr : Multiaddr)
    (source : AddressSource) :
    info.KeysFrom (fun a s => a = addr ∧ s = source) (fun _ => False)
      (info.ingestAddress now addr source).1 := by
  rw [ingestAddress_eq]
  refine ⟨fun a s t' ha => ?_, fun a ha => .inl ha⟩
  by_cases hx : a = addr
  · subst hx
    rw [AList.lookup_insert, Option.some.injEq, Prod.mk.injEq] at ha
    rw [← ha.1]
    -- the source written is the larger of the old one and the one ingested
    cases hold : info.addresses.lookup a with
    | none => exact .inr ⟨rfl, rfl⟩
    | some v =>
      rcases max_choice v.1 source with hm | hm
      · exact .inl ⟨v.2, by simp [ingestedSource, hm]⟩
      · exact .inr ⟨rfl, by simp [ingestedSource, hm]⟩
  · rw [AList.lookup_insert_ne hx] at ha
    exact .inl ⟨t', ha⟩

theorem pushFailure (info : PeerInfo) (addr : Multiaddr) (f : ConnectionFailure)
    (probeResult : Bool) : info.KeysFrom S K (info.pushFailure addr f probeResult) := by
  refine of_subset (fun a s t' ha => ?_) (fun a ha => ha)
  rcases pushFailure_shrinks info addr f probeResult a with h | h <;> rw [h] at ha
  · exact ha
  · cases ha

theorem eraseAddress (info : PeerInfo) (addr : Multiaddr) :
    info.KeysFrom S K { info with addresses := info.addresses.erase addr } := by
  refine of_subset (fun a s t' ha => ?_) (fun a ha => ha)
  rcases erase_shrinks info addr a with h | h <;> rw [h] at ha
  · exact ha
  · cases ha

/-- What comes from the empty record comes from any record. -/
theorem of_default (h : (default : PeerInfo).KeysFrom S K info') (info : PeerInfo) :
    info.KeysFrom S K info' := by
  refine ⟨fun a s t' ha => .inr ?_, fun a ha => .inr ?_⟩
  · rcases h.addresses a s t' ha with ⟨t, ht⟩ | hs
    · cases ht
    · exact hs
  · rcases h.connections a ha with ha | hk
    · exact absurd ha (AList.notMem_empty a)
    · exact hk

/-- A connection key written with the connection's remote address. -/
theorem insertConnection (info : PeerInfo) (a : Multiaddr) (v : DateTime × Direction) :
    info.KeysFrom S (· = a) { info with connections := info.connections.insert a v } := by
  refine ⟨fun x s t' hx => .inl ⟨t', hx⟩, fun x hx => ?_⟩
  rcases (AList.mem_insert _).1 hx with rfl | hx
  · exact .inr rfl
  · exact .inl hx

theorem eraseConnection (info : PeerInfo) (a : Multiaddr) :
    info.KeysFrom S K { info with connections := info.connections.erase a } :=
  of_subset (fun _ _ _ h => h) (fun _ hx => (AList.mem_erase.1 hx).2)

/-- One candidate of `set_info`: ingested at `Listen`, and raised to `Candidate` only where
the peer is connected. -/
theorem setInfoIngest (listeners : Finset Multiaddr) (portReuse : Bool) (peer : PeerId)
    (now : DateTime) (acc : PeerInfo × List NetworkBehaviourAction) (addr : Multiaddr) :
    acc.1.KeysFrom (fun a s => a = addr ∧ (s = .listen ∨ s = .candidate ∧ a ∈ acc.1.connections))
      (fun _ => False) (AddressBook.setInfoIngest listeners portReuse peer now acc addr).1 := by
  have hlisten := ingestAddress acc.1 now addr .listen
  unfold AddressBook.setInfoIngest
  dsimp only
  split_ifs with htcp hr hc
  · exact .refl _
  · -- raised to `Candidate`: the address is a connection key, which ingesting keeps
    have hconn : addr ∈ acc.1.connections := by
      simp only [Bool.and_eq_true, decide_eq_true_eq] at hc
      simpa [ingestAddress_eq] using hc.2
    exact (hlisten.trans (ingestAddress _ now addr .candidate)).mono
      (fun a s h => h.elim (fun h => ⟨h.1, .inl h.2⟩) fun h => ⟨h.1, .inr ⟨h.2, h.1 ▸ hconn⟩⟩)
      (fun _ h => h.elim id id)
  · exact hlisten.mono (fun _ _ h => ⟨h.1, .inl h.2⟩) (fun _ h => h)
  · exact hlisten.mono (fun _ _ h => ⟨h.1, .inl h.2⟩) (fun _ h => h)

/-- The loop of `set_info` writes only the candidates it runs over. -/
theorem foldl_setInfoIngest (listeners : Finset Multiaddr) (portReuse : Bool) (peer : PeerId)
    (now : DateTime) (l : List Multiaddr) (acc : PeerInfo × List NetworkBehaviourAction) :
    acc.1.KeysFrom (fun a s => a ∈ l ∧ (s = .listen ∨ s = .candidate ∧ a ∈ acc.1.connections))
      (fun _ => False) (l.foldl (AddressBook.setInfoIngest listeners portReuse peer now) acc).1 := by
  induction l generalizing acc with
  | nil => exact .refl _
  | cons addr l ih =>
    rw [List.foldl_cons]
    have h₂ := ih (AddressBook.setInfoIngest listeners portReuse peer now acc addr)
    -- the loop never changes the connections its test reads
    rw [AddressBook.setInfoIngest_connections] at h₂
    exact ((setInfoIngest listeners portReuse peer now acc addr).trans h₂).mono
      (fun _ _ h => h.elim (fun h => ⟨h.1 ▸ List.mem_cons_self, h.2⟩)
        fun h => ⟨List.mem_cons_of_mem addr h.1, h.2⟩)
      (fun _ h => h.elim id id)

end KeysFrom

end PeerInfo

/-! ## Where the keys of the book come from -/

namespace AddressBook

open PeerInfo

/-- `a` is one of the candidates `set_info` runs its last loop over for `peer`. -/
def IsSetInfoCandidate (b : AddressBook) (peer : PeerId) (identify : IdentifyInfo)
    (a : Multiaddr) : Prop :=
  ∃ info ts, b.peers.lookup peer = some info ∧
    translations (withIdentify info identify) (listenPort (withIdentify info identify) peer) =
      some ts ∧
    a ∈ candidates b.settings.enableLoopback (withIdentify info identify) peer ts

/-- Every record of `b'` is `KeysFrom` the record its peer has in `b`, or a new empty one. -/
def KeysFrom (S : PeerId → Multiaddr → AddressSource → Prop) (K : PeerId → Multiaddr → Prop)
    (b b' : AddressBook) : Prop :=
  ∀ p info', b'.peers.lookup p = some info' → (b.entry p).KeysFrom (S p) (K p) info'

namespace KeysFrom

variable {S S' : PeerId → Multiaddr → AddressSource → Prop} {K K' : PeerId → Multiaddr → Prop}
  {b b' b'' : AddressBook}

theorem of_peers_eq (h : b'.peers = b.peers) : b.KeysFrom S K b' := by
  intro p info' hp
  rw [entry_of_lookup b (h ▸ hp)]
  exact .refl info'

theorem trans (h₁ : b.KeysFrom S K b') (h₂ : b'.KeysFrom S' K' b'') :
    b.KeysFrom (fun p a s => S p a s ∨ S' p a s) (fun p a => K p a ∨ K' p a) b'' := by
  intro p info'' hp
  cases hp' : b'.peers.lookup p with
  | none =>
    -- a record new in `b''` comes from the empty record, and so from any record
    have h₂' := h₂ p info'' hp
    rw [show b'.entry p = default by simp [entry, hp']] at h₂'
    exact (h₂'.of_default (b.entry p)).mono (fun _ _ => .inr) (fun _ => .inr)
  | some info' =>
    have h₁' := h₁ p info' hp'
    have h₂' := h₂ p info'' hp
    rw [entry_of_lookup b' hp'] at h₂'
    exact h₁'.trans h₂'

theorem mono (h : b.KeysFrom S K b') (hS : ∀ p a s, S p a s → S' p a s)
    (hK : ∀ p a, K p a → K' p a) : b.KeysFrom S' K' b' :=
  fun p info' hp => (h p info' hp).mono (hS p) (hK p)

/-- A call that writes the record of one peer. -/
theorem of_peers_insert {peer : PeerId} {info : PeerInfo} (hpeers : b'.peers = b.peers.insert peer info)
    (h : (b.entry peer).KeysFrom (S peer) (K peer) info) : b.KeysFrom S K b' := by
  intro p info' hp
  rw [hpeers, AList.lookup_insert_eq_ite] at hp
  split_ifs at hp with hq
  · subst hq
    cases hp
    exact h
  · rw [entry_of_lookup b hp]
    exact .refl info'

section Calls

variable (b) (now : DateTime)

/-- `add_address` files the normalized address under the source it is given. -/
theorem addAddress (peer : PeerId) (address : Multiaddr) (source : AddressSource) :
    b.KeysFrom (fun q a s => q = peer ∧ b.acceptsAddress peer address = true ∧
        a = normalizeAddrRef address peer ∧ s = source)
      (fun _ _ => False) (b.addAddress now peer address source) := by
  cases h : b.acceptsAddress peer address
  · rw [addAddress_of_not_accepts b h]
    exact of_peers_eq rfl
  · refine of_peers_insert (by rw [addAddress_peers, if_pos h]) ?_
    exact (PeerInfo.KeysFrom.ingestAddress _ now _ source).mono
      (fun a s h => ⟨rfl, rfl, h⟩) (fun _ h => h)

theorem removeAddress (peer : PeerId) (address : Multiaddr) :
    b.KeysFrom S K (b.removeAddress peer address) := by
  intro p info' hp
  rw [removeAddress_lookup] at hp
  split_ifs at hp with hq
  · subst hq
    obtain ⟨info, hl, rfl⟩ := Option.map_eq_some_iff.1 hp
    rw [entry_of_lookup b hl]
    exact .eraseAddress info _
  · rw [entry_of_lookup b hp]
    exact .refl info'

theorem dialAddress (peer : PeerId) (addr : Multiaddr) :
    b.KeysFrom S K (b.dialAddress peer addr) := by
  by_cases hl : peer = b.settings.localPeerId
  · exact of_peers_eq (by rw [dialAddress_peers, if_pos hl])
  · exact of_peers_insert (by rw [dialAddress_peers, if_neg hl]) (.refl _)

theorem prunePeers (minAge : Duration) : b.KeysFrom S K (b.prunePeers now minAge) := by
  intro p info' hp
  rw [prunePeers_lookup] at hp
  rw [entry_of_lookup b (Option.eq_some_of_filter_eq_some hp)]
  exact .refl info'

theorem setRtt (peer : PeerId) (rtt : Option Duration) : b.KeysFrom S K (b.setRtt peer rtt) := by
  intro p info' hp
  rw [setRtt_lookup] at hp
  split_ifs at hp with hq
  · subst hq
    obtain ⟨info, hl, rfl⟩ := Option.map_eq_some_iff.1 hp
    rw [entry_of_lookup b hl]
    exact .of_eq (setRtt_addresses info rtt) (setRtt_connections info rtt)
  · rw [entry_of_lookup b hp]
    exact .refl info'

/-- `connection_closed` takes the connection's key out and books a failure that removes no
address. -/
theorem connectionClosed (peer : PeerId) (conn : ConnectedPoint) (n : Nat)
    (error : Option ConnectionError) : b.KeysFrom S K (b.connectionClosed now peer conn n error) :=
  of_peers_insert (connectionClosed_peers b now peer conn n error)
    (((PeerInfo.KeysFrom.eraseConnection _ _).trans (PeerInfo.KeysFrom.pushFailure _ _ _ _)).mono
      (fun _ _ h => h.elim id id) (fun _ h => h.elim id id))

/-- `set_info` files candidates only, at `Listen`, and at `Candidate` those the peer is
connected on. -/
theorem setInfo {b' : AddressBook} {peer : PeerId} {identify : IdentifyInfo}
    (he : b.setInfo now peer identify = some b') :
    b.KeysFrom (fun q a s => q = peer ∧ b.IsSetInfoCandidate peer identify a ∧
        (s = .listen ∨ s = .candidate ∧ a ∈ (b.entry peer).connections))
      (fun _ _ => False) b' := by
  rcases setInfo_eq_some he with ⟨-, rfl⟩ | ⟨info, ts, hl, ht, rfl⟩
  · exact of_peers_eq rfl
  refine of_peers_insert rfl ?_
  rw [entry_of_lookup b hl]
  -- the purge only removes addresses, and keeps the connections the loop reads
  have hpurge : info.KeysFrom (fun _ _ => False) (fun _ => False)
      (purgeIncoming (withIdentify info identify)) := by
    refine .of_subset (fun a s t' ha => ?_) (fun a ha => ha)
    rw [purgeIncoming_lookup] at ha
    exact Option.eq_some_of_filter_eq_some ha
  have hloop := PeerInfo.KeysFrom.foldl_setInfoIngest b.listeners b.settings.portReuse peer now
    (candidates b.settings.enableLoopback (withIdentify info identify) peer ts)
    (purgeIncoming (withIdentify info identify), b.actions)
  exact (hpurge.trans hloop).mono
    (fun _ _ h => h.elim False.elim fun h => ⟨rfl, ⟨info, ts, hl, ht, h.1⟩, h.2⟩)
    (fun _ h => h.elim id id)

/-- `inject_connection_established` files the connection's remote address under the source
its direction gives, and writes it as a connection key. -/
theorem injectConnectionEstablished (peer : PeerId) (conn : ConnectedPoint) (n : Nat) :
    b.KeysFrom
      (fun q a s => q = peer ∧
        b.acceptsAddress peer (normalizeConnectedPoint conn b.settings.localPeerId peer).getRemoteAddress ∧
        a = (normalizeConnectedPoint conn b.settings.localPeerId peer).getRemoteAddress ∧
        s = .ofEndpoint (normalizeConnectedPoint conn b.settings.localPeerId peer))
      (fun q a => q = peer ∧ a = (normalizeConnectedPoint conn b.settings.localPeerId peer).getRemoteAddress)
      (b.injectConnectionEstablished now peer conn n) := by
  have h₁ := addAddress b now peer
    (normalizeConnectedPoint conn b.settings.localPeerId peer).getRemoteAddress
    (.ofEndpoint (normalizeConnectedPoint conn b.settings.localPeerId peer))
  have h₂ := of_peers_insert (S := fun _ _ _ => False)
    (K := fun q a => q = peer ∧ a = (normalizeConnectedPoint conn b.settings.localPeerId peer).getRemoteAddress)
    (injectConnectionEstablished_peers b now peer conn n)
    ((PeerInfo.KeysFrom.insertConnection _ _ _).mono (fun _ _ h => h) fun _ h => ⟨rfl, h⟩)
  -- the address `add_address` files is the remote address, normalized once
  exact (h₁.trans h₂).mono (fun _ _ _ h => h.elim (fun h => ⟨h.1, h.2.1, by simp [h.2.2.1], h.2.2.2⟩) False.elim)
    (fun _ _ h => h.elim False.elim id)

/-- `inject_address_change` files the new remote address under the source its direction
gives, and moves the connection key to it. -/
theorem injectAddressChange (peer : PeerId) (old new : ConnectedPoint) :
    b.KeysFrom
      (fun q a s => q = peer ∧
        b.acceptsAddress peer (normalizeConnectedPoint new b.settings.localPeerId peer).getRemoteAddress ∧
        a = (normalizeConnectedPoint new b.settings.localPeerId peer).getRemoteAddress ∧
        s = .ofEndpoint (normalizeConnectedPoint new b.settings.localPeerId peer))
      (fun q a => q = peer ∧ a = (normalizeConnectedPoint new b.settings.localPeerId peer).getRemoteAddress)
      (b.injectAddressChange now peer old new) := by
  have h₁ := addAddress b now peer
    (normalizeConnectedPoint new b.settings.localPeerId peer).getRemoteAddress
    (.ofEndpoint (normalizeConnectedPoint new b.settings.localPeerId peer))
  have h₂ := of_peers_insert (S := fun _ _ _ => False)
    (K := fun q a => q = peer ∧ a = (normalizeConnectedPoint new b.settings.localPeerId peer).getRemoteAddress)
    (injectAddressChange_peers b now peer old new)
    (((PeerInfo.KeysFrom.eraseConnection _ _).trans (PeerInfo.KeysFrom.insertConnection _ _ _)).mono
      (fun _ _ h => h.elim id id) fun _ h => h.elim False.elim fun h => ⟨rfl, h⟩)
  exact (h₁.trans h₂).mono (fun _ _ _ h => h.elim (fun h => ⟨h.1, h.2.1, by simp [h.2.2.1], h.2.2.2⟩) False.elim)
    (fun _ _ h => h.elim False.elim id)

/-- A failed dial only removes addresses of the record it is booked against. -/
theorem injectDialFailure (peerId : Option PeerId) (handler : IntoAddressHandler) (error : DialError)
    (rand : Nat → UInt32) : b.KeysFrom S K (b.injectDialFailure now peerId handler error rand) := by
  intro p info' hp
  by_cases hq : handler.peerId.or peerId = some p
  · cases hl : b.peers.lookup p with
    | none =>
      rw [injectDialFailure_lookup_of_ne b now peerId handler error rand (.inr hl), hl] at hp
      cases hp
    | some info =>
      rw [injectDialFailure_lookup_self b now peerId handler error rand hq hl] at hp
      cases hp
      rw [entry_of_lookup b hl]
      -- the record keeps its connections and loses some addresses
      refine .of_subset (fun a s t' ha => ?_) (fun a ha => ?_)
      · rcases dialFailureRecord_removesOnly now p info handler error a with h | ⟨h, -⟩ <;>
          rw [h] at ha
        · exact ha
        · cases ha
      · rwa [(dialFailureRecord_keepsFields now p info handler error).2.2.2.2.1] at ha
  · rw [injectDialFailure_lookup_of_ne b now peerId handler error rand (.inl hq)] at hp
    rw [entry_of_lookup b hp]
    exact .refl info'

end Calls

end KeysFrom

end AddressBook

/-! ## Every run -/

/-- The calls of `add_address` from outside the book with a source the book gives itself. -/
def BookOp.usesConnectionSource : BookOp → Bool
  | .addAddress _ _ source => source.isFromConnection
  | _ => false

/-- The states a book reaches from `AddressBook::new`, with any settings, under calls that
satisfy `ok`. -/
def BookReachableWith (ok : BookOp → Prop) (b : AddressBook) : Prop :=
  ∃ settings : Settings,
    Reach.Reachable (bookStep fun _ call => ok call.2)
      (AddressBook.new settings.localPeerId settings.portReuse settings.enableLoopback
        settings.keepAlive) b

namespace AddressBook

/-- Every connection key, and every address with a source from a connection, is the remote
address of a connection the book's events show, one in the direction that a `Dial` or
`Incoming` source says. -/
structure Shown (b : AddressBook) : Prop where
  connections : ∀ p info a, b.peers.lookup p = some info → a ∈ info.connections →
    ShowsConnection b.events p a fun _ => True
  addresses : ∀ p info a s t, b.peers.lookup p = some info → info.addresses.lookup a = some (s, t) →
    s.isFromConnection = true → ShowsConnection b.events p a s.BorneOut

variable {S : PeerId → Multiaddr → AddressSource → Prop} {K : PeerId → Multiaddr → Prop}
  {b b' : AddressBook}

theorem shown_new (localPeerId : PeerId) (portReuse enableLoopback keepAlive : Bool) :
    (new localPeerId portReuse enableLoopback keepAlive).Shown where
  connections _ _ _ hp := nomatch hp
  addresses _ _ _ _ _ hp := nomatch hp

/-- A key of a peer's entry is a key of its record. -/
theorem mem_entry_connections {p : PeerId} {a : Multiaddr} (ha : a ∈ (b.entry p).connections) :
    ∃ info, b.peers.lookup p = some info ∧ a ∈ info.connections := by
  cases hl : b.peers.lookup p with
  | none =>
    rw [entry, hl] at ha
    exact absurd ha (AList.notMem_empty a)
  | some info => exact ⟨info, rfl, entry_of_lookup b hl ▸ ha⟩

theorem entry_addresses_lookup {p : PeerId} {a : Multiaddr} {v : AddressSource × DateTime}
    (ha : (b.entry p).addresses.lookup a = some v) :
    ∃ info, b.peers.lookup p = some info ∧ info.addresses.lookup a = some v := by
  cases hl : b.peers.lookup p with
  | none =>
    rw [entry, hl] at ha
    cases ha
  | some info => exact ⟨info, rfl, entry_of_lookup b hl ▸ ha⟩

/-- A call keeps the property when it only appends events and every key and source it writes
is shown by the events after it. -/
theorem Shown.of_keysFrom (h : b.Shown) (hk : b.KeysFrom S K b')
    (hev : ∃ new, b'.events = b.events ++ new)
    (hS : ∀ p a s, S p a s → s.isFromConnection = true → ShowsConnection b'.events p a s.BorneOut)
    (hK : ∀ p a, K p a → ShowsConnection b'.events p a fun _ => True) : b'.Shown := by
  obtain ⟨new, hnew⟩ := hev
  refine ⟨fun p info' a hp ha => ?_, fun p info' a s t' hp ha hs => ?_⟩
  · rcases (hk p info' hp).connections a ha with ha | hka
    · -- an old key, shown by the old events
      obtain ⟨info, hl, ha⟩ := mem_entry_connections ha
      rw [hnew]
      exact (h.connections p info a hl ha).append_right new
    · exact hK p a hka
  · rcases (hk p info' hp).addresses a s t' ha with ⟨t, ha⟩ | hsa
    · obtain ⟨info, hl, ha⟩ := entry_addresses_lookup ha
      rw [hnew]
      exact (h.addresses p info a s t hl ha hs).append_right new
    · exact hS p a s hsa hs

end AddressBook

open AddressBook

/-- The event `ConnectionEstablished` or `AddressChanged` a connection callback sends shows
the endpoint it files. -/
theorem showsConnection_of_mem {es : List Event} {e : Event} (he : e ∈ es) {p : PeerId}
    {cp : ConnectedPoint} (hs : e.Shows p cp) (P : ConnectedPoint → Prop) (hP : P cp) :
    ShowsConnection es p cp.getRemoteAddress P :=
  ⟨cp, rfl, hP, e, he, hs⟩

/-- **Every call keeps the keys and own sources shown**, unless it is an `add_address` from
outside with a source from a connection. -/
theorem BookOp.exec_shown {b b' : AddressBook} {now : DateTime} {op : BookOp} (h : b.Shown)
    (hop : op.usesConnectionSource = false) (he : op.exec b now = some b') : b'.Shown := by
  obtain ⟨new, hnew, -⟩ := (BookOp.sends he).events
  have hev : ∃ new, b'.events = b.events ++ new := ⟨new, hnew⟩
  -- the calls that write no key and no source of their own
  have hnone : b.KeysFrom (fun _ _ _ => False) (fun _ _ => False) b' → b'.Shown :=
    fun hk => h.of_keysFrom hk hev (fun _ _ _ hs => hs.elim) (fun _ _ hk => hk.elim)
  cases op with
  | addAddress peer address source =>
    cases he
    refine h.of_keysFrom (KeysFrom.addAddress b now peer address source) hev
      (fun _ _ s hs hown => ?_) (fun _ _ hk => hk.elim)
    -- the source is one from outside
    rw [hs.2.2.2] at hown
    exact absurd hown (by simpa [BookOp.usesConnectionSource] using hop)
  | removeAddress peer address =>
    cases he
    exact hnone (KeysFrom.removeAddress b peer address)
  | dial peer =>
    cases he
    exact hnone (KeysFrom.of_peers_eq (dial_peers b peer))
  | dialAddress peer addr =>
    cases he
    exact hnone (KeysFrom.dialAddress b peer addr)
  | prunePeers minAge =>
    cases he
    exact hnone (KeysFrom.prunePeers b now minAge)
  | setRtt peer rtt =>
    cases he
    exact hnone (KeysFrom.setRtt b peer rtt)
  | setInfo peer identify =>
    refine h.of_keysFrom (KeysFrom.setInfo b now he) hev (fun p a s hs hown => ?_)
      (fun _ _ hk => hk.elim)
    rcases hs with ⟨rfl, -, rfl | ⟨rfl, ha⟩⟩
    · cases hown
    · -- a `Candidate` address is a key of a connection the old events show
      obtain ⟨info, hl, ha⟩ := mem_entry_connections ha
      rw [hnew]
      exact ((h.connections p info a hl ha).mono fun _ _ => .inr rfl).append_right new
  | connectionClosed peer conn n error =>
    cases he
    exact hnone (KeysFrom.connectionClosed b now peer conn n error)
  | injectConnectionEstablished peer conn n =>
    cases he
    -- the callback sends `ConnectionEstablished` with the endpoint it files
    have hmem : Event.connectionEstablished peer
        (normalizeConnectedPoint conn b.settings.localPeerId peer) ∈
        (b.injectConnectionEstablished now peer conn n).events := by
      rw [injectConnectionEstablished_events]
      simp
    refine h.of_keysFrom (KeysFrom.injectConnectionEstablished b now peer conn n) hev
      (fun p a s hs _ => ?_) (fun p a hk => ?_)
    · obtain ⟨rfl, -, rfl, rfl⟩ := hs
      exact showsConnection_of_mem hmem ⟨rfl, rfl⟩ _ (.inl rfl)
    · obtain ⟨rfl, rfl⟩ := hk
      exact showsConnection_of_mem hmem ⟨rfl, rfl⟩ _ trivial
  | injectAddressChange peer old new =>
    cases he
    have hmem : Event.addressChanged peer (normalizeConnectedPoint old b.settings.localPeerId peer)
        (normalizeConnectedPoint new b.settings.localPeerId peer) ∈
        (b.injectAddressChange now peer old new).events := by
      rw [injectAddressChange_events]
      simp
    refine h.of_keysFrom (KeysFrom.injectAddressChange b now peer old new) hev
      (fun p a s hs _ => ?_) (fun p a hk => ?_)
    · obtain ⟨rfl, -, rfl, rfl⟩ := hs
      exact showsConnection_of_mem hmem ⟨rfl, rfl⟩ _ (.inl rfl)
    · obtain ⟨rfl, rfl⟩ := hk
      exact showsConnection_of_mem hmem ⟨rfl, rfl⟩ _ trivial
  | injectDialFailure peerId handler error rand =>
    cases he
    exact hnone (KeysFrom.injectDialFailure b now peerId handler error rand)
  | injectNewListenAddr | injectExpiredListenAddr | poll =>
    cases he
    exact hnone (KeysFrom.of_peers_eq rfl)

/-- **The book's own sources are borne out by its events.**  In every run of the book in which
`add_address` is never called from outside with `Dial`, `Incoming` or `Candidate`, every
connection key of a peer, and every address of a peer with one of these sources, is the remote
address of a connection to that peer that a `ConnectionEstablished` or `AddressChanged` event
in the log shows; for a `Dial` address the connection was one we dialled, for an `Incoming`
address one the peer made. -/
theorem own_sources_shown {b : AddressBook}
    (hb : BookReachableWith (fun op => op.usesConnectionSource = false) b) :
    (∀ p info a, b.peers.lookup p = some info → a ∈ info.connections →
      ∃ cp, cp.getRemoteAddress = a ∧ ∃ e ∈ b.events, e.Shows p cp) ∧
    ∀ p info a s t, b.peers.lookup p = some info → info.addresses.lookup a = some (s, t) →
      s.isFromConnection = true →
      ∃ cp, cp.getRemoteAddress = a ∧ s.BorneOut cp ∧ ∃ e ∈ b.events, e.Shows p cp := by
  obtain ⟨settings, hr⟩ := hb
  have h : b.Shown := by
    refine Reach.Reachable.invariant (shown_new _ _ _ _) ?_ hr
    rintro b₁ b₂ h₁ ⟨⟨now, op⟩, hop, he⟩
    exact BookOp.exec_shown h₁ hop he
  refine ⟨fun p info a hp ha => ?_, h.addresses⟩
  obtain ⟨cp, hcp, -, he⟩ := h.connections p info a hp ha
  exact ⟨cp, hcp, he⟩

/-- We dial peer 1 at `/ip4/1.2.3.4/tcp/4001` and connect: the book files the address under
`Dial`, and the log shows the connection. -/
theorem own_sources_shown_dialer :
    ∃ b, BookReachableWith (fun op => op.usesConnectionSource = false) b ∧
      ((b.peers.lookup ⟨1⟩).bind fun info =>
        info.addresses.lookup ⟨[.ip4 ⟨1, 2, 3, 4⟩, .tcp 4001, .p2p (.peer ⟨1⟩)]⟩).map (·.1) = some .dial ∧
      (∀ p info a, b.peers.lookup p = some info → a ∈ info.connections →
        ∃ cp, cp.getRemoteAddress = a ∧ ∃ e ∈ b.events, e.Shows p cp) ∧
      ∀ p info a s t, b.peers.lookup p = some info → info.addresses.lookup a = some (s, t) →
        s.isFromConnection = true →
        ∃ cp, cp.getRemoteAddress = a ∧ s.BorneOut cp ∧ ∃ e ∈ b.events, e.Shows p cp := by
  have hb : BookReachableWith (fun op => op.usesConnectionSource = false) _ :=
    ⟨⟨false, false, false, ⟨0⟩⟩, Reach.Reachable.tail Reach.Reachable.refl
      ⟨(0, .injectConnectionEstablished ⟨1⟩ (.dialer ⟨[.ip4 ⟨1, 2, 3, 4⟩, .tcp 4001]⟩ .dialer) 0),
        rfl, rfl⟩⟩
  exact ⟨_, hb, by decide, own_sources_shown hb⟩

end IpfsEmbed
