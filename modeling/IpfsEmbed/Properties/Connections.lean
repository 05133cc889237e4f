import IpfsEmbed.Net.Swarm
import IpfsEmbed.Properties.Normalization

/-!
# The book's connections against the swarm's

The book keeps the connections of a peer keyed by their remote address, normalized with the
peer, and not by `ConnectionId`.  Against the swarm's table of open connections:

* in every run, every connection key of `p` is the remote address of an open connection to
  `p`: the book never shows a connection the swarm does not have;
* in the runs in which the swarm never holds two open connections to one peer with the same
  remote address, the keys of `p` are exactly the remote addresses of its open connections, so
  `is_connected` agrees with the swarm and `prune_peers` keeps every connected peer;
* two open connections with the same remote address share one key, and closing either one
  removes it: `is_connected` then answers `false` while the swarm is still connected to the
  peer, against its documentation ("Returns `true` if there is a connection to peer"), and
  `prune_peers` forgets the peer.  With port reuse this is an ordinary situation: a peer dials
  two of our listen addresses from its one listen port.
-/

namespace IpfsEmbed

/-! ## The connections of each record, call by call -/

namespace AddressBook

/-- Every record of `b'` has the connections of the record in `b`. -/
def SameConnections (b b' : AddressBook) : Prop :=
  ∀ q, (b'.entry q).connections = (b.entry q).connections

variable {b b' : AddressBook}

theorem entry_of_peers_insert {p : PeerId} {info : PeerInfo}
    (h : b'.peers = b.peers.insert p info) (q : PeerId) :
    b'.entry q = if q = p then info else b.entry q := by
  unfold entry
  rw [h, AList.lookup_insert_eq_ite]
  split_ifs <;> rfl

theorem sameConnections_of_peers_eq (h : b'.peers = b.peers) : SameConnections b b' := by
  intro q
  unfold entry
  rw [h]

theorem sameConnections_insert {p : PeerId} {info : PeerInfo}
    (h : b'.peers = b.peers.insert p info) (hc : info.connections = (b.entry p).connections) :
    SameConnections b b' := by
  intro q
  rw [entry_of_peers_insert h]
  split_ifs with hq
  · subst hq
    exact hc
  · rfl

/-- `prune_peers` only removes records without connections. -/
theorem connections_eq_empty_of_isPrunable {info : PeerInfo} {now : DateTime} {minAge : Duration}
    (h : isPrunable info now minAge = true) : info.connections = ∅ := by
  have hk : info.connections.keys = [] := by
    by_contra hk
    simp [isPrunable, hk] at h
  apply AList.ext
  simpa [AList.keys, List.keys] using hk

section Calls

variable (b) (now : DateTime)

theorem addAddress_sameConnections (peer : PeerId) (address : Multiaddr) (source : AddressSource) :
    SameConnections b (b.addAddress now peer address source) := by
  by_cases hacc : b.acceptsAddress peer address = true
  · exact sameConnections_insert (by rw [addAddress_peers, if_pos hacc])
      (by rw [PeerInfo.ingestAddress_eq])
  · exact sameConnections_of_peers_eq (by rw [addAddress_peers, if_neg hacc])

theorem removeAddress_sameConnections (peer : PeerId) (address : Multiaddr) :
    SameConnections b (b.removeAddress peer address) := by
  unfold removeAddress
  split
  · rename_i info hl
    exact sameConnections_insert rfl (by rw [entry_of_lookup b hl])
  · exact sameConnections_of_peers_eq rfl

theorem dialAddress_sameConnections (peer : PeerId) (addr : Multiaddr) :
    SameConnections b (b.dialAddress peer addr) := by
  by_cases hl : peer = b.settings.localPeerId
  · exact sameConnections_of_peers_eq (by rw [dialAddress_peers, if_pos hl])
  · exact sameConnections_insert (by rw [dialAddress_peers, if_neg hl]) rfl

theorem prunePeers_sameConnections (minAge : Duration) :
    SameConnections b (b.prunePeers now minAge) := by
  intro q
  unfold entry
  rw [prunePeers_lookup]
  cases hl : b.peers.lookup q with
  | none => rfl
  | some info =>
    rw [Option.filter_some]
    by_cases hp : isPrunable info now minAge = true
    · -- a removed record had no connections
      rw [if_neg (by simp [hp])]
      exact (connections_eq_empty_of_isPrunable hp).symm
    · rw [if_pos (by simpa using hp)]

theorem setRtt_sameConnections (peer : PeerId) (rtt : Option Duration) :
    SameConnections b (b.setRtt peer rtt) := by
  unfold setRtt
  split
  · rename_i info hl
    exact sameConnections_insert rfl (by rw [PeerInfo.setRtt_connections, entry_of_lookup b hl])
  · exact sameConnections_of_peers_eq rfl

theorem setInfo_sameConnections {peer : PeerId} {identify : IdentifyInfo}
    (he : b.setInfo now peer identify = some b') : SameConnections b b' := by
  rcases setInfo_eq_some he with ⟨-, rfl⟩ | ⟨info, ts, hl, ht, rfl⟩
  · exact fun _ => rfl
  · -- the loop over the candidates only writes addresses
    refine sameConnections_insert rfl ?_
    rw [ingestCandidates, foldl_setInfoIngest_connections, entry_of_lookup b hl]
    rfl

theorem injectDialFailure_sameConnections (peerId : Option PeerId) (handler : IntoAddressHandler)
    (error : DialError) (rand : Nat → UInt32) :
    SameConnections b (b.injectDialFailure now peerId handler error rand) := by
  intro p
  by_cases hq : handler.peerId.or peerId = some p
  · cases hl : b.peers.lookup p with
    | none =>
      unfold entry
      rw [injectDialFailure_lookup_of_ne b now peerId handler error rand (.inr hl), hl]
    | some info =>
      rw [entry_of_lookup _ (injectDialFailure_lookup_self b now peerId handler error rand hq hl),
        entry_of_lookup b hl]
      exact (dialFailureRecord_keepsFields now p info handler error).2.2.2.2.1
  · unfold entry
    rw [injectDialFailure_lookup_of_ne b now peerId handler error rand (.inl hq)]

/-- A new connection adds its remote address to the keys of its peer. -/
theorem mem_injectConnectionEstablished_connections (peer : PeerId) (conn : ConnectedPoint)
    (n : Nat) (q : PeerId) (a : Multiaddr) :
    a ∈ ((b.injectConnectionEstablished now peer conn n).entry q).connections ↔
      a ∈ (b.entry q).connections ∨ (q = peer ∧ a = normalizeAddrRef conn.getRemoteAddress peer) := by
  rw [entry_of_peers_insert (injectConnectionEstablished_peers b now peer conn n)]
  by_cases hq : q = peer
  · subst hq
    rw [if_pos rfl, AList.mem_insert, addAddress_sameConnections b now,
      normalizeConnectedPoint_getRemoteAddress]
    simp only [true_and]
    exact or_comm
  · rw [if_neg hq, addAddress_sameConnections b now]
    simp [hq]

/-- A closed connection removes its remote address from the keys of its peer. -/
theorem mem_connectionClosed_connections (peer : PeerId) (conn : ConnectedPoint) (n : Nat)
    (error : Option ConnectionError) (q : PeerId) (a : Multiaddr) :
    a ∈ ((b.connectionClosed now peer conn n error).entry q).connections ↔
      a ∈ (b.entry q).connections ∧ ¬(q = peer ∧ a = normalizeAddrRef conn.getRemoteAddress peer) := by
  rw [entry_of_peers_insert (connectionClosed_peers b now peer conn n error)]
  by_cases hq : q = peer
  · subst hq
    rw [if_pos rfl, PeerInfo.pushFailure_connections, AList.mem_erase,
      normalizeConnectedPoint_getRemoteAddress]
    simp only [true_and]
    exact and_comm
  · rw [if_neg hq]
    simp [hq]

/-- An address change replaces the old remote address by the new one in the keys of the
peer. -/
theorem mem_injectAddressChange_connections (peer : PeerId) (old new : ConnectedPoint)
    (q : PeerId) (a : Multiaddr) :
    a ∈ ((b.injectAddressChange now peer old new).entry q).connections ↔
      (q = peer ∧ a = normalizeAddrRef new.getRemoteAddress peer) ∨
        (a ∈ (b.entry q).connections ∧
          ¬(q = peer ∧ a = normalizeAddrRef old.getRemoteAddress peer)) := by
  rw [entry_of_peers_insert (injectAddressChange_peers b now peer old new)]
  by_cases hq : q = peer
  · subst hq
    rw [if_pos rfl, AList.mem_insert, AList.mem_erase, addAddress_sameConnections b now,
      normalizeConnectedPoint_getRemoteAddress, normalizeConnectedPoint_getRemoteAddress]
    simp only [true_and]
    exact or_congr_right and_comm
  · rw [if_neg hq, addAddress_sameConnections b now]
    simp [hq]

/-- `is_connected` of another peer than ourselves: its record has a connection. -/
theorem isConnected_iff {p : PeerId} (hp : p ≠ b.settings.localPeerId) :
    b.isConnected p = true ↔ ∃ a, a ∈ (b.entry p).connections := by
  unfold isConnected entry
  cases b.peers.lookup p with
  | none => simp [hp, AList.notMem_empty]
  | some info => simp [hp, ← AList.mem_keys, List.eq_nil_iff_forall_not_mem]

/-- `prune_peers` keeps a record with a connection. -/
theorem prunePeers_lookup_of_connected (minAge : Duration) {p : PeerId} {a : Multiaddr}
    (h : a ∈ (b.entry p).connections) :
    (b.prunePeers now minAge).peers.lookup p = b.peers.lookup p ∧ (b.peers.lookup p).isSome := by
  rw [prunePeers_lookup]
  unfold entry at h
  cases hl : b.peers.lookup p with
  | none =>
    rw [hl] at h
    exact absurd h (AList.notMem_empty a)
  | some info =>
    rw [hl] at h
    have hnp : isPrunable info now minAge = false := by
      have hk : info.connections.keys ≠ [] := List.ne_nil_of_mem (AList.mem_keys.2 h)
      simp [isPrunable, hk]
    simp [hnp]

end Calls

end AddressBook

open AddressBook in
/-- Every call other than a connection callback leaves the connections of every record. -/
theorem BookOp.exec_sameConnections {b b' : AddressBook} {now : DateTime} {op : BookOp}
    (hop : op.isConnectionCallback = false) (he : op.exec b now = some b') :
    SameConnections b b' := by
  cases op with
  | addAddress peer address source =>
    cases he
    exact addAddress_sameConnections b now peer address source
  | removeAddress peer address =>
    cases he
    exact removeAddress_sameConnections b peer address
  | dial peer =>
    cases he
    exact sameConnections_of_peers_eq (dial_peers b peer)
  | dialAddress peer addr =>
    cases he
    exact dialAddress_sameConnections b peer addr
  | prunePeers minAge =>
    cases he
    exact prunePeers_sameConnections b now minAge
  | setRtt peer rtt =>
    cases he
    exact setRtt_sameConnections b peer rtt
  | setInfo peer identify => exact setInfo_sameConnections b now he
  | connectionClosed => cases hop
  | injectConnectionEstablished => cases hop
  | injectAddressChange => cases hop
  | injectDialFailure peerId handler error rand =>
    cases he
    exact injectDialFailure_sameConnections b now peerId handler error rand
  | injectNewListenAddr id addr =>
    cases he
    exact sameConnections_of_peers_eq rfl
  | injectExpiredListenAddr id addr =>
    cases he
    exact sameConnections_of_peers_eq rfl
  | poll =>
    cases he
    exact sameConnections_of_peers_eq rfl

/-! ## The swarm's connections and the book's -/

namespace World

/-- `a` is the remote address of an open connection to `p`. -/
def IsRemote (w : World) (p : PeerId) (a : Multiaddr) : Prop :=
  ∃ id c, w.connections.lookup id = some c ∧ c.peer = p ∧ c.remote = a

/-- The swarm has an open connection to `p`. -/
def ConnectedTo (w : World) (p : PeerId) : Prop :=
  ∃ id c, w.connections.lookup id = some c ∧ c.peer = p

/-- No two open connections to one peer have the same remote address. -/
def RemotesDistinct (w : World) : Prop :=
  (w.connections.entries.map fun e => (e.2.peer, e.2.remote)).Nodup

instance (w : World) : Decidable w.RemotesDistinct :=
  inferInstanceAs (Decidable (List.Nodup _))

/-- Every `ConnectionId` in use is below the next one. -/
def Fresh (w : World) : Prop :=
  ∀ id ∈ w.connections, id < w.nextId

/-- Every connection key of the book is the remote address of an open connection. -/
def KeysSound (w : World) : Prop :=
  ∀ p a, a ∈ (w.book.entry p).connections → w.IsRemote p a

/-- The remote address of every open connection is a connection key of the book. -/
def KeysComplete (w : World) : Prop :=
  ∀ p a, w.IsRemote p a → a ∈ (w.book.entry p).connections

variable {w w' : World} {now : DateTime} {e : SwarmEvent} {p : PeerId} {a : Multiaddr}

theorem connectedTo_iff : w.ConnectedTo p ↔ ∃ a, w.IsRemote p a := by
  constructor
  · rintro ⟨id, c, hc, hp⟩
    exact ⟨c.remote, id, c, hc, hp, rfl⟩
  · rintro ⟨a, id, c, hc, hp, -⟩
    exact ⟨id, c, hc, hp⟩

/-- Two open connections to one peer with one remote address are the same connection. -/
theorem RemotesDistinct.eq (h : w.RemotesDistinct) {id id' : Nat} {c c' : SwarmConnection}
    (hc : w.connections.lookup id = some c) (hc' : w.connections.lookup id' = some c')
    (hp : c.peer = c'.peer) (hr : c.remote = c'.remote) : id = id' := by
  have hx := List.inj_on_of_nodup_map h (AList.mem_lookup_iff.1 hc) (AList.mem_lookup_iff.1 hc')
    (by simp [hp, hr])
  exact congrArg Sigma.fst hx

/-- A key of `p` that is not the remote address of connection `id` comes from another
connection. -/
theorem ne_of_not_remote {id id' : Nat} {c c' : SwarmConnection}
    (hc : w.connections.lookup id = some c) (hc' : w.connections.lookup id' = some c')
    (hp : c'.peer = p) (hr : c'.remote = a) (hnot : ¬(p = c.peer ∧ a = c.remote)) : id' ≠ id := by
  rintro rfl
  obtain rfl : c = c' := Option.some.inj (hc.symm.trans hc')
  exact hnot ⟨hp.symm, hr.symm⟩

/-- **Inversion of a step**: what each event does to the book and to the table. -/
theorem step_cases (he : w.step now e = some w') :
    (∃ peer endpoint n, w' = ⟨w.book.injectConnectionEstablished now peer endpoint n,
        w.connections.insert w.nextId ⟨peer, endpoint⟩, w.nextId + 1⟩) ∨
    (∃ id c n error, w.connections.lookup id = some c ∧
        w' = ⟨w.book.connectionClosed now c.peer c.endpoint n error, w.connections.erase id,
          w.nextId⟩) ∨
    (∃ id c new, w.connections.lookup id = some c ∧
        w' = ⟨w.book.injectAddressChange now c.peer c.endpoint new,
          w.connections.insert id ⟨c.peer, new⟩, w.nextId⟩) ∨
    (∃ (op : BookOp) (b' : AddressBook), op.isConnectionCallback = false ∧
        op.exec w.book now = some b' ∧ w' = { w with book := b' }) := by
  cases e with
  | established peer endpoint =>
    cases he
    exact .inl ⟨peer, endpoint, _, rfl⟩
  | closed id error =>
    obtain ⟨c, hc, rfl⟩ := Option.map_eq_some_iff.1 he
    exact .inr (.inl ⟨id, c, _, error, hc, rfl⟩)
  | addressChange id new =>
    obtain ⟨c, hc, rfl⟩ := Option.map_eq_some_iff.1 he
    exact .inr (.inr (.inl ⟨id, c, new, hc, rfl⟩))
  | call op =>
    simp only [step] at he
    split_ifs at he with hop
    obtain ⟨b', hb', rfl⟩ := Option.map_eq_some_iff.1 he
    exact .inr (.inr (.inr ⟨op, b', by simpa using hop, hb', rfl⟩))

theorem step_fresh (h : w.Fresh) (he : w.step now e = some w') : w'.Fresh := by
  rcases step_cases he with ⟨peer, endpoint, n, rfl⟩ | ⟨id, c, n, error, hc, rfl⟩ |
    ⟨id, c, new, hc, rfl⟩ | ⟨op, b', -, -, rfl⟩
  · -- the new connection takes the next id
    intro id hid
    rcases (AList.mem_insert _).1 hid with rfl | hid
    · exact Nat.lt_succ_self _
    · exact Nat.lt_succ_of_lt (h id hid)
  · intro id' hid
    exact h id' (AList.mem_erase.1 hid).2
  · intro id' hid
    rcases (AList.mem_insert _).1 hid with rfl | hid
    · exact h _ ((AList.mem_iff_lookup_isSome _ _).2 (by rw [hc]; rfl))
    · exact h id' hid
  · exact h

/-- **The book never shows a connection the swarm does not have**: every event keeps the keys
remote addresses of open connections. -/
theorem step_keysSound (hf : w.Fresh) (h : w.KeysSound) (he : w.step now e = some w') :
    w'.KeysSound := by
  rcases step_cases he with ⟨peer, endpoint, n, rfl⟩ | ⟨id, c, n, error, hc, rfl⟩ |
    ⟨id, c, new, hc, rfl⟩ | ⟨op, b', hop, hex, rfl⟩
  · intro p a ha
    rcases (AddressBook.mem_injectConnectionEstablished_connections _ _ _ _ _ _ _).1 ha with
      ha | ⟨rfl, rfl⟩
    · -- an old key: its connection is still open, under an id below the new one
      obtain ⟨id', c', hc', hp, hr⟩ := h p a ha
      have hne : id' ≠ w.nextId :=
        Nat.ne_of_lt (hf id' ((AList.mem_iff_lookup_isSome _ _).2 (by rw [hc']; rfl)))
      exact ⟨id', c', by rw [AList.lookup_insert_eq_ite, if_neg hne]; exact hc', hp, hr⟩
    · exact ⟨w.nextId, ⟨p, endpoint⟩, by rw [AList.lookup_insert_eq_ite, if_pos rfl], rfl, rfl⟩
  · intro p a ha
    obtain ⟨ha, hnot⟩ := (AddressBook.mem_connectionClosed_connections _ _ _ _ _ _ _ _).1 ha
    obtain ⟨id', c', hc', hp, hr⟩ := h p a ha
    have hne := ne_of_not_remote hc hc' hp hr hnot
    exact ⟨id', c', by rw [AList.lookup_erase_eq_ite, if_neg hne]; exact hc', hp, hr⟩
  · intro p a ha
    rcases (AddressBook.mem_injectAddressChange_connections _ _ _ _ _ _ _).1 ha with
      ⟨rfl, rfl⟩ | ⟨ha, hnot⟩
    · exact ⟨id, ⟨c.peer, new⟩, by rw [AList.lookup_insert_eq_ite, if_pos rfl], rfl, rfl⟩
    · obtain ⟨id', c', hc', hp, hr⟩ := h p a ha
      have hne := ne_of_not_remote hc hc' hp hr hnot
      exact ⟨id', c', by rw [AList.lookup_insert_eq_ite, if_neg hne]; exact hc', hp, hr⟩
  · -- the node's calls leave the connections of every record
    intro p a ha
    rw [BookOp.exec_sameConnections hop hex p] at ha
    exact h p a ha

/-- Every event keeps the remote address of every open connection a key, as long as no two
open connections to one peer share a remote address. -/
theorem step_keysComplete (hd : w.RemotesDistinct) (h : w.KeysComplete)
    (he : w.step now e = some w') : w'.KeysComplete := by
  rcases step_cases he with ⟨peer, endpoint, n, rfl⟩ | ⟨id, c, n, error, hc, rfl⟩ |
    ⟨id, c, new, hc, rfl⟩ | ⟨op, b', hop, hex, rfl⟩
  · rintro p a ⟨id', c', hc', rfl, rfl⟩
    rw [AddressBook.mem_injectConnectionEstablished_connections]
    rw [AList.lookup_insert_eq_ite] at hc'
    split_ifs at hc' with hid
    · cases hc'
      exact .inr ⟨rfl, rfl⟩
    · exact .inl (h _ _ ⟨id', c', hc', rfl, rfl⟩)
  · rintro p a ⟨id', c', hc', rfl, rfl⟩
    rw [AList.lookup_erase_eq_ite] at hc'
    split_ifs at hc' with hid
    rw [AddressBook.mem_connectionClosed_connections]
    refine ⟨h _ _ ⟨id', c', hc', rfl, rfl⟩, ?_⟩
    -- another open connection with the closed one's address would share its key
    rintro ⟨hp, hr⟩
    exact hid (hd.eq hc' hc hp hr)
  · rintro p a ⟨id', c', hc', rfl, rfl⟩
    rw [AddressBook.mem_injectAddressChange_connections]
    rw [AList.lookup_insert_eq_ite] at hc'
    split_ifs at hc' with hid
    · cases hc'
      exact .inl ⟨rfl, rfl⟩
    · refine .inr ⟨h _ _ ⟨id', c', hc', rfl, rfl⟩, ?_⟩
      rintro ⟨hp, hr⟩
      exact hid (hd.eq hc' hc hp hr)
  · intro p a ha
    rw [BookOp.exec_sameConnections hop hex p]
    exact h p a ha

/-! ## Every run -/

section Init

variable (settings : Settings)

theorem init_fresh : (init settings).Fresh :=
  fun _ h => absurd h (AList.notMem_empty _)

theorem init_remotesDistinct : (init settings).RemotesDistinct :=
  List.nodup_nil

theorem init_keysSound : (init settings).KeysSound := by
  intro p a ha
  simp [init, AddressBook.new, AddressBook.entry, AList.notMem_empty] at ha

theorem init_keysComplete : (init settings).KeysComplete := by
  rintro p a ⟨id, c, hc, -, -⟩
  simp [init] at hc

end Init

/-- What every run keeps: fresh ids, and keys that are remote addresses of open
connections. -/
structure Sound (w : World) : Prop where
  fresh : w.Fresh
  sound : w.KeysSound

/-- What the runs without two connections to one peer on one remote address keep. -/
structure Tracks (w : World) : Prop extends Sound w where
  distinct : w.RemotesDistinct
  complete : w.KeysComplete

theorem init_sound (settings : Settings) : (init settings).Sound :=
  ⟨init_fresh settings, init_keysSound settings⟩

theorem Sound.step (h : w.Sound) (he : w.step now e = some w') : w'.Sound :=
  ⟨step_fresh h.fresh he, step_keysSound h.fresh h.sound he⟩

/-- In a run, for another peer than ourselves, `is_connected` implies a connection of the
swarm. -/
theorem KeysSound.connectedTo (h : w.KeysSound) (hp : p ≠ w.book.settings.localPeerId)
    (hc : w.book.isConnected p = true) : w.ConnectedTo p := by
  obtain ⟨a, ha⟩ := (AddressBook.isConnected_iff w.book hp).1 hc
  exact connectedTo_iff.2 ⟨a, h p a ha⟩

theorem Tracks.isConnected_iff (h : w.Tracks) (hp : p ≠ w.book.settings.localPeerId) :
    w.book.isConnected p = true ↔ w.ConnectedTo p := by
  refine ⟨h.sound.connectedTo hp, fun hc => ?_⟩
  obtain ⟨a, ha⟩ := connectedTo_iff.1 hc
  exact (AddressBook.isConnected_iff w.book hp).2 ⟨a, h.complete p a ha⟩

/-- `prune_peers` keeps the record of every peer the swarm is connected to. -/
theorem Tracks.prunePeers_keeps (h : w.Tracks) (hc : w.ConnectedTo p) (now : DateTime)
    (minAge : Duration) :
    (w.book.prunePeers now minAge).peers.lookup p = w.book.peers.lookup p ∧
      (w.book.peers.lookup p).isSome := by
  obtain ⟨a, ha⟩ := connectedTo_iff.1 hc
  exact AddressBook.prunePeers_lookup_of_connected w.book now minAge (h.complete p a ha)

end World

open World

/-- The worlds reachable through states in which no two open connections to one peer have the
same remote address. -/
def WorldReachableDistinct (w : World) : Prop :=
  ∃ settings : Settings,
    Reach.Reachable (worldStep fun w e => ∀ w', w.step e.1 e.2 = some w' → w'.RemotesDistinct)
      (World.init settings) w

theorem reachable_sound {w : World} (hw : WorldReachable w) : w.Sound := by
  obtain ⟨settings, hr⟩ := hw
  refine Reach.Reachable.invariant (init_sound settings) ?_ hr
  rintro s s' hs ⟨⟨now, e⟩, -, he⟩
  exact hs.step he

theorem reachableDistinct_tracks {w : World} (hw : WorldReachableDistinct w) : w.Tracks := by
  obtain ⟨settings, hr⟩ := hw
  refine Reach.Reachable.invariant
    { toSound := init_sound settings, distinct := init_remotesDistinct settings,
      complete := init_keysComplete settings } ?_ hr
  rintro s s' ht ⟨⟨now, e⟩, hok, he⟩
  -- distinctness is the guard of the step; it carries completeness over the step
  exact
    { toSound := ht.toSound.step he, distinct := hok s' he,
      complete := step_keysComplete ht.distinct ht.complete he }

/-- A peer dials two of our listen addresses from its one listen port, `1.2.3.4:5000`, and the
first connection closes: the swarm still has the second, but the book has no connection left
for the peer, `is_connected` says it is not connected, and `prune_peers` forgets it. -/
theorem closing_duplicate_forgets_connection :
    ∃ w, WorldReachable w ∧ w.ConnectedTo ⟨1⟩ ∧ w.book.isConnected ⟨1⟩ = false ∧
      (w.book.prunePeers 0 0).peers.lookup ⟨1⟩ = none :=
  ⟨_, ⟨⟨false, false, false, ⟨0⟩⟩,
    Reach.Reachable.tail (Reach.Reachable.tail (Reach.Reachable.tail Reach.Reachable.refl
      ⟨(0, .established ⟨1⟩ (.listener ⟨[.ip4 ⟨10, 0, 0, 1⟩, .tcp 4001]⟩
        ⟨[.ip4 ⟨1, 2, 3, 4⟩, .tcp 5000]⟩)), trivial, rfl⟩)
      ⟨(0, .established ⟨1⟩ (.listener ⟨[.ip4 ⟨10, 0, 0, 2⟩, .tcp 4001]⟩
        ⟨[.ip4 ⟨1, 2, 3, 4⟩, .tcp 5000]⟩)), trivial, rfl⟩)
      ⟨(0, .closed 0 none), trivial, rfl⟩⟩,
    ⟨1, _, rfl, rfl⟩, by decide, by decide⟩

/-- **The book's connections refine the swarm's.**  In every run, every connection key of `p`
is the remote address of an open connection to `p`, so `is_connected` of another peer implies
a connection.  In the runs in which no two open connections to one peer share a remote
address, the keys of `p` are exactly those addresses, `is_connected` of another peer agrees
with the swarm, and `prune_peers` keeps every connected peer. -/
theorem connections_refine_swarm :
    (∀ w, WorldReachable w →
      (∀ p a, a ∈ (w.book.entry p).connections → w.IsRemote p a) ∧
      ∀ p, p ≠ w.book.settings.localPeerId → w.book.isConnected p = true → w.ConnectedTo p) ∧
    ∀ w, WorldReachableDistinct w →
      (∀ p a, a ∈ (w.book.entry p).connections ↔ w.IsRemote p a) ∧
      (∀ p, p ≠ w.book.settings.localPeerId → (w.book.isConnected p = true ↔ w.ConnectedTo p)) ∧
      ∀ p, w.ConnectedTo p → ∀ now minAge,
        (w.book.prunePeers now minAge).peers.lookup p = w.book.peers.lookup p ∧
          (w.book.peers.lookup p).isSome := by
  refine ⟨fun w hw => ?_, fun w hw => ?_⟩
  · have hs := (reachable_sound hw).sound
    exact ⟨hs, fun p hp => hs.connectedTo hp⟩
  · have ht := reachableDistinct_tracks hw
    exact ⟨fun p a => ⟨ht.sound p a, ht.complete p a⟩, fun p hp => ht.isConnected_iff hp,
      fun p hc now minAge => ht.prunePeers_keeps hc now minAge⟩

theorem connections_refine_swarm_dialer :
    ∃ w, (World.init ⟨false, false, false, ⟨0⟩⟩).step 0
        (.established ⟨1⟩ (.dialer ⟨[.ip4 ⟨1, 2, 3, 4⟩, .tcp 4001]⟩ .dialer)) = some w ∧
      (WorldReachable w ∧ (w.book.isConnected ⟨1⟩ = true → w.ConnectedTo ⟨1⟩)) ∧
      WorldReachableDistinct w ∧ (w.book.isConnected ⟨1⟩ = true ↔ w.ConnectedTo ⟨1⟩) := by
  refine ⟨_, rfl, ?_⟩
  have hA : WorldReachable _ := ⟨⟨false, false, false, ⟨0⟩⟩, Reach.Reachable.tail Reach.Reachable.refl
    ⟨(0, .established ⟨1⟩ (.dialer ⟨[.ip4 ⟨1, 2, 3, 4⟩, .tcp 4001]⟩ .dialer)), trivial, rfl⟩⟩
  have hB : WorldReachableDistinct _ := ⟨⟨false, false, false, ⟨0⟩⟩, Reach.Reachable.tail Reach.Reachable.refl
    ⟨(0, .established ⟨1⟩ (.dialer ⟨[.ip4 ⟨1, 2, 3, 4⟩, .tcp 4001]⟩ .dialer)),
      fun w' hw' => by cases hw'; decide, rfl⟩⟩
  exact ⟨⟨hA, (connections_refine_swarm.1 _ hA).2 ⟨1⟩ (by decide)⟩, hB,
    (connections_refine_swarm.2 _ hB).2.1 ⟨1⟩ (by decide)⟩

end IpfsEmbed
