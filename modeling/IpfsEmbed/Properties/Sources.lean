import IpfsEmbed.Net.Run

/-!
# Address sources only rise

An address's source is written in several places: `ingest_address` raises it and never lowers
it, `set_info` purges `Incoming` addresses and re-ingests translations of them, and
`push_failure`, `remove_address`, a wrong peer and `prune_peers` remove addresses.  The result
of this module is that no call lowers the source of an address it keeps: for every peer and address present both before and after a call, the
source after is at least the source before.  As confirmed sources are closed upwards
(`AddressSource.isConfirmed_mono`), an address that is confirmed stays confirmed until it is
removed.  The result holds from any state, reachable or not.

Three relations between two records of one peer carry the proof:

* `Rises`: every address is kept, under a source at least as high (`ingest_address`, and
  every change to a record's connections, Identify fields or statistics);
* `Shrinks`: addresses are only removed (`push_failure`, `remove_address`, a dial failure);
* `SourcesRise`: every address present in both has a source at least as high, the result.

The first two compose along a sequence of updates and imply the third.  `set_info` is the one
call that is neither: it removes `Incoming` addresses and may add them back, which is harmless
because `Incoming` is the lowest source.
-/

namespace IpfsEmbed

namespace PeerInfo

/-- Every address of `info` is kept in `info'`, under a source at least as high. -/
def Rises (info info' : PeerInfo) : Prop :=
  ∀ a s t, info.addresses.lookup a = some (s, t) →
    ∃ s' t', info'.addresses.lookup a = some (s', t') ∧ s ≤ s'

/-- `info'` keeps some of the addresses of `info`, unchanged, and has no other. -/
def Shrinks (info info' : PeerInfo) : Prop :=
  ∀ a, info'.addresses.lookup a = info.addresses.lookup a ∨ info'.addresses.lookup a = none

/-- Every address present in both records has a source at least as high in `info'`. -/
def SourcesRise (info info' : PeerInfo) : Prop :=
  AList.Grows (fun x y => x.1 ≤ y.1) info.addresses info'.addresses

variable {info info' info'' : PeerInfo}

theorem Rises.refl (info : PeerInfo) : info.Rises info :=
  fun _ s t h => ⟨s, t, h, le_refl s⟩

theorem Rises.trans (h₁ : info.Rises info') (h₂ : info'.Rises info'') : info.Rises info'' := by
  intro a s t ha
  obtain ⟨s₁, t₁, ha₁, hs₁⟩ := h₁ a s t ha
  obtain ⟨s₂, t₂, ha₂, hs₂⟩ := h₂ a s₁ t₁ ha₁
  exact ⟨s₂, t₂, ha₂, le_trans hs₁ hs₂⟩

theorem Rises.sourcesRise (h : info.Rises info') : info.SourcesRise info' := by
  intro a x y hx hy
  obtain ⟨s', t', ha, hs⟩ := h a x.1 x.2 hx
  rw [hy] at ha
  cases ha
  exact hs

theorem Shrinks.refl (info : PeerInfo) : info.Shrinks info :=
  fun _ => .inl rfl

theorem Shrinks.trans (h₁ : info.Shrinks info') (h₂ : info'.Shrinks info'') :
    info.Shrinks info'' := by
  intro a
  rcases h₂ a with h | h
  · rw [h]
    exact h₁ a
  · exact .inr h

theorem Shrinks.sourcesRise (h : info.Shrinks info') : info.SourcesRise info' := by
  intro a x y hx hy
  rcases h a with h | h
  · rw [h, hx] at hy
    cases hy
    exact le_refl _
  · rw [h] at hy
    cases hy

theorem SourcesRise.refl (info : PeerInfo) : info.SourcesRise info :=
  (Rises.refl info).sourcesRise

theorem rises_of_addresses_eq (h : info'.addresses = info.addresses) : info.Rises info' := by
  intro a s t ha
  exact ⟨s, t, h ▸ ha, le_refl s⟩

theorem ingestAddress_rises (info : PeerInfo) (now : DateTime) (addr : Multiaddr)
    (source : AddressSource) : info.Rises (info.ingestAddress now addr source).1 := by
  intro a s t ha
  rw [ingestAddress_eq]
  by_cases hx : a = addr
  · subst hx
    refine ⟨_, now, AList.lookup_insert _, ?_⟩
    rw [ha]
    exact le_ingestedSource source s t
  · exact ⟨s, t, by rw [AList.lookup_insert_ne hx]; exact ha, le_refl s⟩

theorem pushFailure_shrinks (info : PeerInfo) (addr : Multiaddr) (f : ConnectionFailure)
    (probeResult : Bool) : info.Shrinks (info.pushFailure addr f probeResult) := by
  intro a
  rw [pushFailure_lookup]
  split_ifs
  · exact .inr rfl
  · exact .inl rfl

theorem pushFailure_false_addresses (info : PeerInfo) (addr : Multiaddr)
    (f : ConnectionFailure) : (info.pushFailure addr f false).addresses = info.addresses := by
  simp [pushFailure]

theorem erase_shrinks (info : PeerInfo) (addr : Multiaddr) :
    info.Shrinks { info with addresses := info.addresses.erase addr } := by
  intro a
  simp only [AList.lookup_erase_eq_ite]
  split_ifs
  · exact .inr rfl
  · exact .inl rfl

end PeerInfo

namespace AddressBook

open PeerInfo

/-- Every peer of `b` keeps its record in `b'`, and the record `Rises`. -/
def PeersRise (b b' : AddressBook) : Prop :=
  ∀ p info, b.peers.lookup p = some info → ∃ info', b'.peers.lookup p = some info' ∧ info.Rises info'

/-- Every address a peer has in both `b` and `b'` carries a source at least as high in `b'`. -/
def SourcesRise (b b' : AddressBook) : Prop :=
  AList.Grows PeerInfo.SourcesRise b.peers b'.peers

variable {b b' b'' : AddressBook}

theorem PeersRise.refl (b : AddressBook) : PeersRise b b :=
  fun _ info h => ⟨info, h, Rises.refl info⟩

theorem PeersRise.trans (h₁ : PeersRise b b') (h₂ : PeersRise b' b'') : PeersRise b b'' := by
  intro p info hp
  obtain ⟨info₁, hp₁, hr₁⟩ := h₁ p info hp
  obtain ⟨info₂, hp₂, hr₂⟩ := h₂ p info₁ hp₁
  exact ⟨info₂, hp₂, hr₁.trans hr₂⟩

theorem PeersRise.sourcesRise (h : PeersRise b b') : SourcesRise b b' := by
  intro p info info' hp hp'
  obtain ⟨info₁, hp₁, hr⟩ := h p info hp
  rw [hp'] at hp₁
  cases hp₁
  exact hr.sourcesRise

theorem peersRise_of_peers_eq (h : b'.peers = b.peers) : PeersRise b b' := by
  intro p info hp
  exact ⟨info, h ▸ hp, Rises.refl info⟩

/-- Writing back a record that `Rises` from the one filed. -/
theorem peersRise_insert {p : PeerId} {info' : PeerInfo}
    (hr : ∀ info, b.peers.lookup p = some info → info.Rises info')
    (hpeers : b'.peers = b.peers.insert p info') : PeersRise b b' := by
  intro q info hq
  rw [hpeers, AList.lookup_insert_eq_ite]
  by_cases h : q = p
  · subst h
    exact ⟨info', by simp, hr info hq⟩
  · exact ⟨info, by simp [h, hq], Rises.refl info⟩

/-- Writing back a record that `Shrinks` from the one filed. -/
theorem sourcesRise_insert {p : PeerId} {info' : PeerInfo}
    (hs : ∀ info, b.peers.lookup p = some info → info.SourcesRise info')
    (hpeers : b'.peers = b.peers.insert p info') : SourcesRise b b' := by
  intro q info info'' hq hq'
  rw [hpeers, AList.lookup_insert_eq_ite] at hq'
  split_ifs at hq' with h
  · subst h
    cases hq'
    exact hs info hq
  · rw [hq] at hq'
    cases hq'
    exact SourcesRise.refl info

theorem entry_rises_of {p : PeerId} {info' : PeerInfo}
    (hr : (b.entry p).Rises info') : ∀ info, b.peers.lookup p = some info → info.Rises info' := by
  intro info hp
  rw [entry_of_lookup b hp] at hr
  exact hr

/-! ## One lemma per operation -/

theorem addAddress_peersRise (now : DateTime) (peer : PeerId) (address : Multiaddr)
    (source : AddressSource) : PeersRise b (b.addAddress now peer address source) := by
  by_cases h : b.acceptsAddress peer address = true
  · exact peersRise_insert (entry_rises_of (ingestAddress_rises _ _ _ _))
      (by rw [addAddress_peers, if_pos h])
  · exact peersRise_of_peers_eq (by rw [addAddress_peers, if_neg h])

theorem dialAddress_peersRise (peer : PeerId) (addr : Multiaddr) :
    PeersRise b (b.dialAddress peer addr) := by
  by_cases h : peer = b.settings.localPeerId
  · exact peersRise_of_peers_eq (by rw [dialAddress_peers, if_pos h])
  · exact peersRise_insert (entry_rises_of (Rises.refl _)) (by rw [dialAddress_peers, if_neg h])

theorem setRtt_peersRise (peer : PeerId) (rtt : Option Duration) :
    PeersRise b (b.setRtt peer rtt) := by
  intro q info hq
  rw [setRtt_lookup]
  split_ifs with h
  · subst h
    refine ⟨info.setRtt rtt, by simp [hq], rises_of_addresses_eq ?_⟩
    unfold PeerInfo.setRtt
    split <;> rfl
  · exact ⟨info, hq, Rises.refl info⟩

theorem connectionClosed_peersRise (now : DateTime) (peer : PeerId) (conn : ConnectedPoint)
    (numEstablished : Nat) (error : Option ConnectionError) :
    PeersRise b (b.connectionClosed now peer conn numEstablished error) := by
  refine peersRise_insert ?_ (connectionClosed_peers b now peer conn numEstablished error)
  exact entry_rises_of (rises_of_addresses_eq (by simp [pushFailure_false_addresses]))

/-- The record a connection callback writes keeps the addresses `add_address` left. -/
theorem peersRise_connections {p : PeerId} {conns : AList (fun _ : Multiaddr => DateTime × Direction)}
    (hpeers : b''.peers = b'.peers.insert p { b'.entry p with connections := conns })
    (h : PeersRise b b') : PeersRise b b'' := by
  refine h.trans (peersRise_insert ?_ hpeers)
  exact entry_rises_of (rises_of_addresses_eq rfl)

theorem injectConnectionEstablished_peersRise (now : DateTime) (peer : PeerId)
    (conn : ConnectedPoint) (otherEstablished : Nat) :
    PeersRise b (b.injectConnectionEstablished now peer conn otherEstablished) :=
  peersRise_connections (injectConnectionEstablished_peers b now peer conn otherEstablished)
    (addAddress_peersRise _ _ _ _)

theorem injectAddressChange_peersRise (now : DateTime) (peer : PeerId) (old new : ConnectedPoint) :
    PeersRise b (b.injectAddressChange now peer old new) :=
  peersRise_connections (injectAddressChange_peers b now peer old new)
    (addAddress_peersRise _ _ _ _)

theorem removeAddress_sourcesRise (peer : PeerId) (address : Multiaddr) :
    SourcesRise b (b.removeAddress peer address) := by
  intro q info info' hq hq'
  rw [removeAddress_lookup] at hq'
  split_ifs at hq' with h
  · subst h
    rw [hq] at hq'
    cases hq'
    exact (erase_shrinks info _).sourcesRise
  · rw [hq] at hq'
    cases hq'
    exact SourcesRise.refl info

theorem prunePeers_sourcesRise (now : DateTime) (minAge : Duration) :
    SourcesRise b (b.prunePeers now minAge) := by
  intro q info info' hq hq'
  rw [prunePeers_lookup, hq] at hq'
  have : info = info' := Option.some.inj (Option.filter_eq_some_iff.1 hq').1
  subst this
  exact SourcesRise.refl info

theorem transportFailureRecord_shrinks (now : DateTime) (peerId : PeerId) (info : PeerInfo)
    (v : List (Multiaddr × TransportError)) : info.Shrinks (transportFailureRecord now peerId info v) := by
  induction v generalizing info with
  | nil => exact Shrinks.refl info
  | cons ae v ih =>
    exact (pushFailure_shrinks _ _ _ _).trans (ih _)

theorem validationFailureRecord_shrinks (info : PeerInfo) (now : DateTime) (addr : Multiaddr)
    (error : DialError) : info.Shrinks (validationFailureRecord info now addr error) := by
  unfold validationFailureRecord
  dsimp only
  split_ifs
  · exact (pushFailure_shrinks _ _ _ _).trans (erase_shrinks _ _)
  · exact pushFailure_shrinks _ _ _ _

theorem injectDialFailure_sourcesRise (now : DateTime) (peerId : Option PeerId)
    (handler : IntoAddressHandler) (error : DialError) (rand : Nat → UInt32) :
    SourcesRise b (b.injectDialFailure now peerId handler error rand) := by
  have hpeers := injectDialFailure_peers b now peerId handler error rand
  rcases hq : handler.peerId.or peerId with _ | q
  · rw [hq] at hpeers
    exact (peersRise_of_peers_eq hpeers).sourcesRise
  rcases hl : b.peers.lookup q with _ | info
  · simp only [hq, hl] at hpeers
    exact (peersRise_of_peers_eq hpeers).sourcesRise
  have hinfo : ∀ info', b.peers.lookup q = some info' → info' = info := by
    intro info' h
    rw [hl] at h
    exact (Option.some.inj h).symm
  rcases hd : handler.ownDial with _ | ⟨addr, retries⟩
  · cases error with
    | transport v =>
      simp only [hq, hl, hd] at hpeers
      refine sourcesRise_insert (fun info' h => ?_) hpeers
      rw [hinfo info' h]
      exact (transportFailureRecord_shrinks _ _ _ _).sourcesRise
    | _ =>
      simp only [hq, hl, hd] at hpeers
      exact (peersRise_of_peers_eq hpeers).sourcesRise
  · simp only [hq, hl, hd] at hpeers
    refine sourcesRise_insert (fun info' h => ?_) hpeers
    rw [hinfo info' h]
    exact (validationFailureRecord_shrinks _ _ _ _).sourcesRise

/-! ## `set_info` -/

theorem setInfoIngest_rises (listeners : Finset Multiaddr) (portReuse : Bool) (peer : PeerId)
    (now : DateTime) (acc : PeerInfo × List NetworkBehaviourAction) (addr : Multiaddr) :
    acc.1.Rises (setInfoIngest listeners portReuse peer now acc addr).1 := by
  unfold setInfoIngest
  dsimp only
  split_ifs
  · exact Rises.refl _
  · exact (ingestAddress_rises _ _ _ _).trans (ingestAddress_rises _ _ _ _)
  · exact ingestAddress_rises _ _ _ _
  · exact ingestAddress_rises _ _ _ _

theorem foldl_setInfoIngest_rises (listeners : Finset Multiaddr) (portReuse : Bool)
    (peer : PeerId) (now : DateTime) (l : List Multiaddr) (acc : PeerInfo × List NetworkBehaviourAction) :
    acc.1.Rises (l.foldl (setInfoIngest listeners portReuse peer now) acc).1 := by
  induction l generalizing acc with
  | nil => exact Rises.refl _
  | cons addr l ih =>
    exact (setInfoIngest_rises _ _ _ _ acc addr).trans (ih _)

/-- The purge of `set_info` keeps every address that is not `Incoming`, unchanged. -/
theorem purgeIncoming_lookup (info : PeerInfo) (a : Multiaddr) :
    (purgeIncoming info).addresses.lookup a =
      (info.addresses.lookup a).filter fun v => !v.1.isToTranslate := by
  simp [purgeIncoming, AList.lookup_retain]

/-- Removing only `Incoming` addresses and then rising lowers no source: an address that
comes back had the lowest source. -/
theorem sourcesRise_of_purge_rises {info info' : PeerInfo}
    (h : (purgeIncoming info).Rises info') : info.SourcesRise info' := by
  intro a x y hx hy
  by_cases hi : x.1 = AddressSource.incoming
  · rw [hi]
    exact AddressSource.incoming_le _
  · have hp : (purgeIncoming info).addresses.lookup a = some x := by
      rw [purgeIncoming_lookup, hx]
      simp [Option.filter_some, (AddressSource.isToTranslate_iff x.1).not.2 hi]
    obtain ⟨s', t', ha, hs⟩ := h a x.1 x.2 hp
    rw [hy] at ha
    cases ha
    exact hs

theorem setInfo_sourcesRise {now : DateTime} {peer : PeerId} {identify : IdentifyInfo}
    (h : b.setInfo now peer identify = some b') : SourcesRise b b' := by
  rcases setInfo_eq_some h with ⟨-, rfl⟩ | ⟨info, ts, hl, -, rfl⟩
  · exact (PeersRise.refl _).sourcesRise
  · refine sourcesRise_insert (fun info' h' => ?_) rfl
    rw [hl] at h'
    cases h'
    -- `withIdentify` leaves the addresses alone, so the fold starts from the purged record
    show (withIdentify info identify).SourcesRise _
    exact sourcesRise_of_purge_rises
      (foldl_setInfoIngest_rises _ _ _ _ _ (purgeIncoming (withIdentify info identify), _))

end AddressBook

/-- Every call leaves each peer's common addresses with sources at least as high. -/
theorem BookOp.exec_sourcesRise {b b' : AddressBook} {now : DateTime} {op : BookOp}
    (h : op.exec b now = some b') : AddressBook.SourcesRise b b' := by
  cases op <;> simp only [BookOp.exec, Option.some.injEq] at h
  case setInfo peer identify => exact AddressBook.setInfo_sourcesRise h
  all_goals subst h
  case addAddress => exact (AddressBook.addAddress_peersRise _ _ _ _).sourcesRise
  case removeAddress => exact AddressBook.removeAddress_sourcesRise _ _
  case dial => exact (AddressBook.peersRise_of_peers_eq (AddressBook.dial_peers _ _)).sourcesRise
  case dialAddress => exact (AddressBook.dialAddress_peersRise _ _).sourcesRise
  case prunePeers => exact AddressBook.prunePeers_sourcesRise _ _
  case setRtt => exact (AddressBook.setRtt_peersRise _ _).sourcesRise
  case connectionClosed => exact (AddressBook.connectionClosed_peersRise _ _ _ _ _).sourcesRise
  case injectConnectionEstablished =>
    exact (AddressBook.injectConnectionEstablished_peersRise _ _ _ _).sourcesRise
  case injectAddressChange => exact (AddressBook.injectAddressChange_peersRise _ _ _ _).sourcesRise
  case injectDialFailure => exact AddressBook.injectDialFailure_sourcesRise _ _ _ _ _
  case injectNewListenAddr => exact (AddressBook.peersRise_of_peers_eq rfl).sourcesRise
  case injectExpiredListenAddr => exact (AddressBook.peersRise_of_peers_eq rfl).sourcesRise
  case poll => exact (AddressBook.peersRise_of_peers_eq rfl).sourcesRise

/-- **Address sources only rise.**  For every state and every call, an address a peer has
both before and after the call is filed after it under a source at least as high; so an
address with a confirmed source still has one. -/
theorem exec_source_le {b b' : AddressBook} {now : DateTime} {op : BookOp}
    (h : op.exec b now = some b') {p : PeerId} {info info' : PeerInfo}
    (hp : b.peers.lookup p = some info) (hp' : b'.peers.lookup p = some info')
    {a : Multiaddr} {s s' : AddressSource} {t t' : DateTime}
    (ha : info.addresses.lookup a = some (s, t)) (ha' : info'.addresses.lookup a = some (s', t')) :
    s ≤ s' ∧ (s.isConfirmed = true → s'.isConfirmed = true) := by
  have hle : s ≤ s' := BookOp.exec_sourcesRise h p info info' hp hp' a (s, t) (s', t') ha ha'
  exact ⟨hle, AddressSource.isConfirmed_mono hle⟩

/-- An address of peer `1` learnt from a listen address is raised to `Dial` when a dial of it
succeeds. -/
theorem exec_source_le_listen_dial :
    AddressSource.listen ≤ AddressSource.dial ∧
      (AddressSource.listen.isConfirmed = true → AddressSource.dial.isConfirmed = true) :=
  @exec_source_le
    ((AddressBook.new ⟨0⟩ false true false).addAddress 0 ⟨1⟩ ⟨[.ip4 ⟨1, 2, 3, 4⟩, .tcp 4001]⟩ .listen)
    (((AddressBook.new ⟨0⟩ false true false).addAddress 0 ⟨1⟩
      ⟨[.ip4 ⟨1, 2, 3, 4⟩, .tcp 4001]⟩ .listen).addAddress 5 ⟨1⟩ ⟨[.ip4 ⟨1, 2, 3, 4⟩, .tcp 4001]⟩ .dial)
    5 (.addAddress ⟨1⟩ ⟨[.ip4 ⟨1, 2, 3, 4⟩, .tcp 4001]⟩ .dial) rfl ⟨1⟩ _ _ rfl rfl
    ⟨[.ip4 ⟨1, 2, 3, 4⟩, .tcp 4001, .p2p (.peer ⟨1⟩)]⟩ .listen .dial 0 5 (by decide) (by decide)

end IpfsEmbed
