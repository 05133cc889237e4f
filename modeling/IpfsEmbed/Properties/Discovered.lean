import IpfsEmbed.Properties.Loopback

/-!
# When the book reports a discovered peer

`Event::Discovered(p)` is meant to mark the moment peer `p` gets its first address with a
confirmed source (`Candidate`, `User` or `Dial`).  The only call that emits it is
`add_address`, which does so when the peer had no confirmed address and the address comes
with a confirmed source; the law holds there exactly.

`set_info` can confirm an address too: with `port_reuse`, a newly learnt listen address that
we are already connected on is raised to `Candidate` and offered to the swarm instead of being
dialled.  It emits no `Discovered`, so a peer first confirmed that way is never reported.
-/

namespace IpfsEmbed

namespace PeerInfo

theorem hasConfirmed_iff (info : PeerInfo) :
    info.hasConfirmed = true ↔
      ∃ a s t, info.addresses.lookup a = some (s, t) ∧ s.isConfirmed = true := by
  simp only [hasConfirmed, List.any_eq_true]
  constructor
  · rintro ⟨⟨a, s, t⟩, he, hs⟩
    exact ⟨a, s, t, AList.mem_lookup_iff.2 he, hs⟩
  · rintro ⟨a, s, t, ha, hs⟩
    exact ⟨⟨a, s, t⟩, AList.mem_lookup_iff.1 ha, hs⟩

/-- On a record without confirmed addresses, ingesting confirms one exactly when the source
is confirmed: `ingest_address` keeps the higher of two sources, and only the ingested address
changes. -/
theorem hasConfirmed_ingestAddress {info : PeerInfo} (h : info.hasConfirmed = false)
    (now : DateTime) (addr : Multiaddr) (source : AddressSource) :
    (info.ingestAddress now addr source).1.hasConfirmed = source.isConfirmed := by
  have hnone : ∀ a s t, info.addresses.lookup a = some (s, t) → s.isConfirmed = false := by
    intro a s t ha
    by_contra hs
    rw [Bool.not_eq_false] at hs
    rw [← Bool.not_eq_true] at h
    exact h ((hasConfirmed_iff info).2 ⟨a, s, t, ha, hs⟩)
  -- the ingested address ends at the higher of its old source and `source`
  have hself : (ingestedSource source (info.addresses.lookup addr)).isConfirmed =
      source.isConfirmed := by
    cases hold : info.addresses.lookup addr with
    | none => rfl
    | some v =>
      obtain ⟨src, t⟩ := v
      have hsrc := hnone addr src t hold
      simp only [ingestedSource]
      rw [Bool.eq_iff_iff, AddressSource.isConfirmed_iff, AddressSource.isConfirmed_iff,
        le_max_iff]
      rw [← Bool.not_eq_true, AddressSource.isConfirmed_iff] at hsrc
      exact ⟨fun h' => h'.resolve_left hsrc, .inr⟩
  rw [Bool.eq_iff_iff, hasConfirmed_iff]
  constructor
  · rintro ⟨a, s, t, ha, hs⟩
    by_cases hab : a = addr
    · subst hab
      rw [ingestAddress_lookup_self, Option.some.injEq, Prod.mk.injEq] at ha
      rw [← hself, ha.1, hs]
    · rw [ingestAddress_lookup_of_ne hab] at ha
      rw [hnone a s t ha] at hs
      cases hs
  · intro hs
    exact ⟨addr, _, now, ingestAddress_lookup_self _ _ _ _, hself.trans hs⟩

end PeerInfo

namespace AddressBook

open PeerInfo

/-- Whether the book has a record for `p` with a confirmed address. -/
def peerConfirmed (b : AddressBook) (p : PeerId) : Bool :=
  (b.peers.lookup p).any PeerInfo.hasConfirmed

theorem peerConfirmed_eq_entry (b : AddressBook) (p : PeerId) :
    b.peerConfirmed p = (b.entry p).hasConfirmed := by
  unfold peerConfirmed entry
  cases b.peers.lookup p with
  | none => rfl
  | some info => rfl

theorem addAddress_events (b : AddressBook) (now : DateTime) (peer : PeerId)
    (address : Multiaddr) (source : AddressSource) :
    (b.addAddress now peer address source).events =
      if b.acceptsAddress peer address then
        b.events ++ ((if !b.peerConfirmed peer && source.isConfirmed then [.discovered peer]
          else []) ++ [.newInfo peer])
      else b.events := by
  cases h : b.acceptsAddress peer address
  · rw [addAddress_of_not_accepts b h]
    rfl
  · rw [addAddress_of_accepts b h, if_pos rfl]
    dsimp only
    unfold peerConfirmed
    split_ifs <;> simp

/-- **`add_address` keeps the discovery law.**  It reports `p` as discovered exactly when `p`
had no confirmed address before the call and has one after it. -/
theorem addAddress_discovered_iff (b : AddressBook) (now : DateTime) (peer : PeerId)
    (address : Multiaddr) (source : AddressSource) (p : PeerId) :
    Event.discovered p ∈ (b.addAddress now peer address source).events.drop b.events.length ↔
      b.peerConfirmed p = false ∧ (b.addAddress now peer address source).peerConfirmed p = true := by
  rw [addAddress_events]
  cases hacc : b.acceptsAddress peer address
  · -- a refused address changes nothing, so nothing is confirmed that was not before
    rw [addAddress_of_not_accepts b hacc]
    simp
  · rw [if_pos rfl, List.drop_left]
    have hlookup : ∀ q, (b.addAddress now peer address source).peers.lookup q =
        if q = peer then some ((b.entry peer).ingestAddress now (normalizeAddrRef address peer)
          source).1 else b.peers.lookup q := by
      intro q
      rw [addAddress_peers, if_pos hacc, AList.lookup_insert_eq_ite]
    by_cases hp : p = peer
    · subst hp
      have hafter : (b.addAddress now p address source).peerConfirmed p =
          ((b.entry p).ingestAddress now (normalizeAddrRef address p) source).1.hasConfirmed := by
        rw [peerConfirmed, hlookup, if_pos rfl, Option.any_some]
      rw [hafter]
      cases hbefore : b.peerConfirmed p
      · rw [peerConfirmed_eq_entry] at hbefore
        rw [hasConfirmed_ingestAddress hbefore]
        cases source.isConfirmed <;> simp
      · simp
    · have hafter : (b.addAddress now peer address source).peerConfirmed p = b.peerConfirmed p := by
        simp only [peerConfirmed, hlookup, if_neg hp]
      rw [hafter]
      split_ifs <;> simp [hp]

/-- With port reuse, a peer that connected to us from `1.2.3.4:4001` and then advertises that
address as a listen address has it raised to `Candidate` by `set_info`: the peer has a
confirmed address for the first time, and no `Discovered` is ever reported. -/
theorem setInfo_confirms_without_discovered :
    ((AddressBook.new ⟨0⟩ true false false).injectConnectionEstablished 0 ⟨1⟩
        (.listener ⟨[.ip4 ⟨10, 0, 0, 1⟩, .tcp 4001]⟩ ⟨[.ip4 ⟨1, 2, 3, 4⟩, .tcp 4001]⟩) 0).peerConfirmed
        ⟨1⟩ = false ∧
    ∃ b', ((AddressBook.new ⟨0⟩ true false false).injectConnectionEstablished 0 ⟨1⟩
        (.listener ⟨[.ip4 ⟨10, 0, 0, 1⟩, .tcp 4001]⟩ ⟨[.ip4 ⟨1, 2, 3, 4⟩, .tcp 4001]⟩) 0).setInfo 1
        ⟨1⟩ ⟨"ipfs/0.1.0", "ipfs-embed", [⟨[.ip4 ⟨1, 2, 3, 4⟩, .tcp 4001]⟩], []⟩ = some b' ∧
      b'.peerConfirmed ⟨1⟩ = true ∧ Event.discovered ⟨1⟩ ∉ b'.events :=
  ⟨by decide, _, rfl, by decide, by decide⟩

end AddressBook

end IpfsEmbed
