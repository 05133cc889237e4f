import IpfsEmbed.Properties.Sources
import IpfsEmbed.Properties.DialFailure

/-!
# Addresses the book keeps

An address the node's user gave (`User`) or that a connection we dialled proved (`Dial`) is
meant to stay in the book.  `prune_peers` keeps every peer with a confirmed address, the purge
of `set_info` touches only `Incoming` addresses, a failed dial forgets only addresses still to
probe, and a closed connection forgets none.  Two calls forget such an address:
`remove_address` of it, and a validation dial of it that another peer answers (`WrongPeerId`),
after which the book kills the address "regardless of whether it was confirmed".

The result of this module is that along every run of the book, from any state, under any calls
but these two, a `User` or `Dial` address of a peer stays filed for it, under `User` or `Dial`.  `Candidate`, the third confirmed source, is not durable: it is also
an address to probe, and a failed dial of it forgets it.

`KeepsAddress D p a` relates two states of the book: the address `a` of `p`, filed under a
source that `D` allows, is still filed after, under a source at least as high.  Every call is
`KeepsAddress` for the sources it cannot remove (`BookOp.exec_keepsAddress`), and the relation
composes along a run when `D` is closed upwards.
-/

namespace IpfsEmbed

namespace AddressSource

/-- The sources of the addresses meant to stay: given by the user, or proved by a dial. -/
def isDurable : AddressSource → Bool
  | user | dial => true
  | _ => false

/-- `User` and `Dial` are the two highest sources. -/
theorem isDurable_mono {s s' : AddressSource} (h : s.isDurable = true) (hle : s ≤ s') :
    s'.isDurable = true := by
  cases s <;> cases s' <;> first | rfl | exact absurd hle (by decide) | cases h

theorem isConfirmed_of_isDurable {s : AddressSource} (h : s.isDurable = true) :
    s.isConfirmed = true := by
  cases s <;> first | rfl | cases h

theorem isToProbe_of_isDurable {s : AddressSource} (h : s.isDurable = true) :
    s.isToProbe = false := by
  cases s <;> first | rfl | cases h

theorem isToTranslate_of_isDurable {s : AddressSource} (h : s.isDurable = true) :
    s.isToTranslate = false := by
  cases s <;> first | rfl | cases h

end AddressSource

/-! ## Records that keep an address -/

namespace AddressBook

open PeerInfo

/-- A record with a confirmed address is never pruned. -/
theorem isPrunable_of_isConfirmed {info : PeerInfo} {a : Multiaddr} {s : AddressSource}
    {t : DateTime} (ha : info.addresses.lookup a = some (s, t)) (hs : s.isConfirmed = true)
    (now : DateTime) (minAge : Duration) : isPrunable info now minAge = false := by
  have hmem : (⟨a, (s, t)⟩ : Sigma fun _ : Multiaddr => AddressSource × DateTime) ∈
      info.addresses.entries := AList.mem_lookup_iff.1 ha
  unfold isPrunable
  split_ifs
  · rfl
  · rfl
  · simp only [Bool.not_eq_false', List.any_eq_true]
    exact ⟨_, hmem, by simp [hs]⟩

/-- The address `a` of `p`, filed in `b` under a source `D` allows, is filed in `b'` under a
source at least as high. -/
def KeepsAddress (D : AddressSource → Prop) (p : PeerId) (a : Multiaddr) (b b' : AddressBook) :
    Prop :=
  ∀ info s t, b.peers.lookup p = some info → info.addresses.lookup a = some (s, t) → D s →
    ∃ info' s' t', b'.peers.lookup p = some info' ∧ info'.addresses.lookup a = some (s', t') ∧
      s ≤ s'

variable {D : AddressSource → Prop} {p : PeerId} {a : Multiaddr} {b b' b'' : AddressBook}

namespace KeepsAddress

theorem refl (b : AddressBook) : KeepsAddress D p a b b :=
  fun info s t hp ha _ => ⟨info, s, t, hp, ha, le_refl s⟩

/-- Keeping composes when the sources `D` allows are closed upwards. -/
theorem trans (hD : ∀ s s', D s → s ≤ s' → D s') (h₁ : KeepsAddress D p a b b')
    (h₂ : KeepsAddress D p a b' b'') : KeepsAddress D p a b b'' := by
  intro info s t hp ha hs
  obtain ⟨info₁, s₁, t₁, hp₁, ha₁, hle₁⟩ := h₁ info s t hp ha hs
  obtain ⟨info₂, s₂, t₂, hp₂, ha₂, hle₂⟩ := h₂ info₁ s₁ t₁ hp₁ ha₁ (hD s s₁ hs hle₁)
  exact ⟨info₂, s₂, t₂, hp₂, ha₂, le_trans hle₁ hle₂⟩

/-- A call after which the record of `p` is the old one, or does not exist where it did not. -/
theorem of_lookup_eq (h : b'.peers.lookup p = b.peers.lookup p) : KeepsAddress D p a b b' :=
  fun info s t hp ha _ => ⟨info, s, t, h ▸ hp, ha, le_refl s⟩

end KeepsAddress

theorem PeersRise.keepsAddress (h : PeersRise b b') : KeepsAddress D p a b b' := by
  intro info s t hp ha _
  obtain ⟨info', hp', hr⟩ := h p info hp
  obtain ⟨s', t', ha', hle⟩ := hr a s t ha
  exact ⟨info', s', t', hp', ha', hle⟩

/-! ## The calls that may forget an address -/

section Calls

variable (b) (now : DateTime)

theorem removeAddress_keepsAddress {peer : PeerId} {address : Multiaddr}
    (h : ¬(peer = p ∧ normalizeAddrRef address peer = a)) :
    KeepsAddress D p a b (b.removeAddress peer address) := by
  intro info s t hp ha _
  rw [removeAddress_lookup]
  split_ifs with hq
  · -- the erased key is another address of `p`
    subst hq
    have hne : a ≠ normalizeAddrRef address p := fun he => h ⟨rfl, he.symm⟩
    refine ⟨_, s, t, by rw [hp]; rfl, ?_, le_refl s⟩
    rw [AList.lookup_erase_ne hne]
    exact ha
  · exact ⟨info, s, t, hp, ha, le_refl s⟩

/-- `prune_peers` keeps every peer with a confirmed address, and its record unchanged. -/
theorem prunePeers_keepsAddress (minAge : Duration) :
    KeepsAddress (·.isConfirmed = true) p a b (b.prunePeers now minAge) := by
  intro info s t hp ha hs
  refine ⟨info, s, t, ?_, ha, le_refl s⟩
  rw [prunePeers_lookup, hp, Option.filter_some, isPrunable_of_isConfirmed ha hs now minAge]
  rfl

/-- `set_info` purges `Incoming` addresses and only raises the others. -/
theorem setInfo_keepsAddress {peer : PeerId} {identify : IdentifyInfo}
    (he : b.setInfo now peer identify = some b') :
    KeepsAddress (·.isToTranslate = false) p a b b' := by
  rcases setInfo_eq_some he with ⟨-, rfl⟩ | ⟨info₀, ts, hl, -, rfl⟩
  · exact .refl _
  intro info s t hp ha hs
  by_cases hq : p = peer
  · subst hq
    rw [hl] at hp
    cases hp
    -- the purge keeps the address, and the loop over the candidates raises it
    have hpurge : (purgeIncoming (withIdentify info₀ identify)).addresses.lookup a = some (s, t) := by
      rw [purgeIncoming_lookup]
      exact Option.filter_eq_some_iff.2 ⟨ha, by simp [hs]⟩
    obtain ⟨s', t', ha', hle⟩ :=
      foldl_setInfoIngest_rises _ _ _ _ _ (purgeIncoming (withIdentify info₀ identify), _) a s t hpurge
    exact ⟨(ingestCandidates b now p (withIdentify info₀ identify) ts).1, s', t', by simp, ha', hle⟩
  · exact ⟨info, s, t, by simp [hq, hp], ha, le_refl s⟩

/-- A failed dial forgets only an address it reports for the peer it is booked against, and only
under a source that `forgets` says it settles. -/
theorem injectDialFailure_keepsAddress {peerId : Option PeerId} {handler : IntoAddressHandler}
    {error : DialError} (rand : Nat → UInt32)
    (h : handler.peerId.or peerId = some p → ∀ s, D s →
      ¬(a ∈ failedAddresses handler p error ∧ forgets error s = true)) :
    KeepsAddress D p a b (b.injectDialFailure now peerId handler error rand) := by
  intro info s t hp ha hs
  by_cases hq : handler.peerId.or peerId = some p
  · rw [injectDialFailure_lookup_self b now peerId handler error rand hq hp]
    rcases dialFailureRecord_removesOnly now p info handler error a with h' | ⟨-, s₀, t₀, ha₀, hf⟩
    · exact ⟨_, s, t, rfl, h'.trans ha, le_refl s⟩
    · -- the address removed had the source `s`, which the failure does not settle
      rw [ha] at ha₀
      cases ha₀
      exact absurd hf (h hq s hs)
  · exact ⟨info, s, t, by rw [injectDialFailure_lookup_of_ne b now peerId handler error rand (.inl hq), hp],
      ha, le_refl s⟩

end Calls

/-- A failure that settles a durable address is a wrong peer answering our validation dial of
that very address. -/
theorem isWrongPeerId_of_forgets {handler : IntoAddressHandler} {q : PeerId} {error : DialError}
    {s : AddressSource} (hs : s.isDurable = true) (ha : a ∈ failedAddresses handler q error)
    (hf : forgets error s = true) :
    error.isWrongPeerId = true ∧ handler.ownDial.map Prod.fst = some a := by
  have hw : error.isWrongPeerId = true := by
    simpa [forgets, AddressSource.isToProbe_of_isDurable hs] using hf
  refine ⟨hw, ?_⟩
  unfold failedAddresses at ha
  rcases hd : handler.ownDial with _ | ⟨addr, retries⟩
  · -- a wrong peer is no transport error, so no address is reported
    rw [hd] at ha
    cases error <;> simp_all [DialError.isWrongPeerId]
  · rw [hd] at ha
    rw [List.mem_singleton.1 ha]
    rfl

end AddressBook

/-! ## Every run -/

/-- The calls that forget the durable address `a` of `p`: `remove_address` of it, and our
validation dial of it failing with `WrongPeerId`. -/
def BookOp.forgetsDurable (p : PeerId) (a : Multiaddr) : BookOp → Bool
  | .removeAddress peer address => decide (peer = p ∧ normalizeAddrRef address peer = a)
  | .injectDialFailure peerId handler error _ =>
    decide (handler.peerId.or peerId = some p) && error.isWrongPeerId &&
      decide (handler.ownDial.map Prod.fst = some a)
  | _ => false

open AddressBook

/-- **Every other call keeps a durable address.** -/
theorem BookOp.exec_keepsAddress {b b' : AddressBook} {now : DateTime} {op : BookOp}
    {p : PeerId} {a : Multiaddr} (hop : op.forgetsDurable p a = false)
    (he : op.exec b now = some b') : KeepsAddress (·.isDurable = true) p a b b' := by
  cases op with
  | removeAddress peer address =>
    cases he
    refine removeAddress_keepsAddress b ?_
    simpa [BookOp.forgetsDurable] using hop
  | prunePeers minAge =>
    cases he
    intro info s t hp ha hs
    exact prunePeers_keepsAddress b now minAge info s t hp ha (AddressSource.isConfirmed_of_isDurable hs)
  | setInfo peer identify =>
    intro info s t hp ha hs
    exact setInfo_keepsAddress b now he info s t hp ha (AddressSource.isToTranslate_of_isDurable hs)
  | injectDialFailure peerId handler error rand =>
    cases he
    refine injectDialFailure_keepsAddress b now rand fun hq s hs ⟨ha, hf⟩ => ?_
    -- the failure would be our validation dial of `a` answered by another peer
    obtain ⟨hw, hd⟩ := isWrongPeerId_of_forgets hs ha hf
    simp [BookOp.forgetsDurable, hq, hw, hd] at hop
  | addAddress peer address source =>
    cases he
    exact (addAddress_peersRise now peer address source).keepsAddress
  | dial peer =>
    cases he
    exact (peersRise_of_peers_eq (dial_peers b peer)).keepsAddress
  | dialAddress peer addr =>
    cases he
    exact (dialAddress_peersRise peer addr).keepsAddress
  | setRtt peer rtt =>
    cases he
    exact (setRtt_peersRise peer rtt).keepsAddress
  | connectionClosed peer conn n error =>
    cases he
    exact (connectionClosed_peersRise now peer conn n error).keepsAddress
  | injectConnectionEstablished peer conn n =>
    cases he
    exact (injectConnectionEstablished_peersRise now peer conn n).keepsAddress
  | injectAddressChange peer old new =>
    cases he
    exact (injectAddressChange_peersRise now peer old new).keepsAddress
  | injectNewListenAddr | injectExpiredListenAddr | poll =>
    cases he
    exact KeepsAddress.of_lookup_eq rfl

/-- **The book keeps what the user gave and what a dial proved.**  Along every run of the book,
from any state, under any calls but `remove_address` of the address and a validation dial of it
failing with `WrongPeerId`, an address of a peer filed under `User` or `Dial` stays filed for
that peer, under `User` or `Dial`: no prune, no Identify information, no other dial failure and
no closed connection forgets it. -/
theorem durable_address_kept {b b' : AddressBook} {p : PeerId} {a : Multiaddr}
    (hr : Reach.Reachable (bookStep fun _ call => call.2.forgetsDurable p a = false) b b')
    {info : PeerInfo} {s : AddressSource} {t : DateTime}
    (hp : b.peers.lookup p = some info) (ha : info.addresses.lookup a = some (s, t))
    (hs : s = .user ∨ s = .dial) :
    ∃ info' s' t', b'.peers.lookup p = some info' ∧ info'.addresses.lookup a = some (s', t') ∧
      s ≤ s' ∧ (s' = .user ∨ s' = .dial) := by
  have hdur : s.isDurable = true := by
    rcases hs with rfl | rfl <;> rfl
  -- every step keeps the address, and keeping composes as durable sources only rise
  have hk : KeepsAddress (·.isDurable = true) p a b b' := by
    refine Reach.Reachable.rel (.refl b)
      (fun h₁ h₂ => h₁.trans (fun _ _ => AddressSource.isDurable_mono) h₂) ?_ hr
    rintro b₁ b₂ ⟨⟨now, op⟩, hop, he⟩
    exact BookOp.exec_keepsAddress hop he
  obtain ⟨info', s', t', hp', ha', hle⟩ := hk info s t hp ha hdur
  refine ⟨info', s', t', hp', ha', hle, ?_⟩
  have hdur' := AddressSource.isDurable_mono hdur hle
  cases s' <;> first | exact .inl rfl | exact .inr rfl | cases hdur'

/-- The user gives `/ip4/10.0.0.1/tcp/4001` for peer 1; the peers are pruned and a dial of peer
1 fails at that address: the failure is booked, and the address is still filed as `User`. -/
theorem durable_address_kept_after_failure :
    ∃ b', Reach.Reachable (bookStep fun _ call => call.2.forgetsDurable ⟨1⟩
        ⟨[.ip4 ⟨10, 0, 0, 1⟩, .tcp 4001, .p2p (.peer ⟨1⟩)]⟩ = false)
        ((AddressBook.new ⟨0⟩ false false false).addAddress 0 ⟨1⟩
          ⟨[.ip4 ⟨10, 0, 0, 1⟩, .tcp 4001]⟩ .user) b' ∧
      (b'.peers.lookup ⟨1⟩).map (fun info => info.failures.length) = some 1 ∧
      ∃ info' s' t', b'.peers.lookup ⟨1⟩ = some info' ∧
        info'.addresses.lookup ⟨[.ip4 ⟨10, 0, 0, 1⟩, .tcp 4001, .p2p (.peer ⟨1⟩)]⟩ = some (s', t') ∧
        AddressSource.user ≤ s' ∧ (s' = .user ∨ s' = .dial) := by
  have hr : Reach.Reachable (bookStep fun _ call => call.2.forgetsDurable ⟨1⟩
      ⟨[.ip4 ⟨10, 0, 0, 1⟩, .tcp 4001, .p2p (.peer ⟨1⟩)]⟩ = false)
      ((AddressBook.new ⟨0⟩ false false false).addAddress 0 ⟨1⟩
        ⟨[.ip4 ⟨10, 0, 0, 1⟩, .tcp 4001]⟩ .user) _ :=
    Reach.Reachable.tail (Reach.Reachable.tail Reach.Reachable.refl
      ⟨(5, .prunePeers 0), rfl, rfl⟩)
      ⟨(5, .injectDialFailure (some ⟨1⟩) ⟨none, false⟩
        (.transport [(⟨[.ip4 ⟨10, 0, 0, 1⟩, .tcp 4001]⟩,
          .multiaddrNotSupported ⟨[.ip4 ⟨10, 0, 0, 1⟩, .tcp 4001]⟩)]) fun _ => 0), rfl, rfl⟩
  exact ⟨_, hr, by decide, durable_address_kept hr rfl rfl (.inl rfl)⟩

/-- The hypothesis on the calls is needed: `remove_address` forgets a `User` address. -/
example :
    ((((AddressBook.new ⟨0⟩ false false false).addAddress 0 ⟨1⟩
        ⟨[.ip4 ⟨10, 0, 0, 1⟩, .tcp 4001]⟩ .user).removeAddress ⟨1⟩
        ⟨[.ip4 ⟨10, 0, 0, 1⟩, .tcp 4001]⟩).peers.lookup ⟨1⟩).map (fun info => info.addresses.keys) =
      some [] := by
  decide

end IpfsEmbed
