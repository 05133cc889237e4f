import IpfsEmbed.Properties.Events

/-!
# Every change of a record is announced

A subscriber learns of a change of a peer's record through `NewInfo(peer)`: the CLI answers it
by reading the record again and printing it (`PeerInfo`), or `PeerRemoved` when it is gone.  The
book sends `NewInfo` at the end of `add_address`, `set_rtt`, `set_info`, `connection_closed`, a
failed dial and for each peer `prune_peers` removes.  Three calls change a record without it:
`remove_address` forgets an address silently, `dial_address` files an empty record for an
unknown peer, and a connection callback whose remote address `add_address` refuses (our own
peer, a loopback address with loopback off, one of our listen addresses) still files the
connection.

The result of this module is that these are the only ones: along every run of the book, from
any state, under calls none of which is one of these three cases, every peer whose record
differs at the end was announced with `NewInfo` in between.

This is a statement about runs of calls, not about the order of the writes and the events
inside one call.  `inject_connection_established` and `inject_address_change` send their
`NewInfo` from `add_address` and write the connection after it, with no `NewInfo` after the
write: a subscriber that reads the record again as soon as it is told may read it before the
connection is in it, and is told of the connection only by `ConnectionEstablished` or
`AddressChanged`.

`Announces b b'` is that relation between two states; each call is `Announces` unless it is
silent (`BookOp.exec_announces`), and the relation composes along a run.  A call that writes one
record (`OnlyPeer`) is `Announces` when it sends `NewInfo` for that record.
-/

namespace IpfsEmbed

namespace AddressBook

/-- From `b` to `b'` the book only appended events, among them `NewInfo` for every peer whose
record changed. -/
def Announces (b b' : AddressBook) : Prop :=
  ∃ new, b'.events = b.events ++ new ∧
    ∀ p, b'.peers.lookup p ≠ b.peers.lookup p → Event.newInfo p ∈ new

variable {b b' b'' : AddressBook} {peer : PeerId}

namespace Announces

theorem refl (b : AddressBook) : Announces b b :=
  ⟨[], (List.append_nil _).symm, fun _ h => absurd rfl h⟩

theorem trans (h₁ : Announces b b') (h₂ : Announces b' b'') : Announces b b'' := by
  obtain ⟨new₁, he₁, hn₁⟩ := h₁
  obtain ⟨new₂, he₂, hn₂⟩ := h₂
  refine ⟨new₁ ++ new₂, by rw [he₂, he₁, List.append_assoc], fun p hp => ?_⟩
  -- a record that differs at the end changed in the first stretch or in the second
  by_cases h : b'.peers.lookup p = b.peers.lookup p
  · rw [← h] at hp
    exact List.mem_append_right new₁ (hn₂ p hp)
  · exact List.mem_append_left new₂ (hn₁ p h)

/-- A call that leaves every record as it was. -/
theorem of_lookup_eq (hp : ∀ q, b'.peers.lookup q = b.peers.lookup q)
    (he : ∃ new, b'.events = b.events ++ new) : Announces b b' := by
  obtain ⟨new, he⟩ := he
  exact ⟨new, he, fun q h => absurd (hp q) h⟩

theorem of_peers_eq (hp : b'.peers = b.peers) (he : ∃ new, b'.events = b.events ++ new) :
    Announces b b' :=
  of_lookup_eq (fun q => by rw [hp]) he

/-- A call that changes the record of `peer` alone and sends `NewInfo(peer)`. -/
theorem of_mem (hp : OnlyPeer peer b b')
    (he : ∃ new, b'.events = b.events ++ new ∧ Event.newInfo peer ∈ new) : Announces b b' := by
  obtain ⟨new, he, hmem⟩ := he
  refine ⟨new, he, fun q hq => ?_⟩
  by_cases h : q = peer
  · rw [h]
    exact hmem
  · exact absurd (hp q h) hq

/-- A call that changes the record of `peer` alone and ends with `NewInfo(peer)`. -/
theorem notify_newInfo (hp : OnlyPeer peer b b') (he : ∃ new, b'.events = b.events ++ new) :
    Announces b (b'.notify (.newInfo peer)) := by
  obtain ⟨new, he⟩ := he
  exact of_mem hp ⟨new ++ [.newInfo peer], by rw [notify_events, he, List.append_assoc],
    List.mem_append_right new (List.mem_singleton_self _)⟩

end Announces

theorem Sends.appends {P : Event → Prop} (h : Sends P b b') :
    ∃ new, b'.events = b.events ++ new :=
  h.events.imp fun _ h => h.1

/-! ## One lemma per call -/

section Calls

variable (b) (now : DateTime)

theorem addAddress_announces (address : Multiaddr) (source : AddressSource) :
    Announces b (b.addAddress now peer address source) := by
  cases h : b.acceptsAddress peer address
  · rw [addAddress_of_not_accepts b h]
    exact .refl b
  · exact .of_mem (addAddress_onlyPeer b now address source)
      ⟨_, by rw [addAddress_events, if_pos h], by simp⟩

/-- `remove_address` of an unknown peer does nothing. -/
theorem removeAddress_announces {address : Multiaddr} (h : b.peers.lookup peer = none) :
    Announces b (b.removeAddress peer address) := by
  unfold removeAddress
  rw [h]
  exact .refl b

/-- `dial_address` of a known peer writes its record back unchanged. -/
theorem dialAddress_announces {addr : Multiaddr} {info : PeerInfo}
    (h : b.peers.lookup peer = some info) : Announces b (b.dialAddress peer addr) := by
  refine .of_lookup_eq (fun q => ?_) (sends_dialAddress b peer addr).appends
  rw [dialAddress_peers]
  split_ifs
  · rfl
  · rw [entry_of_lookup b h, AList.lookup_insert_eq_ite]
    split_ifs with hq
    · rw [hq, h]
    · rfl

theorem prunePeers_events (minAge : Duration) :
    (b.prunePeers now minAge).events =
      b.events ++ ((b.peers.entries.filter fun e => isPrunable e.2 now minAge).map (·.1)).map
        .newInfo := by
  unfold prunePeers
  generalize (b.peers.entries.filter fun e => isPrunable e.2 now minAge).map (·.1) = l
  induction l generalizing b with
  | nil => simp
  | cons p l ih =>
    rw [List.foldl_cons, ih]
    simp

/-- `prune_peers` sends `NewInfo` for each peer it removes. -/
theorem prunePeers_announces (minAge : Duration) : Announces b (b.prunePeers now minAge) := by
  refine ⟨_, prunePeers_events b now minAge, fun p hp => ?_⟩
  rw [prunePeers_lookup] at hp
  cases hl : b.peers.lookup p with
  | none =>
    rw [hl] at hp
    exact absurd rfl hp
  | some info =>
    -- the record is gone, so the test found it prunable
    have hpr : isPrunable info now minAge = true := by
      by_contra hn
      simp [hl, Bool.eq_false_iff.2 hn] at hp
    simp only [List.map_map, List.mem_map, List.mem_filter]
    exact ⟨⟨p, info⟩, ⟨AList.mem_lookup_iff.1 hl, hpr⟩, rfl⟩

theorem setRtt_announces (rtt : Option Duration) : Announces b (b.setRtt peer rtt) := by
  unfold setRtt
  cases hl : b.peers.lookup peer with
  | none => exact .refl b
  | some info => exact .notify_newInfo (onlyPeer_insert rfl) ⟨[], by simp⟩

theorem setInfo_announces {identify : IdentifyInfo} (he : b.setInfo now peer identify = some b') :
    Announces b b' := by
  rcases setInfo_eq_some he with ⟨-, rfl⟩ | ⟨info, ts, -, -, rfl⟩
  · exact .refl _
  · exact .notify_newInfo (onlyPeer_insert rfl) ⟨[], by simp⟩

theorem connectionClosed_announces (conn : ConnectedPoint) (n : Nat)
    (error : Option ConnectionError) : Announces b (b.connectionClosed now peer conn n error) :=
  .of_mem (connectionClosed_onlyPeer b now conn n error)
    ⟨_, by rw [connectionClosed_events, List.append_assoc], by simp⟩

/-- A loop whose steps append no event appends none. -/
theorem foldl_events_eq {α : Type} (g : AddressBook → α → AddressBook)
    (hg : ∀ b x, (g b x).events = b.events) (l : List α) (b : AddressBook) :
    (l.foldl g b).events = b.events := by
  induction l generalizing b with
  | nil => rfl
  | cons x l ih => rw [List.foldl_cons, ih, hg]

theorem transportDialFailure_announces (q : PeerId) (info : PeerInfo)
    (v : List (Multiaddr × TransportError)) (rand : Nat → UInt32) :
    Announces b (b.transportDialFailure now q info v rand) := by
  unfold transportDialFailure
  dsimp only
  generalize v.foldl (transportFailureStep b.settings.keepAlive now q) (info, [], []) = r
  -- the record of `q`, the failures, `Unreachable` when no redial is due, the redials
  refine .notify_newInfo (onlyPeer_insert (v := r.1) ?_) ⟨r.2.1 ++
    (if r.2.2.isEmpty then [.unreachable q] else []), ?_⟩
  · rw [foldl_peers_eq]
    · split_ifs <;> simp [foldl_notify]
    · intro _ _
      rfl
  · rw [foldl_events_eq]
    · split_ifs <;> simp [foldl_notify]
    · intro _ _
      rfl

theorem injectDialFailure_announces (peerId : Option PeerId) (handler : IntoAddressHandler)
    (error : DialError) (rand : Nat → UInt32) :
    Announces b (b.injectDialFailure now peerId handler error rand) := by
  unfold injectDialFailure
  split
  · exact .refl b
  next q _ =>
  split
  · exact .refl b
  next info _ =>
  split
  · -- our own validation dial: the record, `DialFailure`, then `NewInfo`
    unfold validationDialFailure
    dsimp only
    exact .notify_newInfo (onlyPeer_insert (by split_ifs <;> rfl)) ⟨_, by split_ifs <;> rfl⟩
  · split
    · exact transportDialFailure_announces b now q info _ rand
    all_goals first | exact .refl b | exact .of_peers_eq rfl ⟨[_], rfl⟩

theorem injectConnectionEstablished_announces (conn : ConnectedPoint) (n : Nat)
    (h : b.acceptsAddress peer
      (normalizeConnectedPoint conn b.settings.localPeerId peer).getRemoteAddress = true) :
    Announces b (b.injectConnectionEstablished now peer conn n) := by
  -- `add_address` sends `NewInfo`, and the connection is filed in the same record
  exact .of_mem (injectConnectionEstablished_onlyPeer b now conn n)
    ⟨_, by rw [injectConnectionEstablished_events, addAddress_events, if_pos h, List.append_assoc], by simp⟩

theorem injectAddressChange_announces (old new : ConnectedPoint)
    (h : b.acceptsAddress peer
      (normalizeConnectedPoint new b.settings.localPeerId peer).getRemoteAddress = true) :
    Announces b (b.injectAddressChange now peer old new) := by
  exact .of_mem (injectAddressChange_onlyPeer b now old new)
    ⟨_, by rw [injectAddressChange_events, addAddress_events, if_pos h, List.append_assoc], by simp⟩

end Calls

end AddressBook

/-! ## Every run -/

/-- The calls that may change a record without sending `NewInfo` for it: `remove_address` of a
known peer, `dial_address` of an unknown one, and a connection callback whose remote address
`add_address` refuses. -/
def BookOp.isSilent (b : AddressBook) : BookOp → Bool
  | .removeAddress peer _ => (b.peers.lookup peer).isSome
  | .dialAddress peer _ => (b.peers.lookup peer).isNone
  | .injectConnectionEstablished peer conn _ =>
    !b.acceptsAddress peer (normalizeConnectedPoint conn b.settings.localPeerId peer).getRemoteAddress
  | .injectAddressChange peer _ new =>
    !b.acceptsAddress peer (normalizeConnectedPoint new b.settings.localPeerId peer).getRemoteAddress
  | _ => false

open AddressBook

/-- **Every call but the silent ones announces the records it changes.** -/
theorem BookOp.exec_announces {b b' : AddressBook} {now : DateTime} {op : BookOp}
    (hop : op.isSilent b = false) (he : op.exec b now = some b') : Announces b b' := by
  have hev : ∃ new, b'.events = b.events ++ new := (BookOp.sends he).appends
  cases op with
  | addAddress peer address source =>
    cases he
    exact addAddress_announces b now address source
  | removeAddress peer address =>
    cases he
    exact removeAddress_announces b (by simpa [BookOp.isSilent] using hop)
  | dialAddress peer addr =>
    cases he
    obtain ⟨info, hl⟩ := Option.isSome_iff_exists.1 (by simpa [BookOp.isSilent] using hop)
    exact dialAddress_announces b hl
  | prunePeers minAge =>
    cases he
    exact prunePeers_announces b now minAge
  | setRtt peer rtt =>
    cases he
    exact setRtt_announces b rtt
  | setInfo peer identify => exact setInfo_announces b now he
  | connectionClosed peer conn n error =>
    cases he
    exact connectionClosed_announces b now conn n error
  | injectConnectionEstablished peer conn n =>
    cases he
    exact injectConnectionEstablished_announces b now conn n (by simpa [BookOp.isSilent] using hop)
  | injectAddressChange peer old new =>
    cases he
    exact injectAddressChange_announces b now old new (by simpa [BookOp.isSilent] using hop)
  | injectDialFailure peerId handler error rand =>
    cases he
    exact injectDialFailure_announces b now peerId handler error rand
  | dial peer =>
    cases he
    exact .of_peers_eq (dial_peers b peer) hev
  | injectNewListenAddr | injectExpiredListenAddr | poll =>
    cases he
    exact .of_peers_eq rfl hev

/-- **Every change of a record is announced.**  Along every run of the book, from any state,
under calls none of which is `remove_address` of a known peer, `dial_address` of an unknown
peer or a connection callback whose remote address `add_address` refuses, the book only appends
to its log, and every peer whose record differs at the end was sent `NewInfo` in between. -/
theorem record_changes_announced {b b' : AddressBook}
    (hr : Reach.Reachable (bookStep fun b call => call.2.isSilent b = false) b b') :
    ∃ new, b'.events = b.events ++ new ∧
      ∀ p, b'.peers.lookup p ≠ b.peers.lookup p → Event.newInfo p ∈ new := by
  refine Reach.Reachable.rel (R := Announces) (.refl b) (fun h₁ h₂ => h₁.trans h₂) ?_ hr
  rintro b₁ b₂ ⟨⟨now, op⟩, hop, he⟩
  exact BookOp.exec_announces hop he

/-- We file an address for peer 1, measure its round trip, and connect to peer 2: both peers
get a record, and both were announced. -/
theorem record_changes_announced_three_calls :
    ∃ b', Reach.Reachable (bookStep fun b call => call.2.isSilent b = false)
        (AddressBook.new ⟨0⟩ false false false) b' ∧
      (b'.peers.lookup ⟨1⟩).isSome ∧ (b'.peers.lookup ⟨2⟩).isSome ∧
      ∃ new, b'.events = (AddressBook.new ⟨0⟩ false false false).events ++ new ∧
        ∀ p, b'.peers.lookup p ≠ (AddressBook.new ⟨0⟩ false false false).peers.lookup p →
          Event.newInfo p ∈ new := by
  have hr : Reach.Reachable (bookStep fun b call => call.2.isSilent b = false)
      (AddressBook.new ⟨0⟩ false false false) _ :=
    Reach.Reachable.tail (Reach.Reachable.tail (Reach.Reachable.tail Reach.Reachable.refl
      ⟨(0, .addAddress ⟨1⟩ ⟨[.ip4 ⟨10, 0, 0, 1⟩, .tcp 4001]⟩ .user), rfl, rfl⟩)
      ⟨(1, .setRtt ⟨1⟩ (some 5)), rfl, rfl⟩)
      ⟨(2, .injectConnectionEstablished ⟨2⟩ (.dialer ⟨[.ip4 ⟨10, 0, 0, 2⟩, .tcp 4001]⟩ .dialer) 0),
        by decide, rfl⟩
  exact ⟨_, hr, by decide, by decide, record_changes_announced hr⟩

/-- `remove_address` is silent: it forgets the address and sends nothing. -/
example :
    (((AddressBook.new ⟨0⟩ false false false).addAddress 0 ⟨1⟩
        ⟨[.ip4 ⟨10, 0, 0, 1⟩, .tcp 4001]⟩ .user).removeAddress ⟨1⟩
        ⟨[.ip4 ⟨10, 0, 0, 1⟩, .tcp 4001]⟩).events =
      ((AddressBook.new ⟨0⟩ false false false).addAddress 0 ⟨1⟩
        ⟨[.ip4 ⟨10, 0, 0, 1⟩, .tcp 4001]⟩ .user).events ∧
    ((((AddressBook.new ⟨0⟩ false false false).addAddress 0 ⟨1⟩
        ⟨[.ip4 ⟨10, 0, 0, 1⟩, .tcp 4001]⟩ .user).removeAddress ⟨1⟩
        ⟨[.ip4 ⟨10, 0, 0, 1⟩, .tcp 4001]⟩).peers.lookup ⟨1⟩).map (fun info => info.addresses.keys) =
      some [] := by
  decide

end IpfsEmbed
