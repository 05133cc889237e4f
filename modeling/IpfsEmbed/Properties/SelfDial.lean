import IpfsEmbed.Properties.Redials
import IpfsEmbed.Properties.Events

/-!
# The book never dials the local node

`dial` and `dial_address` refuse the local peer ("attempting to dial self"), and `add_address`
files nothing under it.  Every other dial the book asks for needs the record of the peer it is
for: `set_info` queues validation dials of a known peer's addresses, and `inject_dial_failure`
defers redials only for a peer it knows.

The argument is a frame property of every call (`BookOp.exec_noDialOf`): a peer that has no
record and no queued or deferred dial keeps neither under every call that does not name it.
The calls that name the local peer are the three that refuse it, and the connection
callbacks, which libp2p never makes for the local peer: it fails a connection to itself with
`LocalPeerId`.  So in every run of the book with the swarm's dials in which no connection
callback names the local peer, the local peer has no record, and no dial of it is queued,
deferred or in flight.
-/

namespace IpfsEmbed

/-- The peer a call may file a record for or ask to dial: that of `add_address`, `dial`,
`dial_address` and the connection callbacks. -/
def BookOp.introduces? : BookOp → Option PeerId
  | .addAddress peer .. | .dial peer | .dialAddress peer .. | .connectionClosed peer ..
  | .injectConnectionEstablished peer .. | .injectAddressChange peer .. => some peer
  | _ => none

/-- The peer a connection callback reports on. -/
def BookOp.connectionPeer? : BookOp → Option PeerId
  | .connectionClosed peer .. | .injectConnectionEstablished peer .. | .injectAddressChange peer .. =>
    some peer
  | _ => none

namespace AddressBook

/-- `p` has no record, and no queued or deferred dial is of `p`. -/
structure NoDialOf (p : PeerId) (b : AddressBook) : Prop where
  noRecord : b.peers.lookup p = none
  actions : ∀ a ∈ b.actions, a.opts.peerId ≠ p
  deferred : ∀ d ∈ b.deferred, d.2.opts.peerId ≠ p

theorem noDialOf_new (p localPeerId : PeerId) (portReuse enableLoopback keepAlive : Bool) :
    (new localPeerId portReuse enableLoopback keepAlive).NoDialOf p :=
  ⟨rfl, fun _ h => absurd h List.not_mem_nil, fun _ h => absurd h List.not_mem_nil⟩

/-- A failure booked against a peer the book does not know changes nothing. -/
theorem injectDialFailure_of_lookup_none (b : AddressBook) (now : DateTime) {peerId : Option PeerId}
    {handler : IntoAddressHandler} (error : DialError) (rand : Nat → UInt32) {q : PeerId}
    (hq : handler.peerId.or peerId = some q) (hn : b.peers.lookup q = none) :
    b.injectDialFailure now peerId handler error rand = b := by
  unfold injectDialFailure
  simp only [hq, hn]

namespace NoDialOf

variable {p : PeerId} {b b' : AddressBook}

/-- A call that files no record for `p` and whose new dials are of other peers keeps the
property. -/
theorem of_parts (h : b.NoDialOf p) (hl : b'.peers.lookup p = none)
    (ha : ∀ a ∈ b'.actions, a ∈ b.actions ∨ a.opts.peerId ≠ p)
    (hd : ∀ d ∈ b'.deferred, d ∈ b.deferred ∨ d.2.opts.peerId ≠ p) : b'.NoDialOf p := by
  refine ⟨hl, fun a h' => ?_, fun d h' => ?_⟩
  · rcases ha a h' with ha | ha
    · exact h.actions a ha
    · exact ha
  · rcases hd d h' with hd | hd
    · exact h.deferred d hd
    · exact hd

theorem of_queues_eq (h : b.NoDialOf p) (hl : b'.peers.lookup p = none)
    (ha : b'.actions = b.actions) (hd : b'.deferred = b.deferred) : b'.NoDialOf p :=
  h.of_parts hl (fun _ h' => .inl (ha ▸ h')) (fun _ h' => .inl (hd ▸ h'))

/-- A call that may queue one dial of another peer. -/
theorem push (h : b.NoDialOf p) (hl : b'.peers.lookup p = none) {a : NetworkBehaviourAction}
    (ha : b'.actions = b.actions ∨ b'.actions = b.actions ++ [a]) (hna : a.opts.peerId ≠ p)
    (hd : b'.deferred = b.deferred) : b'.NoDialOf p := by
  refine h.of_parts hl (fun x hx => ?_) (fun d h' => .inl (hd ▸ h'))
  rcases ha with ha | ha <;> rw [ha] at hx
  · exact .inl hx
  · rcases List.mem_append.1 hx with hx | hx
    · exact .inl hx
    · exact .inr (List.mem_singleton.1 hx ▸ hna)

section Calls

variable (now : DateTime)

/-- A call that writes the record of another peer keeps `p` unknown. -/
theorem lookup_of_onlyPeer (h : b.NoDialOf p) {peer : PeerId} (hne : peer ≠ p)
    (hb : OnlyPeer peer b b') : b'.peers.lookup p = none :=
  (hb p (Ne.symm hne)).trans h.noRecord

theorem addAddress (h : b.NoDialOf p) {peer : PeerId} (hne : peer ≠ p) (address : Multiaddr)
    (source : AddressSource) : (b.addAddress now peer address source).NoDialOf p :=
  h.push (h.lookup_of_onlyPeer hne (addAddress_onlyPeer b now address source))
    (addAddress_actions b now peer address source) hne (addAddress_deferred b now peer address source)

theorem dial (h : b.NoDialOf p) {peer : PeerId} (hne : peer ≠ p) : (b.dial peer).NoDialOf p := by
  have hl : (b.dial peer).peers.lookup p = none := by
    rw [dial_peers]
    exact h.noRecord
  exact h.push hl (dial_actions b peer) hne (dial_deferred b peer)

theorem dialAddress (h : b.NoDialOf p) {peer : PeerId} (hne : peer ≠ p) (addr : Multiaddr) :
    (b.dialAddress peer addr).NoDialOf p :=
  h.push (h.lookup_of_onlyPeer hne (dialAddress_onlyPeer b addr)) (dialAddress_actions b peer addr)
    hne (dialAddress_deferred b peer addr)

theorem removeAddress (h : b.NoDialOf p) (peer : PeerId) (address : Multiaddr) :
    (b.removeAddress peer address).NoDialOf p := by
  have hl : (b.removeAddress peer address).peers.lookup p = none := by
    rw [removeAddress_lookup]
    split_ifs with hp
    · rw [← hp, h.noRecord, Option.map_none]
    · exact h.noRecord
  exact h.of_queues_eq hl (removeAddress_queues b peer address).1
    (removeAddress_queues b peer address).2

theorem prunePeers (h : b.NoDialOf p) (minAge : Duration) : (b.prunePeers now minAge).NoDialOf p := by
  have hl : (b.prunePeers now minAge).peers.lookup p = none := by
    rw [prunePeers_lookup, h.noRecord, Option.filter_none]
  exact h.of_queues_eq hl (prunePeers_queues b now minAge).1 (prunePeers_queues b now minAge).2

theorem setRtt (h : b.NoDialOf p) (peer : PeerId) (rtt : Option Duration) :
    (b.setRtt peer rtt).NoDialOf p := by
  have hl : (b.setRtt peer rtt).peers.lookup p = none := by
    rw [setRtt_lookup]
    split_ifs with hp
    · rw [← hp, h.noRecord, Option.map_none]
    · exact h.noRecord
  exact h.of_queues_eq hl (setRtt_queues b peer rtt).1 (setRtt_queues b peer rtt).2

/-- `set_info` runs only for a known peer, so its validation dials are of a peer other than
`p`. -/
theorem setInfo (h : b.NoDialOf p) {peer : PeerId} {identify : IdentifyInfo}
    (he : b.setInfo now peer identify = some b') : b'.NoDialOf p := by
  rcases setInfo_eq_some he with ⟨-, rfl⟩ | ⟨info, ts, hl, -, rfl⟩
  · exact h
  have hne : peer ≠ p := by
    rintro rfl
    rw [h.noRecord] at hl
    cases hl
  refine h.of_parts (h.lookup_of_onlyPeer hne (onlyPeer_insert rfl)) (fun a ha => ?_)
    (fun d hd => .inl hd)
  have ha : a ∈ (ingestCandidates b now peer (withIdentify info identify) ts).2 := ha
  rcases mem_foldl_setInfoIngest_actions _ _ _ _ _ _ ha with ha | ⟨addr, -, rfl⟩
  · exact .inl ha
  · exact .inr hne

theorem connectionClosed (h : b.NoDialOf p) {peer : PeerId} (hne : peer ≠ p) (conn : ConnectedPoint)
    (n : Nat) (error : Option ConnectionError) :
    (b.connectionClosed now peer conn n error).NoDialOf p :=
  h.of_queues_eq (h.lookup_of_onlyPeer hne (connectionClosed_onlyPeer b now conn n error))
    (connectionClosed_queues b now peer conn n error).1
    (connectionClosed_queues b now peer conn n error).2

/-- The two other connection callbacks are an `add_address` for the peer, whose dial they
keep, then a change of its connections. -/
theorem injectConnectionEstablished (h : b.NoDialOf p) {peer : PeerId} (hne : peer ≠ p)
    (conn : ConnectedPoint) (n : Nat) :
    (b.injectConnectionEstablished now peer conn n).NoDialOf p := by
  have h₁ := h.addAddress now hne
    (normalizeConnectedPoint conn b.settings.localPeerId peer).getRemoteAddress
    (if (normalizeConnectedPoint conn b.settings.localPeerId peer).isDialer then .dial else .incoming)
  exact h₁.of_queues_eq (h.lookup_of_onlyPeer hne (injectConnectionEstablished_onlyPeer b now conn n))
    (injectConnectionEstablished_queues b now peer conn n).1
    (injectConnectionEstablished_queues b now peer conn n).2

theorem injectAddressChange (h : b.NoDialOf p) {peer : PeerId} (hne : peer ≠ p)
    (old new : ConnectedPoint) : (b.injectAddressChange now peer old new).NoDialOf p := by
  have h₁ := h.addAddress now hne
    (normalizeConnectedPoint new b.settings.localPeerId peer).getRemoteAddress
    (if (normalizeConnectedPoint new b.settings.localPeerId peer).isDialer then .dial else .incoming)
  exact h₁.of_queues_eq (h.lookup_of_onlyPeer hne (injectAddressChange_onlyPeer b now old new))
    (injectAddressChange_queues b now peer old new).1
    (injectAddressChange_queues b now peer old new).2

/-- A failure booked against `p`, which the book does not know, changes nothing; any other
defers redials of the peer it is booked against. -/
theorem injectDialFailure (h : b.NoDialOf p) (peerId : Option PeerId) (handler : IntoAddressHandler)
    (error : DialError) (rand : Nat → UInt32) :
    (b.injectDialFailure now peerId handler error rand).NoDialOf p := by
  have hl : (b.injectDialFailure now peerId handler error rand).peers.lookup p = none := by
    rw [injectDialFailure_lookup_of_ne b now peerId handler error rand (.inr h.noRecord)]
    exact h.noRecord
  refine h.of_parts hl (fun a ha => .inl ?_) (fun d hd => ?_)
  · rwa [injectDialFailure_actions] at ha
  rcases mem_injectDialFailure_deferred b now peerId handler error rand hd with
    hd | ⟨q, hq, hredial⟩
  · exact .inl hd
  by_cases hqp : q = p
  · -- booked against `p`: the call is the identity
    rw [injectDialFailure_of_lookup_none b now error rand hq (hqp ▸ h.noRecord)] at hd
    exact .inl hd
  · rcases hredial with ⟨addr, retries, -, hd⟩ | ⟨ae, -, hd⟩ <;> rw [hd]
    · exact .inr hqp
    · exact .inr hqp

end Calls

end NoDialOf

end AddressBook

open AddressBook

/-- **No call that does not name `p` gives `p` a record or a dial.** -/
theorem BookOp.exec_noDialOf {p : PeerId} {b b' : AddressBook} {now : DateTime} {op : BookOp}
    (h : b.NoDialOf p) (hop : op.introduces? ≠ some p) (he : op.exec b now = some b') :
    b'.NoDialOf p := by
  -- the peer a call names is not `p`
  have hne : ∀ peer, op.introduces? = some peer → peer ≠ p := fun peer hp hpp => hop (hpp ▸ hp)
  cases op with
  | addAddress peer address source =>
    cases he
    exact h.addAddress now (hne peer rfl) address source
  | dial peer =>
    cases he
    exact h.dial (hne peer rfl)
  | dialAddress peer addr =>
    cases he
    exact h.dialAddress (hne peer rfl) addr
  | connectionClosed peer conn n error =>
    cases he
    exact h.connectionClosed now (hne peer rfl) conn n error
  | injectConnectionEstablished peer conn n =>
    cases he
    exact h.injectConnectionEstablished now (hne peer rfl) conn n
  | injectAddressChange peer old new =>
    cases he
    exact h.injectAddressChange now (hne peer rfl) old new
  | removeAddress peer address =>
    cases he
    exact h.removeAddress peer address
  | prunePeers minAge =>
    cases he
    exact h.prunePeers now minAge
  | setRtt peer rtt =>
    cases he
    exact h.setRtt peer rtt
  | setInfo peer identify => exact h.setInfo now he
  | injectDialFailure peerId handler error rand =>
    cases he
    exact h.injectDialFailure now peerId handler error rand
  | injectNewListenAddr | injectExpiredListenAddr =>
    cases he
    exact h.of_queues_eq h.noRecord rfl rfl
  | poll =>
    cases he
    -- `poll` only takes the front of the queue
    exact h.of_parts h.noRecord (fun _ ha => .inl (List.mem_of_mem_drop ha)) (fun _ hd => .inl hd)

/-- The calls that name the local peer and are not connection callbacks refuse it. -/
theorem BookOp.exec_of_introduces_local {b b' : AddressBook} {now : DateTime} {op : BookOp}
    (hop : op.introduces? = some b.settings.localPeerId) (hc : op.connectionPeer? = none)
    (he : op.exec b now = some b') : b' = b := by
  cases op <;> simp only [BookOp.introduces?, BookOp.connectionPeer?, Option.some.injEq,
    reduceCtorEq] at hop hc <;> cases he
  · exact addAddress_of_not_accepts b (by simp [acceptsAddress, hop]) now _
  · simp [AddressBook.dial, hop]
  · simp [AddressBook.dialAddress, hop]

/-- Every call but a connection callback for the local peer keeps the local peer unknown and
undialled. -/
theorem BookOp.exec_noSelfDial {b b' : AddressBook} {now : DateTime} {op : BookOp}
    (h : b.NoDialOf b.settings.localPeerId) (hop : op.connectionPeer? ≠ some b.settings.localPeerId)
    (he : op.exec b now = some b') : b'.NoDialOf b'.settings.localPeerId := by
  rw [BookOp.exec_settings he]
  by_cases hi : op.introduces? = some b.settings.localPeerId
  · -- only `add_address`, `dial` and `dial_address` can name it, and they refuse it
    have hc : op.connectionPeer? = none := by
      cases op <;> first | rfl | exact absurd hi hop
    rw [BookOp.exec_of_introduces_local hi hc he]
    exact h
  · exact BookOp.exec_noDialOf h hi he

/-! ## The swarm's dials -/

/-- The peer a connection callback among the events reports on. -/
def DialEvent.connectionPeer? : DialEvent → Option PeerId
  | .call op => op.connectionPeer?
  | _ => none

/-- The dial worlds reachable from a new book, with any settings, in runs in which no
connection callback names the local peer. -/
def DialWorldReachableApart (w : DialWorld) : Prop :=
  ∃ settings : Settings,
    Reach.Reachable
      (Reach.stepOf (fun w (e : DateTime × DialEvent) => w.step e.1 e.2)
        fun w e => e.2.connectionPeer? ≠ some w.book.settings.localPeerId)
      (DialWorld.init settings) w

namespace DialWorld

/-- The local peer is unknown to the book and no dial of it is queued, deferred or in
flight. -/
structure NoSelfDial (w : DialWorld) : Prop where
  book : w.book.NoDialOf w.book.settings.localPeerId
  dialing : ∀ a ∈ w.dialing, a.opts.peerId ≠ w.book.settings.localPeerId

theorem init_noSelfDial (settings : Settings) : (init settings).NoSelfDial :=
  ⟨noDialOf_new _ _ _ _ _, fun _ h => absurd h List.not_mem_nil⟩

/-- What the swarm is handed when it polls is a queued or a deferred dial, which leaves the
queue or the deferred set. -/
theorem pollAction_cases {b b' : AddressBook} {ready : Nat} {a : NetworkBehaviourAction}
    (h : b.pollAction ready = some (a, b')) :
    (a ∈ b.actions ∨ ∃ d ∈ b.deferred, d.2 = a) ∧ b'.settings = b.settings ∧ b'.peers = b.peers ∧
      (∀ x ∈ b'.actions, x ∈ b.actions) ∧ ∀ d ∈ b'.deferred, d ∈ b.deferred := by
  unfold AddressBook.pollAction at h
  split at h
  next x rest hx =>
    cases h
    exact ⟨.inl (hx ▸ List.mem_cons_self), rfl, rfl, fun y hy => List.mem_of_mem_drop hy,
      fun d hd => hd⟩
  next =>
    obtain ⟨d, hd, hda⟩ := Option.map_eq_some_iff.1 h
    cases hda
    exact ⟨.inr ⟨d, List.mem_of_getElem? hd, rfl⟩, rfl, rfl, fun y hy => hy,
      fun d' hd' => List.mem_of_mem_eraseIdx hd'⟩

variable {w w' : DialWorld}

theorem NoSelfDial.step (h : w.NoSelfDial) {now : DateTime} {e : DialEvent}
    (hop : e.connectionPeer? ≠ some w.book.settings.localPeerId) (he : w.step now e = some w') :
    w'.NoSelfDial := by
  cases e with
  | call op =>
    simp only [DialWorld.step] at he
    split_ifs at he
    obtain ⟨b, hb, rfl⟩ := Option.map_eq_some_iff.1 he
    refine ⟨BookOp.exec_noSelfDial h.book hop hb, ?_⟩
    show ∀ a ∈ w.dialing, a.opts.peerId ≠ b.settings.localPeerId
    rw [BookOp.exec_settings hb]
    exact h.dialing
  | poll ready =>
    obtain ⟨⟨a, b⟩, hp, rfl⟩ := Option.map_eq_some_iff.1 he
    obtain ⟨ha, hs, hpeers, hacts, hdefs⟩ := pollAction_cases hp
    -- the swarm issues the dial it is handed, which was of another peer
    have hna : a.opts.peerId ≠ w.book.settings.localPeerId := by
      rcases ha with ha | ⟨d, hd, rfl⟩
      · exact h.book.actions a ha
      · exact h.book.deferred d hd
    refine ⟨⟨?_, fun x hx => ?_, fun d hd => ?_⟩, fun x hx => ?_⟩ <;> dsimp only <;> rw [hs]
    · rw [hpeers]
      exact h.book.noRecord
    · exact h.book.actions x (hacts x hx)
    · exact h.book.deferred d (hdefs d hd)
    · rcases List.mem_append.1 hx with hx | hx
      · exact h.dialing x hx
      · rw [List.mem_singleton.1 hx]
        exact hna
  | dialFailure i error rand =>
    obtain ⟨a, -, rfl⟩ := Option.map_eq_some_iff.1 he
    have hs : (w.book.injectDialFailure now (some a.opts.peerId) a.handler error rand).settings =
        w.book.settings :=
      BookOp.exec_settings (show BookOp.exec w.book now (.injectDialFailure _ _ _ _) = some _ from rfl)
    refine ⟨?_, fun x hx => ?_⟩ <;> dsimp only <;> rw [hs]
    · exact h.book.injectDialFailure now _ _ _ _
    · exact h.dialing x (List.mem_of_mem_eraseIdx hx)
  | dialSuccess i =>
    simp only [DialWorld.step] at he
    split_ifs at he
    cases he
    exact ⟨h.book, fun x hx => h.dialing x (List.mem_of_mem_eraseIdx hx)⟩
  | otherDialFailure peerId error rand =>
    cases he
    have hs : (w.book.injectDialFailure now peerId w.book.newHandler error rand).settings =
        w.book.settings :=
      BookOp.exec_settings (show BookOp.exec w.book now (.injectDialFailure _ _ _ _) = some _ from rfl)
    refine ⟨?_, fun x hx => ?_⟩ <;> dsimp only <;> rw [hs]
    · exact h.book.injectDialFailure now _ _ _ _
    · exact h.dialing x hx

end DialWorld

/-- **The book never dials the local node.**  In every run of the book with the swarm's dials
in which no connection callback names the local peer, under any other calls and any failures
of the book's dials or of the dials the swarm makes for other behaviours, the local peer has
no record, and no dial of it is queued, deferred or in
flight. -/
theorem book_never_dials_itself {w : DialWorld} (hw : DialWorldReachableApart w) :
    w.book.peers.lookup w.book.settings.localPeerId = none ∧
      (∀ a ∈ w.book.actions, a.opts.peerId ≠ w.book.settings.localPeerId) ∧
      (∀ d ∈ w.book.deferred, d.2.opts.peerId ≠ w.book.settings.localPeerId) ∧
      ∀ a ∈ w.dialing, a.opts.peerId ≠ w.book.settings.localPeerId := by
  obtain ⟨settings, hr⟩ := hw
  have h : w.NoSelfDial := by
    refine Reach.Reachable.invariant (DialWorld.init_noSelfDial settings) ?_ hr
    rintro w₁ w₂ h₁ ⟨⟨now, e⟩, hop, he⟩
    exact h₁.step hop he
  exact ⟨h.book.noRecord, h.book.actions, h.book.deferred, h.dialing⟩

/-- `add_address` of a Kademlia address for peer 1 queues a validation dial, and the swarm
takes it: the one dial in flight is of peer 1, not of the local peer 0. -/
theorem book_never_dials_itself_validation :
    ∃ w, DialWorldReachableApart w ∧ w.dialing.length = 1 ∧
      w.book.peers.lookup w.book.settings.localPeerId = none ∧
      (∀ a ∈ w.book.actions, a.opts.peerId ≠ w.book.settings.localPeerId) ∧
      (∀ d ∈ w.book.deferred, d.2.opts.peerId ≠ w.book.settings.localPeerId) ∧
      ∀ a ∈ w.dialing, a.opts.peerId ≠ w.book.settings.localPeerId := by
  have hw : DialWorldReachableApart _ := ⟨⟨false, false, false, ⟨0⟩⟩,
    Reach.Reachable.tail (Reach.Reachable.tail Reach.Reachable.refl
      ⟨(0, .call (.addAddress ⟨1⟩ ⟨[.ip4 ⟨10, 0, 0, 1⟩, .tcp 4001]⟩ .kad)),
        nofun, rfl⟩)
      ⟨(0, .poll 0), nofun, rfl⟩⟩
  exact ⟨_, hw, by decide, book_never_dials_itself hw⟩

/-- Without the hypothesis the book can dial itself: a connection callback for the local peer
files a record for it, and `set_info` then queues a validation dial of its listen address. -/
example :
    ((((AddressBook.new ⟨0⟩ false false false).injectConnectionEstablished 0 ⟨0⟩
      (.listener ⟨[.ip4 ⟨10, 0, 0, 1⟩, .tcp 4001]⟩ ⟨[.ip4 ⟨10, 0, 0, 2⟩, .tcp 5001]⟩) 0).setInfo 0
        ⟨0⟩ ⟨"", "", [⟨[.ip4 ⟨10, 0, 0, 2⟩, .tcp 4001]⟩], []⟩).map
      fun b => b.actions.map (·.opts.peerId)) = some [⟨0⟩] := by
  decide

end IpfsEmbed
