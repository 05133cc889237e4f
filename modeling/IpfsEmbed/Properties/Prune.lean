import IpfsEmbed.Properties.DialFailure

/-!
# What `prune_peers` removes

`prune_peers(min_age)` keeps a peer that is connected, that failed less than `min_age` ago, or
that has a confirmed address or an address to probe younger than `min_age` (at least ten
seconds).  Of the failures it reads only the first (`recent_failures().next()`), and so counts
on the queue holding the youngest failure first.

That holds while the clock does not go back.  Every call books its failures at its own
`Utc::now()` in front of the queue and drops only from the back (`FailsAt`); so along a run
whose calls come at times that never decrease, every queue is ordered newest first and holds
no failure later than the last call (`NewestFirst`, `BookOp.exec_failsAt`).  Then
`prune_peers` keeps every peer with some failure younger than `min_age`, whichever failure of
the queue that is.  When the clock goes back it does not: a failure booked at an earlier time
hides a later one behind it.
-/

namespace IpfsEmbed

namespace PeerInfo

/-- `info'` holds failures of time `now` in front of those of `info`, of which it may have
dropped the oldest. -/
def FailsAt (now : DateTime) (info info' : PeerInfo) : Prop :=
  ∃ new : List ConnectionFailure, (∀ f ∈ new, f.time = now) ∧ info'.failures <+: new ++ info.failures

/-- The failures are ordered newest first, and none is later than `t`. -/
def NewestFirst (t : DateTime) (info : PeerInfo) : Prop :=
  info.failures.Pairwise (fun f g => g.time ≤ f.time) ∧ ∀ f ∈ info.failures, f.time ≤ t

variable {now t : DateTime} {info info' info'' : PeerInfo}

theorem FailsAt.of_failures_eq (h : info'.failures = info.failures) : info.FailsAt now info' :=
  ⟨[], fun _ hf => absurd hf List.not_mem_nil, by rw [h]; exact List.prefix_refl _⟩

theorem FailsAt.trans (h₁ : info.FailsAt now info') (h₂ : info'.FailsAt now info'') :
    info.FailsAt now info'' := by
  obtain ⟨new₁, hn₁, hp₁⟩ := h₁
  obtain ⟨new₂, hn₂, hp₂⟩ := h₂
  refine ⟨new₂ ++ new₁, fun f hf => ?_, ?_⟩
  · rcases List.mem_append.1 hf with hf | hf
    · exact hn₂ f hf
    · exact hn₁ f hf
  · rw [List.append_assoc]
    exact hp₂.trans ((List.prefix_append_right_inj new₂).2 hp₁)

/-- A new record has no failures, so what follows it follows any record. -/
theorem FailsAt.of_default (h : (default : PeerInfo).FailsAt now info') : info.FailsAt now info' := by
  obtain ⟨new, hn, hp⟩ := h
  refine ⟨new, hn, hp.trans ?_⟩
  rw [show (default : PeerInfo).failures = [] from rfl, List.append_nil]
  exact List.prefix_append new info.failures

/-- Failures of time `now` in front, trimmed to any length. -/
theorem failsAt_of_take {new : List ConnectionFailure} (hn : ∀ f ∈ new, f.time = now) {n : Nat}
    (h : info'.failures = (new ++ info.failures).take n) : info.FailsAt now info' :=
  ⟨new, hn, h ▸ List.take_prefix n _⟩

theorem pushFailure_failsAt (info : PeerInfo) (addr : Multiaddr) {f : ConnectionFailure}
    (hf : f.time = now) (probeResult : Bool) : info.FailsAt now (info.pushFailure addr f probeResult) :=
  failsAt_of_take (by simpa using hf)
    (show _ = ([f] ++ info.failures).take 10 from pushFailure_failures info addr f probeResult)

theorem ingestAddress_failures (info : PeerInfo) (now : DateTime) (addr : Multiaddr)
    (source : AddressSource) : (info.ingestAddress now addr source).1.failures = info.failures := by
  rw [ingestAddress_eq]

theorem setRtt_failures (info : PeerInfo) (rtt : Option Duration) :
    (info.setRtt rtt).failures = info.failures := by
  unfold setRtt
  split <;> rfl

theorem newestFirst_default (t : DateTime) : (default : PeerInfo).NewestFirst t :=
  ⟨List.Pairwise.nil, fun _ hf => absurd hf List.not_mem_nil⟩

/-- **Booking failures at a time no earlier than every failure held keeps the queue newest
first.** -/
theorem NewestFirst.of_failsAt (h : info.NewestFirst t) (ht : t ≤ now) (hf : info.FailsAt now info') :
    info'.NewestFirst now := by
  obtain ⟨new, hn, hp⟩ := hf
  -- the failures booked now are all of one time, and no older one is later
  have hsorted : (new ++ info.failures).Pairwise (fun f g => g.time ≤ f.time) := by
    refine List.pairwise_append.2 ⟨?_, h.1, fun f hf g hg => ?_⟩
    · exact List.pairwise_of_forall_mem_list fun f hf g hg => by rw [hn f hf, hn g hg]
    · rw [hn f hf]
      exact (h.2 g hg).trans ht
  refine ⟨hsorted.sublist hp.sublist, fun f hf => ?_⟩
  rcases List.mem_append.1 (hp.subset hf) with hf | hf
  · exact (hn f hf).le
  · exact (h.2 f hf).trans ht

/-- In a queue ordered newest first, the first failure is at least as late as any. -/
theorem NewestFirst.head_le (h : info.NewestFirst t) {f : ConnectionFailure} (hf : f ∈ info.failures) :
    ∃ g, info.failures.head? = some g ∧ f.time ≤ g.time := by
  have hs := h.1
  cases hl : info.failures with
  | nil =>
    rw [hl] at hf
    exact absurd hf List.not_mem_nil
  | cons g rest =>
    rw [hl] at hf hs
    refine ⟨g, rfl, ?_⟩
    rcases List.mem_cons.1 hf with rfl | hf
    · exact le_refl _
    · exact List.rel_of_pairwise_cons hs hf

end PeerInfo

namespace AddressBook

open PeerInfo

/-- Every record of `b'` follows the record `b` files for its peer, or a new one, by failures
of time `now` put in front. -/
def FailsAt (now : DateTime) (b b' : AddressBook) : Prop :=
  ∀ p info', b'.peers.lookup p = some info' → (b.entry p).FailsAt now info'

/-- Every record's failures are ordered newest first, none later than `t`. -/
def NewestFirst (t : DateTime) (b : AddressBook) : Prop :=
  ∀ p info, b.peers.lookup p = some info → info.NewestFirst t

variable {b b' b'' : AddressBook} {now t : DateTime}

namespace FailsAt

/-- A call after which every record is one `b` files. -/
theorem of_lookup (h : ∀ p info', b'.peers.lookup p = some info' → b.peers.lookup p = some info') :
    FailsAt now b b' := by
  intro p info' hp
  rw [entry_of_lookup b (h p info' hp)]
  exact .of_failures_eq rfl

theorem of_peers_eq (h : b'.peers = b.peers) : FailsAt now b b' :=
  of_lookup fun _ _ hp => h ▸ hp

theorem trans (h₁ : FailsAt now b b') (h₂ : FailsAt now b' b'') : FailsAt now b b'' := by
  intro p info'' hp
  have h₂p := h₂ p info'' hp
  cases hl : b'.peers.lookup p with
  | none =>
    -- the middle state has no record of `p`, so the last one follows a new record
    simp only [entry, hl, Option.getD_none] at h₂p
    exact h₂p.of_default
  | some info' =>
    rw [entry_of_lookup b' hl] at h₂p
    exact (h₁ p info' hl).trans h₂p

end FailsAt

/-- Writing back one record that follows the one filed. -/
theorem failsAt_insert {peer : PeerId} {info' : PeerInfo} (hi : (b.entry peer).FailsAt now info')
    (h : b'.peers = b.peers.insert peer info') : FailsAt now b b' := by
  intro p info'' hp
  rw [h, AList.lookup_insert_eq_ite] at hp
  split_ifs at hp with hq
  · subst hq
    cases hp
    exact hi
  · rw [entry_of_lookup b hp]
    exact .of_failures_eq rfl

theorem NewestFirst.of_failsAt (h : b.NewestFirst t) (ht : t ≤ now) (hf : FailsAt now b b') :
    b'.NewestFirst now := by
  intro p info' hp
  have hentry : (b.entry p).NewestFirst t := by
    cases hl : b.peers.lookup p with
    | none =>
      simp only [entry, hl, Option.getD_none]
      exact newestFirst_default t
    | some info =>
      rw [entry_of_lookup b hl]
      exact h p info hl
  exact hentry.of_failsAt ht (hf p info' hp)

theorem newestFirst_new (t : DateTime) (localPeerId : PeerId) (portReuse enableLoopback keepAlive : Bool) :
    (new localPeerId portReuse enableLoopback keepAlive).NewestFirst t :=
  fun _ _ hp => nomatch hp

/-! ## One lemma per call -/

section Calls

variable (b) (now)

theorem addAddress_failsAt (peer : PeerId) (address : Multiaddr) (source : AddressSource) :
    FailsAt now b (b.addAddress now peer address source) := by
  by_cases h : b.acceptsAddress peer address = true
  · exact failsAt_insert (.of_failures_eq (ingestAddress_failures _ _ _ _))
      (by rw [addAddress_peers, if_pos h])
  · exact .of_peers_eq (by rw [addAddress_peers, if_neg h])

theorem removeAddress_failsAt (peer : PeerId) (address : Multiaddr) :
    FailsAt now b (b.removeAddress peer address) := by
  intro q info' hq
  rw [removeAddress_lookup] at hq
  split_ifs at hq with h
  · subst h
    obtain ⟨info, hl, rfl⟩ := Option.map_eq_some_iff.1 hq
    rw [entry_of_lookup b hl]
    exact .of_failures_eq rfl
  · rw [entry_of_lookup b hq]
    exact .of_failures_eq rfl

theorem dialAddress_failsAt (peer : PeerId) (addr : Multiaddr) :
    FailsAt now b (b.dialAddress peer addr) := by
  by_cases h : peer = b.settings.localPeerId
  · exact .of_peers_eq (by rw [dialAddress_peers, if_pos h])
  · exact failsAt_insert (.of_failures_eq rfl) (by rw [dialAddress_peers, if_neg h])

theorem prunePeers_failsAt (minAge : Duration) : FailsAt now b (b.prunePeers now minAge) :=
  FailsAt.of_lookup fun p info' hp => by
    rw [prunePeers_lookup] at hp
    exact (Option.filter_eq_some_iff.1 hp).1

theorem setRtt_failsAt (peer : PeerId) (rtt : Option Duration) : FailsAt now b (b.setRtt peer rtt) := by
  intro q info' hq
  rw [setRtt_lookup] at hq
  split_ifs at hq with h
  · subst h
    obtain ⟨info, hl, rfl⟩ := Option.map_eq_some_iff.1 hq
    rw [entry_of_lookup b hl]
    exact .of_failures_eq (setRtt_failures info rtt)
  · rw [entry_of_lookup b hq]
    exact .of_failures_eq rfl

theorem setInfoIngest_failures (listeners : Finset Multiaddr) (portReuse : Bool) (peer : PeerId)
    (acc : PeerInfo × List NetworkBehaviourAction) (addr : Multiaddr) :
    (setInfoIngest listeners portReuse peer now acc addr).1.failures = acc.1.failures := by
  unfold setInfoIngest
  dsimp only
  split_ifs <;> simp only [ingestAddress_failures]

theorem foldl_setInfoIngest_failures (listeners : Finset Multiaddr) (portReuse : Bool) (peer : PeerId)
    (l : List Multiaddr) (acc : PeerInfo × List NetworkBehaviourAction) :
    (l.foldl (setInfoIngest listeners portReuse peer now) acc).1.failures = acc.1.failures := by
  induction l generalizing acc with
  | nil => rfl
  | cons addr l ih => rw [List.foldl_cons, ih, setInfoIngest_failures]

theorem setInfo_failsAt {peer : PeerId} {identify : IdentifyInfo}
    (he : b.setInfo now peer identify = some b') : FailsAt now b b' := by
  rcases setInfo_eq_some he with ⟨-, rfl⟩ | ⟨info, ts, hl, -, rfl⟩
  · exact .of_peers_eq rfl
  · -- storing the Identify fields, the purge and the loop leave the failures alone
    refine failsAt_insert (.of_failures_eq ?_) rfl
    rw [entry_of_lookup b hl, ingestCandidates, foldl_setInfoIngest_failures]
    rfl

theorem connectionClosed_failsAt (peer : PeerId) (conn : ConnectedPoint) (numEstablished : Nat)
    (error : Option ConnectionError) :
    FailsAt now b (b.connectionClosed now peer conn numEstablished error) := by
  refine failsAt_insert ?_ (connectionClosed_peers b now peer conn numEstablished error)
  refine (FailsAt.of_failures_eq rfl).trans (pushFailure_failsAt _ _ ?_ false)
  -- `them` and `us` are both booked at `now`
  split <;> rfl

/-- The record a connection callback writes keeps the failures `add_address` left. -/
theorem failsAt_connections {p : PeerId} {conns : AList (fun _ : Multiaddr => DateTime × Direction)}
    (hpeers : b''.peers = b'.peers.insert p { b'.entry p with connections := conns })
    (h : FailsAt now b b') : FailsAt now b b'' := by
  refine h.trans (failsAt_insert ?_ hpeers)
  exact .of_failures_eq rfl

theorem injectConnectionEstablished_failsAt (peer : PeerId) (conn : ConnectedPoint)
    (otherEstablished : Nat) :
    FailsAt now b (b.injectConnectionEstablished now peer conn otherEstablished) :=
  failsAt_connections b now (injectConnectionEstablished_peers b now peer conn otherEstablished)
    (addAddress_failsAt _ _ _ _ _)

theorem injectAddressChange_failsAt (peer : PeerId) (old new : ConnectedPoint) :
    FailsAt now b (b.injectAddressChange now peer old new) :=
  failsAt_connections b now (injectAddressChange_peers b now peer old new)
    (addAddress_failsAt _ _ _ _ _)

theorem injectDialFailure_failsAt (peerId : Option PeerId) (handler : IntoAddressHandler)
    (error : DialError) (rand : Nat → UInt32) :
    FailsAt now b (b.injectDialFailure now peerId handler error rand) := by
  intro p info' hp
  by_cases hq : handler.peerId.or peerId = some p
  · cases hl : b.peers.lookup p with
    | none =>
      rw [injectDialFailure_lookup_of_ne b now peerId handler error rand (.inr hl), hl] at hp
      cases hp
    | some info =>
      -- the booked peer gets one failure of time `now` per reported address
      rw [injectDialFailure_lookup_self b now peerId handler error rand hq hl] at hp
      cases hp
      rw [entry_of_lookup b hl]
      refine failsAt_of_take (fun f hf => ?_) (dialFailureRecord_failures now p info handler error)
      obtain ⟨a, -, rfl⟩ := List.mem_map.1 hf
      rfl
  · rw [injectDialFailure_lookup_of_ne b now peerId handler error rand (.inl hq)] at hp
    rw [entry_of_lookup b hp]
    exact .of_failures_eq rfl

end Calls

end AddressBook

open AddressBook

/-- **Every call books its failures at its own time, in front.** -/
theorem BookOp.exec_failsAt {b b' : AddressBook} {now : DateTime} {op : BookOp}
    (he : op.exec b now = some b') : FailsAt now b b' := by
  cases op with
  | addAddress peer address source =>
    cases he
    exact addAddress_failsAt b now peer address source
  | removeAddress peer address =>
    cases he
    exact removeAddress_failsAt b now peer address
  | dial peer =>
    cases he
    exact .of_peers_eq (dial_peers b peer)
  | dialAddress peer addr =>
    cases he
    exact dialAddress_failsAt b now peer addr
  | prunePeers minAge =>
    cases he
    exact prunePeers_failsAt b now minAge
  | setRtt peer rtt =>
    cases he
    exact setRtt_failsAt b now peer rtt
  | setInfo peer identify => exact setInfo_failsAt b now he
  | connectionClosed peer conn n error =>
    cases he
    exact connectionClosed_failsAt b now peer conn n error
  | injectConnectionEstablished peer conn n =>
    cases he
    exact injectConnectionEstablished_failsAt b now peer conn n
  | injectAddressChange peer old new =>
    cases he
    exact injectAddressChange_failsAt b now peer old new
  | injectDialFailure peerId handler error rand =>
    cases he
    exact injectDialFailure_failsAt b now peerId handler error rand
  | injectNewListenAddr | injectExpiredListenAddr | poll =>
    cases he
    exact .of_peers_eq rfl

/-! ## Runs on a clock that never goes back -/

/-- One call of the book at time `now`, with any arguments. -/
def bookCallAt (now : DateTime) (b b' : AddressBook) : Prop :=
  ∃ op : BookOp, op.exec b now = some b'

/-- The books a run from `AddressBook::new` reaches when `Utc::now()` never goes back, with the
time of the last call. -/
def BookReachableOnClock (b : AddressBook) (t : DateTime) : Prop :=
  ∃ (settings : Settings) (t₀ : DateTime),
    Reach.Reachable (Reach.onClock bookCallAt)
      (AddressBook.new settings.localPeerId settings.portReuse settings.enableLoopback
        settings.keepAlive, t₀) (b, t)

theorem BookReachableOnClock.newestFirst {b : AddressBook} {t : DateTime}
    (hb : BookReachableOnClock b t) : b.NewestFirst t := by
  obtain ⟨settings, t₀, hr⟩ := hb
  refine @Reach.Reachable.invariant _ _ _ (fun s => s.1.NewestFirst s.2) (newestFirst_new _ _ _ _ _)
    ?_ _ hr
  rintro ⟨b₁, t₁⟩ ⟨b₂, t₂⟩ h₁ ⟨ht, op, he⟩
  exact h₁.of_failsAt ht (BookOp.exec_failsAt he)

/-- A later time is no longer ago. -/
theorem diffTime_le_of_le {t t' : DateTime} (h : t ≤ t') (now : DateTime) :
    diffTime t' now ≤ diffTime t now :=
  Nat.sub_le_sub_left h now

namespace AddressBook

/-- A peer whose first failure is younger than `min_age` is not pruned. -/
theorem isPrunable_of_head {info : PeerInfo} {g : ConnectionFailure} {now : DateTime}
    {minAge : Duration} (hg : info.failures.head? = some g) (hy : diffTime g.time now < minAge) :
    isPrunable info now minAge = false := by
  unfold isPrunable
  split_ifs with hc hf
  · rfl
  · rfl
  · exact absurd (by simp [hg, hy]) hf

end AddressBook

/-- **`prune_peers` keeps a peer for `min_age` after any of its failures.**  In every run of the
book in which the clock never goes back, `prune_peers(min_age)`, at whatever time, keeps the
record of every peer with a failure younger than `min_age`: the failure it reads first is the
youngest. -/
theorem prune_keeps_recently_failed {b : AddressBook} {t now : DateTime}
    (hb : BookReachableOnClock b t) (minAge : Duration) {p : PeerId}
    {info : PeerInfo} {f : ConnectionFailure} (hp : b.peers.lookup p = some info)
    (hf : f ∈ info.failures) (hy : diffTime f.time now < minAge) :
    (b.prunePeers now minAge).peers.lookup p = some info := by
  obtain ⟨g, hg, hle⟩ := (hb.newestFirst p info hp).head_le hf
  -- the first failure is no older than `f`
  have hyg : diffTime g.time now < minAge := (diffTime_le_of_le hle now).trans_lt hy
  rw [prunePeers_lookup, hp, Option.filter_some, isPrunable_of_head hg hyg]
  rfl

/-- Peer 1's connection closes at times 2 and 5; a prune at time 6 with `min_age` 10 keeps it,
as the failure at time 2 alone already asks. -/
theorem prune_keeps_recently_failed_twice :
    ∃ b info f, BookReachableOnClock b 5 ∧ b.peers.lookup ⟨1⟩ = some info ∧ f ∈ info.failures ∧
      f.time = 2 ∧ diffTime f.time 6 < 10 ∧ (b.prunePeers 6 10).peers.lookup ⟨1⟩ = some info := by
  let cp : ConnectedPoint := .dialer ⟨[.ip4 ⟨10, 0, 0, 1⟩, .tcp 4001]⟩ .dialer
  let b₀ := AddressBook.new ⟨0⟩ false false false
  let b₁ := b₀.connectionClosed 2 ⟨1⟩ cp 0 none
  have h₁ : Reach.Reachable (Reach.onClock bookCallAt) (b₀, 0) (b₁, 2) :=
    .tail .refl ⟨Nat.zero_le 2, .connectionClosed ⟨1⟩ cp 0 none, rfl⟩
  have hb : BookReachableOnClock (b₁.connectionClosed 5 ⟨1⟩ cp 0 none) 5 :=
    ⟨⟨false, false, false, ⟨0⟩⟩, 0, .tail h₁ ⟨by decide, .connectionClosed ⟨1⟩ cp 0 none, rfl⟩⟩
  refine ⟨_, _, _, hb, rfl, List.mem_cons_of_mem _ List.mem_cons_self, rfl, by decide, ?_⟩
  exact prune_keeps_recently_failed hb 10 rfl (List.mem_cons_of_mem _ List.mem_cons_self) (by decide)

/-- When the clock goes back, the failure read first hides a younger one: peer 1's connection
closes at time 10 and then at time 2, and a prune at time 11 with `min_age` 5 removes it. -/
example : (((((AddressBook.new ⟨0⟩ false false false).connectionClosed 10 ⟨1⟩
    (.dialer ⟨[.ip4 ⟨10, 0, 0, 1⟩, .tcp 4001]⟩ .dialer) 0 none).connectionClosed 2 ⟨1⟩
    (.dialer ⟨[.ip4 ⟨10, 0, 0, 1⟩, .tcp 4001]⟩ .dialer) 0 none).prunePeers 11 5).peers.lookup
      ⟨1⟩).isNone = true := by
  decide

end IpfsEmbed
