import IpfsEmbed.Properties.Provenance
import IpfsEmbed.Properties.SetInfo

/-!
# No loopback address in any run

With `enable_loopback` off, `add_address` refuses every address that `is_loopback` accepts, and
`set_info` drops such advertised listen addresses.  As `is_loopback` counts every address
that does not start with an `/ip4` component as loopback, the book then keeps, in every run and
under any calls, only addresses that start with an `/ip4` address outside `127.0.0.0/8`: no `/ip6` and no `/dns` address either.

An address enters a record in two ways.  `add_address` tests it, and the connection callbacks
file their remote address through `add_address`.  `set_info` files its candidates: the
advertised listen addresses, filtered by the same test, and the translations of the
`Incoming` addresses, which keep the IP of an address the record already holds.  Every other
call only removes addresses.  The invariant is that no address of a record is loopback
(`AddressBook.NoLoopback`); `AddressBook.KeysFrom` says where each call's new addresses come
from, and each of these sources passes the test (`BookOp.exec_noLoopback`).
-/

namespace IpfsEmbed

namespace Multiaddr

/-- Normalizing keeps the first component, and the empty address and `/p2p/peer` both count
as loopback. -/
@[simp] theorem isLoopback_normalizeAddrRef (a : Multiaddr) (peer : PeerId) :
    (normalizeAddrRef a peer).isLoopback = a.isLoopback := by
  unfold normalizeAddrRef
  split_ifs
  · rfl
  · cases a with
    | mk ps => cases ps <;> rfl

/-- A translation keeps the IP, and so the first component. -/
theorem isLoopback_of_isTranslation {a x : Multiaddr} (h : AddressBook.IsTranslation a x) :
    a.isLoopback = x.isLoopback := by
  obtain ⟨-, -, port', -, -, rfl⟩ := h
  cases x with
  | mk ps => cases ps <;> rfl

theorem isLoopback_eq_false_iff {a : Multiaddr} :
    a.isLoopback = false ↔ ∃ ip, a.first = some (.ip4 ip) ∧ ip.isLoopback = false := by
  unfold isLoopback
  split <;> simp_all

end Multiaddr

namespace AddressBook

/-- No address of any record is loopback. -/
def NoLoopback (b : AddressBook) : Prop :=
  ∀ p info a v, b.peers.lookup p = some info → info.addresses.lookup a = some v →
    a.isLoopback = false

variable {S : PeerId → Multiaddr → AddressSource → Prop} {K : PeerId → Multiaddr → Prop}
  {b b' : AddressBook}

theorem noLoopback_new (localPeerId : PeerId) (portReuse enableLoopback keepAlive : Bool) :
    (new localPeerId portReuse enableLoopback keepAlive).NoLoopback :=
  fun _ _ _ _ hp => nomatch hp

/-- A call keeps the property when every address it writes is not loopback. -/
theorem NoLoopback.of_keysFrom (h : b.NoLoopback) (hk : b.KeysFrom S K b')
    (hS : ∀ p a s, S p a s → a.isLoopback = false) : b'.NoLoopback := by
  intro p info' a v hp ha
  rcases (hk p info' hp).addresses a v.1 v.2 ha with ⟨t, ha⟩ | hs
  · obtain ⟨info, hl, ha⟩ := entry_addresses_lookup ha
    exact h p info a _ hl ha
  · exact hS p a v.1 hs

theorem isLoopback_of_acceptsAddress (hl : b.settings.enableLoopback = false) {peer : PeerId}
    {address : Multiaddr} (h : b.acceptsAddress peer address = true) :
    address.isLoopback = false := by
  simp only [acceptsAddress, hl, Bool.false_or, Bool.and_eq_true, Bool.not_eq_true'] at h
  exact h.1.2

/-- A candidate of `set_info` is a translation of an address the record holds, or an
advertised listen address that passed the test. -/
theorem isLoopback_of_isSetInfoCandidate (hl : b.settings.enableLoopback = false)
    (h : b.NoLoopback) {peer : PeerId} {identify : IdentifyInfo} {a : Multiaddr}
    (hc : b.IsSetInfoCandidate peer identify a) : a.isLoopback = false := by
  obtain ⟨info, ts, hp, ht, ha⟩ := hc
  rw [hl] at ha
  rcases mem_candidates.1 ha with ha | ⟨l, -, hl', rfl⟩
  · -- a translation of an `Incoming` address of the record
    obtain ⟨ts', ht', hts'⟩ :=
      translations_eq_some (withIdentify info identify) (listenPort (withIdentify info identify) peer)
    rw [ht, Option.some.injEq] at ht'
    subst ht'
    obtain ⟨x, t, hx, htr⟩ := hts' a ha
    rw [Multiaddr.isLoopback_of_isTranslation htr]
    exact h peer info x _ hp hx
  · simpa using hl'

end AddressBook

open AddressBook

/-- **Every call keeps loopback addresses out**, when loopback is off. -/
theorem BookOp.exec_noLoopback {b b' : AddressBook} {now : DateTime} {op : BookOp}
    (hl : b.settings.enableLoopback = false) (h : b.NoLoopback) (he : op.exec b now = some b') :
    b'.NoLoopback := by
  -- the calls that write no address of their own
  have hnone : b.KeysFrom (fun _ _ _ => False) (fun _ _ => False) b' → b'.NoLoopback :=
    fun hk => h.of_keysFrom hk fun _ _ _ hs => hs.elim
  cases op with
  | addAddress peer address source =>
    cases he
    refine h.of_keysFrom (KeysFrom.addAddress b now peer address source) fun _ a _ hs => ?_
    obtain ⟨rfl, hacc, rfl, -⟩ := hs
    rw [Multiaddr.isLoopback_normalizeAddrRef]
    exact isLoopback_of_acceptsAddress hl hacc
  | removeAddress peer address =>
    cases he
    exact hnone (KeysFrom.removeAddress b peer address)
  | dial peer =>
    cases he
    exact hnone (KeysFrom.of_peers_eq (dial_peers b peer))
  | dialAddress peer addr =>
    cases he
    exact hnone (KeysFrom.dialAddress b peer addr)
  | prunePeers minAge =>
    cases he
    exact hnone (KeysFrom.prunePeers b now minAge)
  | setRtt peer rtt =>
    cases he
    exact hnone (KeysFrom.setRtt b peer rtt)
  | setInfo peer identify =>
    exact h.of_keysFrom (KeysFrom.setInfo b now he) fun _ _ _ hs =>
      isLoopback_of_isSetInfoCandidate hl h hs.2.1
  | connectionClosed peer conn n error =>
    cases he
    exact hnone (KeysFrom.connectionClosed b now peer conn n error)
  | injectConnectionEstablished peer conn n =>
    cases he
    refine h.of_keysFrom (KeysFrom.injectConnectionEstablished b now peer conn n)
      fun _ _ _ hs => ?_
    obtain ⟨rfl, hacc, rfl, -⟩ := hs
    exact isLoopback_of_acceptsAddress hl hacc
  | injectAddressChange peer old new =>
    cases he
    refine h.of_keysFrom (KeysFrom.injectAddressChange b now peer old new) fun _ _ _ hs => ?_
    obtain ⟨rfl, hacc, rfl, -⟩ := hs
    exact isLoopback_of_acceptsAddress hl hacc
  | injectDialFailure peerId handler error rand =>
    cases he
    exact hnone (KeysFrom.injectDialFailure b now peerId handler error rand)
  | injectNewListenAddr | injectExpiredListenAddr | poll =>
    cases he
    exact hnone (KeysFrom.of_peers_eq rfl)

/-- **With loopback off, the book keeps only non-loopback IPv4 addresses.**  In every run of a
book made with `enable_loopback` false, under any calls, every address of every peer starts
with an `/ip4` address outside `127.0.0.0/8`. -/
theorem book_keeps_no_loopback {b : AddressBook} (hb : BookReachable b)
    (hl : b.settings.enableLoopback = false) :
    ∀ p info a v, b.peers.lookup p = some info → info.addresses.lookup a = some v →
      ∃ ip, a.first = some (.ip4 ip) ∧ ip.isLoopback = false := by
  obtain ⟨settings, hr⟩ := hb
  -- the settings never change, so the test is the same at every step
  have h : b.settings.enableLoopback = false → b.NoLoopback := by
    refine @Reach.Reachable.invariant _ _ _
      (fun b => b.settings.enableLoopback = false → b.NoLoopback) (fun _ => noLoopback_new _ _ _ _)
      ?_ _ hr
    rintro b₁ b₂ h₁ ⟨⟨now, op⟩, -, he⟩ hl₂
    rw [BookOp.exec_settings he] at hl₂
    exact BookOp.exec_noLoopback hl₂ (h₁ hl₂) he
  intro p info a v hp ha
  exact Multiaddr.isLoopback_eq_false_iff.1 (h hl p info a v hp ha)

/-- With loopback off, we file `/ip4/10.0.0.1/tcp/4001` for peer 1 and then connect to it at
`/ip4/127.0.0.1/tcp/4001`: the connection is kept, its address is not, and the record holds
the one address. -/
theorem book_keeps_no_loopback_connected :
    ∃ b, BookReachable b ∧ b.settings.enableLoopback = false ∧
      (b.peers.lookup ⟨1⟩).map (fun info => (info.addresses.keys, info.connections.keys)) =
        some ([⟨[.ip4 ⟨10, 0, 0, 1⟩, .tcp 4001, .p2p (.peer ⟨1⟩)]⟩],
          [⟨[.ip4 ⟨127, 0, 0, 1⟩, .tcp 4001, .p2p (.peer ⟨1⟩)]⟩]) ∧
      ∀ p info a v, b.peers.lookup p = some info → info.addresses.lookup a = some v →
        ∃ ip, a.first = some (.ip4 ip) ∧ ip.isLoopback = false := by
  have hb : BookReachable _ := ⟨⟨false, false, false, ⟨0⟩⟩,
    Reach.Reachable.tail (Reach.Reachable.tail Reach.Reachable.refl
      ⟨(0, .addAddress ⟨1⟩ ⟨[.ip4 ⟨10, 0, 0, 1⟩, .tcp 4001]⟩ .user), trivial, rfl⟩)
      ⟨(0, .injectConnectionEstablished ⟨1⟩ (.dialer ⟨[.ip4 ⟨127, 0, 0, 1⟩, .tcp 4001]⟩ .dialer) 0),
        trivial, rfl⟩⟩
  exact ⟨_, hb, rfl, by decide, book_keeps_no_loopback hb rfl⟩

end IpfsEmbed
