import IpfsEmbed.Properties.Discovered
import IpfsEmbed.Properties.DialFailure
import IpfsEmbed.Net.Swarm

/-!
# What the book's calls tell its subscribers

The book sends its subscribers an event at each change they may care about; `notify` appends
it to the log `events`.  The events fall in four groups: those of a peer's record
(`Discovered`, `NewInfo`, `DialFailure`, `Unreachable`), those of our listen addresses
(`NewListenAddr`, `ExpiredListenAddr`), those of connections (`ConnectionEstablished`,
`ConnectionClosed`, `AddressChanged`, `Connected`, `Disconnected`), and those the behaviour
around the book sends through it (`Subscribed`, `Unsubscribed`, `Bootstrapped`).

`Sends P b b'` says that from `b` to `b'` the book appended events satisfying `P` and nothing
else.  It holds of `notify` with such an event, and it composes along the steps, loops and
branches the calls are written with, so each call's lemma follows the call's body.  The calls
other than the listener and connection callbacks send only record events; a listener callback
sends its one listen event; a connection callback sends record events and then connection
events, in the order its equation here states (`BookOp.sends`).  No
call sends an event of the behaviour (`BookOp.sends_own`), and every call keeps the settings.
The calls about one peer write its record alone (`OnlyPeer`).
-/

namespace IpfsEmbed

namespace Event

/-- The events of a peer's record. -/
def isRecord : Event → Bool
  | .discovered _ | .newInfo _ | .dialFailure .. | .unreachable _ => true
  | _ => false

/-- The events of our listen addresses. -/
def isListen : Event → Bool
  | .newListenAddr .. | .expiredListenAddr .. => true
  | _ => false

/-- The five events about connections. -/
def isConnection : Event → Bool
  | .connectionEstablished .. | .connectionClosed .. | .addressChanged .. | .connected _
  | .disconnected _ => true
  | _ => false

/-- The events the book sends of its own accord, as opposed to those of the behaviour. -/
def isOwn (e : Event) : Bool :=
  e.isRecord || e.isListen || e.isConnection

end Event

/-- The listener callbacks. -/
def BookOp.isListenCallback : BookOp → Bool
  | .injectNewListenAddr .. | .injectExpiredListenAddr .. => true
  | _ => false

namespace AddressBook

/-- From `b` to `b'` the settings stay, and the book appended to its log events satisfying `P`
and nothing else. -/
structure Sends (P : Event → Prop) (b b' : AddressBook) : Prop where
  settings : b'.settings = b.settings
  events : ∃ new, b'.events = b.events ++ new ∧ ∀ e ∈ new, P e

namespace Sends

variable {P Q : Event → Prop} {b b₁ b' b'' : AddressBook}

theorem of_eq (hs : b'.settings = b.settings) (he : b'.events = b.events) : Sends P b b' :=
  ⟨hs, [], by rw [he, List.append_nil], fun _ h => absurd h List.not_mem_nil⟩

theorem refl (b : AddressBook) : Sends P b b :=
  of_eq rfl rfl

theorem trans (h₁ : Sends P b b') (h₂ : Sends P b' b'') : Sends P b b'' := by
  obtain ⟨new₁, he₁, hq₁⟩ := h₁.events
  obtain ⟨new₂, he₂, hq₂⟩ := h₂.events
  refine ⟨h₂.settings.trans h₁.settings, new₁ ++ new₂, by rw [he₂, he₁, List.append_assoc],
    fun e he => ?_⟩
  rcases List.mem_append.1 he with he | he
  · exact hq₁ e he
  · exact hq₂ e he

/-- What follows a stretch that sends events satisfying `P`. -/
theorem append (h : Sends P b b₁) (hs : b'.settings = b₁.settings) {tail : List Event}
    (he : b'.events = b₁.events ++ tail) (ht : ∀ e ∈ tail, P e) : Sends P b b' :=
  h.trans ⟨hs, tail, he, ht⟩

theorem notify (h : Sends P b b') {e : Event} (he : P e) : Sends P b (b'.notify e) :=
  h.append rfl rfl fun _ h' => List.mem_singleton.1 h' ▸ he

theorem ite {c : Prop} [Decidable c] {b₁ b₂ : AddressBook} (h₁ : c → Sends P b b₁)
    (h₂ : ¬c → Sends P b b₂) : Sends P b (if c then b₁ else b₂) := by
  by_cases h : c
  · rw [if_pos h]
    exact h₁ h
  · rw [if_neg h]
    exact h₂ h

/-- A loop whose every step sends events satisfying `P`. -/
theorem foldl {α : Type} (g : AddressBook → α → AddressBook) (hg : ∀ b x, Sends P b (g b x))
    (l : List α) (b : AddressBook) : Sends P b (l.foldl g b) := by
  induction l generalizing b with
  | nil => exact refl b
  | cons x l ih => exact (hg b x).trans (ih (g b x))

theorem mono (h : Sends P b b') (hPQ : ∀ e, P e → Q e) : Sends Q b b' := by
  obtain ⟨new, hn, hq⟩ := h.events
  exact ⟨h.settings, new, hn, fun e he => hPQ e (hq e he)⟩

end Sends

/-! ## The calls that send record events -/

section Record

variable (b : AddressBook) (now : DateTime)

theorem sends_setPeer (p : PeerId) (info : PeerInfo) : Sends (·.isRecord) b (b.setPeer p info) :=
  .of_eq rfl rfl

theorem sends_addAddress (peer : PeerId) (address : Multiaddr) (source : AddressSource) :
    Sends (·.isRecord) b (b.addAddress now peer address source) := by
  by_cases ha : b.acceptsAddress peer address
  · refine (Sends.refl b).append (addAddress_settings b now peer address source)
      (by rw [addAddress_events, if_pos ha]) fun e he => ?_
    have : e = .discovered peer ∨ e = .newInfo peer := by
      simp only [List.mem_append, List.mem_singleton] at he
      split_ifs at he <;> simp_all
    rcases this with rfl | rfl <;> rfl
  · exact .of_eq (addAddress_settings b now peer address source)
      (by rw [addAddress_events, if_neg ha])

theorem sends_removeAddress (peer : PeerId) (address : Multiaddr) :
    Sends (·.isRecord) b (b.removeAddress peer address) := by
  unfold removeAddress
  split
  · exact sends_setPeer b _ _
  · exact .refl b

theorem sends_dial (peer : PeerId) : Sends (·.isRecord) b (b.dial peer) := by
  unfold dial
  exact .ite (fun _ => .refl b) fun _ => .of_eq rfl rfl

theorem sends_dialAddress (peer : PeerId) (addr : Multiaddr) :
    Sends (·.isRecord) b (b.dialAddress peer addr) := by
  unfold dialAddress
  exact .ite (fun _ => .refl b) fun _ => .ite (fun _ => .of_eq rfl rfl) fun _ => .of_eq rfl rfl

theorem sends_prunePeers (minAge : Duration) : Sends (·.isRecord) b (b.prunePeers now minAge) := by
  unfold prunePeers
  refine Sends.foldl _ (fun _ _ => ?_) _ b
  refine Sends.notify (.of_eq ?_ ?_) ?_ <;> rfl

theorem sends_setRtt (peer : PeerId) (rtt : Option Duration) :
    Sends (·.isRecord) b (b.setRtt peer rtt) := by
  unfold setRtt
  split
  · exact Sends.notify (sends_setPeer b _ _) rfl
  · exact .refl b

theorem sends_setInfo {peer : PeerId} {identify : IdentifyInfo} {b' : AddressBook}
    (he : b.setInfo now peer identify = some b') : Sends (·.isRecord) b b' := by
  rcases setInfo_eq_some he with ⟨-, rfl⟩ | ⟨info, ts, -, -, rfl⟩
  · exact .refl _
  · refine Sends.notify (.of_eq ?_ ?_) ?_ <;> rfl

/-- The events the transport loop collects are dial failures. -/
theorem mem_foldl_transportFailureStep_events (keepAlive : Bool) (q : PeerId)
    (v : List (Multiaddr × TransportError)) (info : PeerInfo) (es : List Event)
    (ds : List NetworkBehaviourAction) {e : Event}
    (he : e ∈ (v.foldl (transportFailureStep keepAlive now q) (info, es, ds)).2.1) :
    e ∈ es ∨ ∃ a, e = .dialFailure q a := by
  induction v generalizing info es ds with
  | nil => exact .inl he
  | cons ae v ih =>
    rcases ih _ _ _ he with he | he
    · rcases List.mem_append.1 he with he | he
      · exact .inl he
      · exact .inr ⟨ae.1, List.mem_singleton.1 he⟩
    · exact .inr he

theorem sends_transportDialFailure (q : PeerId) (info : PeerInfo)
    (v : List (Multiaddr × TransportError)) (rand : Nat → UInt32) :
    Sends (·.isRecord) b (b.transportDialFailure now q info v rand) := by
  have hr : ∀ e ∈ (v.foldl (transportFailureStep b.settings.keepAlive now q) (info, [], [])).2.1,
      e.isRecord := by
    intro e he
    rcases mem_foldl_transportFailureStep_events now _ q v info [] [] he with he | ⟨a, rfl⟩
    · exact absurd he List.not_mem_nil
    · rfl
  unfold transportDialFailure
  dsimp only
  generalize v.foldl (transportFailureStep b.settings.keepAlive now q) (info, [], []) = r at hr ⊢
  -- a failure per reported address, then `Unreachable` when no redial is due, then the redials
  have hfail : Sends (·.isRecord) b (r.2.1.foldl notify (b.setPeer q r.1)) :=
    (sends_setPeer b q r.1).append (by rw [foldl_notify]) (by rw [foldl_notify]) hr
  refine Sends.notify (Sends.trans ?_ (Sends.foldl _ (fun _ _ => ?_) _ _)) ?_
  · exact .ite (fun _ => Sends.notify hfail rfl) fun _ => hfail
  · exact .of_eq rfl rfl
  · rfl

theorem sends_injectDialFailure (peerId : Option PeerId) (handler : IntoAddressHandler)
    (error : DialError) (rand : Nat → UInt32) :
    Sends (·.isRecord) b (b.injectDialFailure now peerId handler error rand) := by
  unfold injectDialFailure
  split
  · exact .refl b
  next q _ =>
  split
  · exact .refl b
  next info _ =>
  split
  · -- our own validation dial: the failure and the new record
    unfold validationDialFailure
    dsimp only
    refine Sends.notify (Sends.notify ?_ ?_) ?_
    · exact .ite (fun _ => .of_eq rfl rfl) fun _ => .of_eq rfl rfl
    all_goals rfl
  · split
    · exact sends_transportDialFailure b now q info _ rand
    all_goals first | exact .refl b | exact Sends.notify (.refl b) rfl

end Record

/-! ## The listener and connection callbacks -/

section Callbacks

variable (b : AddressBook) (now : DateTime) (peer : PeerId)

theorem sends_injectNewListenAddr (id : ListenerId) (addr : Multiaddr) :
    Sends (·.isListen) b (b.injectNewListenAddr id addr) := by
  unfold injectNewListenAddr
  refine Sends.notify (.of_eq ?_ ?_) ?_ <;> rfl

theorem sends_injectExpiredListenAddr (id : ListenerId) (addr : Multiaddr) :
    Sends (·.isListen) b (b.injectExpiredListenAddr id addr) := by
  unfold injectExpiredListenAddr
  refine Sends.notify (.of_eq ?_ ?_) ?_ <;> rfl

@[simp] theorem injectConnectionEstablished_settings (conn : ConnectedPoint) (n : Nat) :
    (b.injectConnectionEstablished now peer conn n).settings = b.settings := by
  unfold injectConnectionEstablished
  split_ifs <;> simp

@[simp] theorem injectAddressChange_settings (old new : ConnectedPoint) :
    (b.injectAddressChange now peer old new).settings = b.settings := by
  simp [injectAddressChange]

/-- `inject_connection_established` files the address, then sends `Connected` for the first
connection and `ConnectionEstablished` with the normalized endpoint. -/
theorem injectConnectionEstablished_events (conn : ConnectedPoint) (n : Nat) :
    (b.injectConnectionEstablished now peer conn n).events =
      (b.addAddress now peer (normalizeConnectedPoint conn b.settings.localPeerId peer).getRemoteAddress
          (if (normalizeConnectedPoint conn b.settings.localPeerId peer).isDialer then .dial
            else .incoming)).events ++
        ((if n = 0 then [.connected peer] else []) ++
          [.connectionEstablished peer (normalizeConnectedPoint conn b.settings.localPeerId peer)]) := by
  unfold injectConnectionEstablished
  by_cases hn : n = 0 <;> simp [hn]

/-- `connection_closed` sends `ConnectionClosed`, `Disconnected` when no connection is left,
and `NewInfo`. -/
theorem connectionClosed_events (conn : ConnectedPoint) (n : Nat) (error : Option ConnectionError) :
    (b.connectionClosed now peer conn n error).events =
      b.events ++ (.connectionClosed peer (normalizeConnectedPoint conn b.settings.localPeerId peer) ::
        (if n = 0 then [.disconnected peer] else [])) ++ [.newInfo peer] := by
  unfold connectionClosed
  split_ifs <;> simp

/-- `inject_address_change` files the new address, then sends `AddressChanged`. -/
theorem injectAddressChange_events (old new : ConnectedPoint) :
    (b.injectAddressChange now peer old new).events =
      (b.addAddress now peer (normalizeConnectedPoint new b.settings.localPeerId peer).getRemoteAddress
          (if (normalizeConnectedPoint new b.settings.localPeerId peer).isDialer then .dial
            else .incoming)).events ++
        [.addressChanged peer (normalizeConnectedPoint old b.settings.localPeerId peer)
          (normalizeConnectedPoint new b.settings.localPeerId peer)] := by
  simp [injectAddressChange]

theorem sends_injectConnectionEstablished (conn : ConnectedPoint) (n : Nat) :
    Sends (fun e => e.isRecord ∨ e.isConnection) b (b.injectConnectionEstablished now peer conn n) :=
  ((sends_addAddress b now peer _ _).mono fun _ h => .inl h).append (by simp)
    (injectConnectionEstablished_events b now peer conn n)
    (by split_ifs <;> simp [Event.isConnection])

theorem sends_connectionClosed (conn : ConnectedPoint) (n : Nat) (error : Option ConnectionError) :
    Sends (fun e => e.isRecord ∨ e.isConnection) b (b.connectionClosed now peer conn n error) :=
  (Sends.refl b).append (by simp) (by rw [connectionClosed_events, List.append_assoc])
    (by split_ifs <;> simp [Event.isRecord, Event.isConnection])

theorem sends_injectAddressChange (old new : ConnectedPoint) :
    Sends (fun e => e.isRecord ∨ e.isConnection) b (b.injectAddressChange now peer old new) :=
  ((sends_addAddress b now peer _ _).mono fun _ h => .inl h).append (by simp)
    (injectAddressChange_events b now peer old new) (by simp [Event.isConnection])

end Callbacks

/-! ## The one record a call writes

Most calls write the record of the one peer they are about and leave every other record as it
was; the subscribers' `NewInfo` and the book's frame properties both rest on this. -/

/-- The records of the peers other than `peer` are those of `b`. -/
def OnlyPeer (peer : PeerId) (b b' : AddressBook) : Prop :=
  ∀ q, q ≠ peer → b'.peers.lookup q = b.peers.lookup q

section OnlyPeer

variable {b b' b'' : AddressBook} {peer : PeerId}

theorem onlyPeer_insert {v : PeerInfo} (h : b'.peers = b.peers.insert peer v) :
    OnlyPeer peer b b' := by
  intro q hq
  rw [h, AList.lookup_insert_ne hq]

theorem OnlyPeer.trans (h₁ : OnlyPeer peer b b') (h₂ : OnlyPeer peer b' b'') :
    OnlyPeer peer b b'' :=
  fun q hq => (h₂ q hq).trans (h₁ q hq)

variable (b) (now : DateTime)

theorem addAddress_onlyPeer (address : Multiaddr) (source : AddressSource) :
    OnlyPeer peer b (b.addAddress now peer address source) := by
  cases h : b.acceptsAddress peer address
  · rw [addAddress_of_not_accepts b h]
    exact fun _ _ => rfl
  · exact onlyPeer_insert (by rw [addAddress_peers, if_pos h])

theorem dialAddress_onlyPeer (addr : Multiaddr) : OnlyPeer peer b (b.dialAddress peer addr) := by
  by_cases hl : peer = b.settings.localPeerId
  · intro q _
    rw [dialAddress_peers, if_pos hl]
  · exact onlyPeer_insert (by rw [dialAddress_peers, if_neg hl])

theorem connectionClosed_onlyPeer (conn : ConnectedPoint) (n : Nat)
    (error : Option ConnectionError) : OnlyPeer peer b (b.connectionClosed now peer conn n error) :=
  onlyPeer_insert (connectionClosed_peers b now peer conn n error)

/-- The connection callbacks are an `add_address` for the peer, then a change of its
connections. -/
theorem injectConnectionEstablished_onlyPeer (conn : ConnectedPoint) (n : Nat) :
    OnlyPeer peer b (b.injectConnectionEstablished now peer conn n) :=
  (addAddress_onlyPeer b now _ _).trans
    (onlyPeer_insert (injectConnectionEstablished_peers b now peer conn n))

theorem injectAddressChange_onlyPeer (old new : ConnectedPoint) :
    OnlyPeer peer b (b.injectAddressChange now peer old new) :=
  (addAddress_onlyPeer b now _ _).trans (onlyPeer_insert (injectAddressChange_peers b now peer old new))

end OnlyPeer

end AddressBook

open AddressBook

variable {b b' : AddressBook} {now : DateTime} {op : BookOp}

/-- **What each call sends**: record events, and besides them the listen event of a listener
callback and the connection events of a connection callback. -/
theorem BookOp.sends (he : op.exec b now = some b') :
    Sends (fun e => e.isRecord ∨ op.isListenCallback ∧ e.isListen ∨
      op.isConnectionCallback ∧ e.isConnection) b b' := by
  -- a call of either callback kind sends what its lemma says; any other sends record events
  have hrec : ∀ {b₁ : AddressBook}, Sends (·.isRecord) b b₁ → Sends (fun e => e.isRecord ∨
      op.isListenCallback ∧ e.isListen ∨ op.isConnectionCallback ∧ e.isConnection) b b₁ :=
    fun h => h.mono fun _ h => .inl h
  cases op with
  | addAddress peer address source => cases he; exact hrec (sends_addAddress b now peer address source)
  | removeAddress peer address => cases he; exact hrec (sends_removeAddress b peer address)
  | dial peer => cases he; exact hrec (sends_dial b peer)
  | dialAddress peer addr => cases he; exact hrec (sends_dialAddress b peer addr)
  | prunePeers minAge => cases he; exact hrec (sends_prunePeers b now minAge)
  | setRtt peer rtt => cases he; exact hrec (sends_setRtt b peer rtt)
  | setInfo peer identify => exact hrec (sends_setInfo b now he)
  | injectDialFailure peerId handler error rand =>
    cases he
    exact hrec (sends_injectDialFailure b now peerId handler error rand)
  | poll => cases he; exact hrec (.of_eq rfl rfl)
  | injectNewListenAddr id addr =>
    cases he
    exact (sends_injectNewListenAddr b id addr).mono fun _ h => .inr (.inl ⟨rfl, h⟩)
  | injectExpiredListenAddr id addr =>
    cases he
    exact (sends_injectExpiredListenAddr b id addr).mono fun _ h => .inr (.inl ⟨rfl, h⟩)
  | connectionClosed peer conn n error =>
    cases he
    exact (sends_connectionClosed b now peer conn n error).mono fun _ h =>
      h.elim .inl fun h => .inr (.inr ⟨rfl, h⟩)
  | injectConnectionEstablished peer conn n =>
    cases he
    exact (sends_injectConnectionEstablished b now peer conn n).mono fun _ h =>
      h.elim .inl fun h => .inr (.inr ⟨rfl, h⟩)
  | injectAddressChange peer old new =>
    cases he
    exact (sends_injectAddressChange b now peer old new).mono fun _ h =>
      h.elim .inl fun h => .inr (.inr ⟨rfl, h⟩)

/-- The book sends no event of the behaviour: `Subscribed`, `Unsubscribed` and `Bootstrapped`
come only from the behaviour around it. -/
theorem BookOp.sends_own (he : op.exec b now = some b') : Sends (·.isOwn) b b' :=
  (BookOp.sends he).mono fun e h => by
    rcases h with h | ⟨-, h⟩ | ⟨-, h⟩ <;> simp [Event.isOwn, h]

theorem BookOp.exec_settings (he : op.exec b now = some b') : b'.settings = b.settings :=
  (BookOp.sends he).settings

end IpfsEmbed
