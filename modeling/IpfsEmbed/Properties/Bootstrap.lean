import IpfsEmbed.Properties.Node
import IpfsEmbed.Properties.Events

/-!
# The `Bootstrapped` event against the `bootstrapped` flag

`poll_swarm` keeps the flag `bootstrapped`, which `NetworkService::is_bootstrapped` reads and
which `provide`, `providers`, `get_record` and `put_record` check before they start a Kademlia
query: until it is set they answer `NotBootstrapped`.  The flag is set when the last step of a
Kademlia bootstrap completes, and at that turn the behaviour sends `Bootstrapped` through the
book to the book's subscribers.

In every run of the swarm task the flag is set exactly when `Bootstrapped` has been sent.  No turn clears the flag, no other turn sends the event, and
the book never sends it of its own (`BookOp.sends_own`); every turn but the completion of a
bootstrap keeps both (`Node.KeepsFlag`).  So the record queries are refused with
`NotBootstrapped` exactly until the subscribers have been told `Bootstrapped`.
-/

namespace IpfsEmbed

namespace Node

variable {n n' n'' : Node}

/-- From `n` to `n'` the flag stays, and the book keeps its settings and sends no
`Bootstrapped`. -/
structure KeepsFlag (n n' : Node) : Prop where
  flag : n'.bootstrapped = n.bootstrapped
  sends : AddressBook.Sends (· ≠ .bootstrapped) n.book n'.book

namespace KeepsFlag

theorem of_eq (hb : n'.book = n.book) (hf : n'.bootstrapped = n.bootstrapped) : KeepsFlag n n' :=
  ⟨hf, .of_eq (by rw [hb]) (by rw [hb])⟩

theorem refl (n : Node) : KeepsFlag n n :=
  of_eq rfl rfl

theorem trans (h₁ : KeepsFlag n n') (h₂ : KeepsFlag n' n'') : KeepsFlag n n'' :=
  ⟨h₂.flag.trans h₁.flag, h₁.sends.trans h₂.sends⟩

/-- A call of the book: the book sends only events of its own. -/
theorem call {b : AddressBook} (now : DateTime) (op : BookOp) (he : op.exec n.book now = some b) :
    KeepsFlag n { n with book := b } :=
  ⟨rfl, (BookOp.sends_own he).mono fun _ h hb => by rw [hb] at h; exact absurd h Bool.false_ne_true⟩

/-- An event of the behaviour other than `Bootstrapped`. -/
theorem notify (n : Node) {e : Event} (he : e ≠ .bootstrapped) :
    KeepsFlag n (n.withBook (·.notify e)) :=
  ⟨rfl, AddressBook.Sends.notify (.refl _) he⟩

theorem foldl {α : Type} (f : Node → α → Node) (hf : ∀ n a, KeepsFlag n (f n a)) :
    ∀ (l : List α) (n : Node), KeepsFlag n (l.foldl f n)
  | [], n => refl n
  | a :: l, n => (hf n a).trans (foldl f hf l (f n a))

/-! ### The query handlers keep the book and the flag -/

theorem bootstrap (tx : Nat) (started : Bool) : KeepsFlag n (n.bootstrap tx started) := by
  unfold Node.bootstrap
  split_ifs <;> exact of_eq rfl rfl

theorem kadQuery (kind : QueryKind) (tx : Nat) (started : Bool) :
    KeepsFlag n (n.kadQuery kind tx started) := by
  unfold Node.kadQuery
  split_ifs <;> exact of_eq rfl rfl

theorem bitswapQuery {kind : QueryKind} {id : QueryId} {rx : Nat}
    (he : n.bitswapQuery kind = some (id, rx, n')) : KeepsFlag n n' := by
  unfold Node.bitswapQuery at he
  split_ifs at he
  cases he
  exact of_eq rfl rfl

theorem finishKad (id : Nat) (kind : QueryKind) (result : Except QueryError Unit) :
    KeepsFlag n (n.finishKad id kind result) := by
  unfold Node.finishKad
  split
  · split_ifs <;> exact of_eq rfl rfl
  · exact of_eq rfl rfl

theorem injectBitswapEvent (e : BitswapEvent) : KeepsFlag n (n.injectBitswapEvent e) := by
  cases e <;> simp only [Node.injectBitswapEvent] <;> split <;> exact of_eq rfl rfl

/-! ### The other handlers -/

theorem addAddress (now : DateTime) (peer : PeerId) (addr : Multiaddr) (source : AddressSource) :
    KeepsFlag n (n.addAddress now peer addr source) :=
  call now (.addAddress peer addr source) rfl

theorem injectMdnsEvent (now : DateTime) (e : MdnsEvent) : KeepsFlag n (n.injectMdnsEvent now e) := by
  cases e with
  | discovered list => exact foldl _ (fun n pa => addAddress now pa.1 pa.2 .mdns) list n
  | expired => exact refl n

theorem injectPingEvent (e : PingEvent) : KeepsFlag n (n.injectPingEvent e) := by
  unfold Node.injectPingEvent
  split
  · exact call 0 (.setRtt e.peer (some _)) rfl
  · exact refl n
  · exact call 0 (.setRtt e.peer none) rfl
  · exact call 0 (.setRtt e.peer none) rfl
  · exact refl n

theorem injectIdEvent {now : DateTime} {e : IdentifyEvent} (he : n.injectIdEvent now e = some n') :
    KeepsFlag n n' := by
  cases e with
  | received peer info =>
    obtain ⟨b, hb, rfl⟩ := Option.map_eq_some_iff.1 he
    exact call now (.setInfo peer info) hb
  | other =>
    cases he
    exact refl n

theorem injectGossipEvent (peer : PeerId) (e : GossipsubEvent) :
    KeepsFlag n (n.injectGossipEvent peer e) := by
  -- a change of subscriptions is told to the book's subscribers; the rest is the topic's own
  cases e with
  | subscribed topic => exact (notify n (by simp)).trans (of_eq rfl rfl)
  | unsubscribed topic => exact (notify n (by simp)).trans (of_eq rfl rfl)
  | message _ | gossipsubNotSupported => exact of_eq rfl rfl

theorem injectBroadcastEvent {peer : PeerId} {e : BroadcastEvent}
    (he : n.injectBroadcastEvent peer e = some n') : KeepsFlag n n' := by
  unfold Node.injectBroadcastEvent at he
  obtain ⟨st, -, rfl⟩ := Option.map_eq_some_iff.1 he
  have helim : ∀ (o : Option String) (f : String → Event), (∀ t, f t ≠ .bootstrapped) →
      KeepsFlag n (o.elim n fun t => n.withBook (·.notify (f t))) := by
    intro o f hf
    cases o with
    | none => exact refl n
    | some t => exact notify n (hf t)
  cases e with
  | subscribed topic => exact (helim _ _ fun _ => by simp).trans (of_eq rfl rfl)
  | unsubscribed topic => exact (helim _ _ fun _ => by simp).trans (of_eq rfl rfl)
  | received topic => exact of_eq rfl rfl

theorem handleCommand {now : DateTime} {cmd : NetworkCommand}
    (he : n.handleCommand now cmd = some n') : KeepsFlag n n' := by
  -- creating the reply channel keeps the book and the flag
  have h₁ : KeepsFlag n n.newChannel.2 := of_eq rfl rfl
  cases cmd with
  | listenOn addr listenOk =>
    cases he
    cases listenOk <;> exact of_eq rfl rfl
  | addExternalAddress | ban | unban | unprovide | removeRecord => cases he; exact refl n
  | addAddress peer addr => cases he; exact addAddress now peer addr .user
  | removeAddress peer addr => cases he; exact call now (.removeAddress peer addr) rfl
  | prunePeers minAge => cases he; exact call now (.prunePeers minAge) rfl
  | dial peer => cases he; exact call now (.dial peer) rfl
  | dialAddress peer addr => cases he; exact call now (.dialAddress peer addr) rfl
  | bootstrap initial started =>
    cases he
    -- every initial peer is added and dialled
    have hfold := foldl (fun n pa => (n.addAddress now pa.1 pa.2 .user).withBook (·.dial pa.1))
      (fun _ pa => (addAddress now pa.1 pa.2 .user).trans (call now (.dial pa.1) rfl))
      initial n.newChannel.2
    exact (h₁.trans hfold).trans (bootstrap _ _)
  | providers | provide _ | getRecord | putRecord _ => cases he; exact h₁.trans (kadQuery _ _ _)
  | subscribe _ _ | publish _ | broadcast | swarmEvents => cases he; exact of_eq rfl rfl
  | get =>
    rw [handleCommand_get] at he
    obtain ⟨⟨id, rx, n₂⟩, hget, hn⟩ := Option.bind_eq_some_iff.1 he
    cases hn
    exact (h₁.trans (bitswapQuery hget)).trans (of_eq rfl rfl)
  | sync =>
    rw [handleCommand_sync] at he
    obtain ⟨⟨id, rx, n₂⟩, hsync, hn⟩ := Option.bind_eq_some_iff.1 he
    cases hn
    exact (h₁.trans (bitswapQuery hsync)).trans (of_eq rfl rfl)
  | cancelQuery id =>
    rw [cancel_eq_some he]
    exact of_eq rfl rfl

end KeepsFlag

/-- A Kademlia event keeps the flag and sends no `Bootstrapped`, or it completes a bootstrap:
it sets the flag and sends `Bootstrapped` after what the book had sent. -/
theorem injectKadEvent_cases (e : KademliaEvent) :
    KeepsFlag n (n.injectKadEvent e) ∨
      ((n.injectKadEvent e).bootstrapped = true ∧
        (n.injectKadEvent e).book.events = n.book.events ++ [.bootstrapped]) := by
  cases e with
  | outboundQueryCompleted id result =>
    cases result with
    | bootstrap r =>
      cases r with
      | ok numRemaining =>
        simp only [Node.injectKadEvent]
        split_ifs
        · -- the last step sets the flag, answers the bootstrap, and tells the subscribers
          refine .inr ⟨?_, ?_⟩ <;> unfold Node.finishKad <;> split <;> (try split_ifs) <;> rfl
        · exact .inl (.refl n)
      | error _ => exact .inl (.finishKad _ _ _)
    | getClosestPeers _ | getProviders _ | startProviding _ | getRecord _ | putRecord _ =>
      exact .inl (.finishKad _ _ _)
    | republishProvider _ | republishRecord _ => exact .inl (.refl n)
  | other => exact .inl (.refl n)

end Node

open Node

/-! ## Every run -/

/-- The flag is set exactly when `Bootstrapped` has been sent. -/
def FlagTracked (n : Node) : Prop :=
  n.bootstrapped = true ↔ Event.bootstrapped ∈ n.book.events

theorem FlagTracked.keeps {n n' : Node} (h : FlagTracked n) (hk : KeepsFlag n n') :
    FlagTracked n' := by
  obtain ⟨new, hn, hq⟩ := hk.sends.events
  unfold FlagTracked at h ⊢
  rw [hk.flag, hn, List.mem_append, h]
  -- what the turn sent is not `Bootstrapped`
  exact ⟨.inl, fun h' => h'.elim id fun hm => absurd rfl (hq _ hm)⟩

theorem FlagTracked.step {n n' : Node} (h : FlagTracked n) {now : DateTime} {i : SwarmInput}
    (he : n.step now i = some n') : FlagTracked n' := by
  cases i with
  | command cmd => exact h.keeps (KeepsFlag.handleCommand he)
  | connectionClosed peer endpoint numEstablished cause =>
    cases he
    exact h.keeps (KeepsFlag.call now (.connectionClosed peer endpoint numEstablished cause) rfl)
  | kad e =>
    cases he
    rcases injectKadEvent_cases e with hk | ⟨hflag, hevents⟩
    · exact h.keeps hk
    · -- the completion of a bootstrap: both hold from now on
      rw [FlagTracked, hflag, hevents]
      exact ⟨fun _ => List.mem_append_right _ List.mem_cons_self, fun _ => rfl⟩
  | mdns e => cases he; exact h.keeps (KeepsFlag.injectMdnsEvent now e)
  | ping e => cases he; exact h.keeps (KeepsFlag.injectPingEvent e)
  | identify e => exact h.keeps (KeepsFlag.injectIdEvent he)
  | bitswap e => cases he; exact h.keeps (KeepsFlag.injectBitswapEvent e)
  | gossipsub peer e => cases he; exact h.keeps (KeepsFlag.injectGossipEvent peer e)
  | broadcast peer e => exact h.keeps (KeepsFlag.injectBroadcastEvent he)
  | callback op =>
    obtain ⟨b, hb, rfl⟩ := Option.map_eq_some_iff.1 he
    exact h.keeps (KeepsFlag.call now op hb)
  | dropReceiver rx => cases he; exact h.keeps (KeepsFlag.of_eq rfl rfl)

theorem reachable_flagTracked {n : Node} (hn : NodeReachable n) : FlagTracked n := by
  obtain ⟨config, hr⟩ := hn
  -- a new task is not bootstrapped and its book has sent nothing
  have h0 : FlagTracked (Node.init config) := ⟨fun h => absurd h Bool.false_ne_true, fun h =>
    absurd h List.not_mem_nil⟩
  refine Reach.Reachable.invariant h0 ?_ hr
  rintro n₁ n₂ h ⟨⟨now, i⟩, -, he⟩
  exact h.step he

/-- A record query is refused with `NotBootstrapped` exactly when the flag is not set. -/
theorem kadQuery_refused_iff (n : Node) (kind : QueryKind) (tx : Nat) (started : Bool) :
    (n.kadQuery kind tx started).sent = n.sent ++ [(tx, .result (.error .notBootstrapped))] ↔
      n.bootstrapped = false := by
  unfold Node.kadQuery
  split_ifs with hb hk hs <;> simp [hb]

/-- **`Bootstrapped` tracks the flag.**  In every run of the swarm task, the flag that
`is_bootstrapped` reads is set exactly when the book's subscribers have been sent
`Bootstrapped`; so a record query (`provide`, `providers`, `get_record`, `put_record`) is
refused with `NotBootstrapped` exactly until then. -/
theorem bootstrap_event_tracks_flag {n : Node} (hn : NodeReachable n) :
    (n.bootstrapped = true ↔ Event.bootstrapped ∈ n.book.events) ∧
      ∀ kind tx started,
        (n.kadQuery kind tx started).sent = n.sent ++ [(tx, .result (.error .notBootstrapped))] ↔
          Event.bootstrapped ∉ n.book.events := by
  have h : n.bootstrapped = true ↔ Event.bootstrapped ∈ n.book.events := reachable_flagTracked hn
  refine ⟨h, fun kind tx started => ?_⟩
  rw [kadQuery_refused_iff, ← h, Bool.not_eq_true]

/-- With Kademlia on, a bootstrap whose last step completes sets the flag, and the subscribers
have been sent `Bootstrapped`. -/
theorem bootstrap_event_tracks_flag_completed :
    ∃ n, NodeReachable n ∧ n.bootstrapped = true ∧ Event.bootstrapped ∈ n.book.events := by
  have hn : NodeReachable _ := ⟨⟨⟨true, false, false, false, false⟩, false, false,
      ⟨false, false, false, ⟨0⟩⟩⟩,
    Reach.Reachable.tail (Reach.Reachable.tail Reach.Reachable.refl
      ⟨(0, .command (.bootstrap [] true)), rfl, rfl⟩)
      ⟨(0, .kad (.outboundQueryCompleted 0 (.bootstrap (.ok 0)))), rfl, rfl⟩⟩
  exact ⟨_, hn, rfl, (bootstrap_event_tracks_flag hn).1.1 rfl⟩

end IpfsEmbed
