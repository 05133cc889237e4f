import IpfsEmbed.Properties.Queries

/-!
# The swarm task around the address book and the subscriptions

Outside its query table, a turn of the swarm task calls the address book, sends the book's
subscribers an event (`Bootstrapped`, or a peer's change of subscriptions), or calls the
subscription state.  It never changes which protocols are on, and only the last step of a
Kademlia bootstrap, which Kademlia alone reports, sets `bootstrapped` (`Outside`).

So the task's subscription state goes through a run of its own calls (`Outside.run`), and
`bootstrapped` implies that Kademlia is on (`reachable_bootstrapped_kad`).

Two results are about commands.  Handling a command panics exactly when the command needs
bitswap and bitswap is off (`handleCommand_isSome_iff`).  Otherwise, a command that carries a
reply channel has, right after it is handled, an answer on it or a query waiting on it: no
reply channel is dropped unanswered.
-/

namespace IpfsEmbed

/-- One call of the subscription state, with any arguments. -/
def pubSubStep : PubSub → PubSub → Prop :=
  Reach.stepOf PubSubOp.exec fun _ _ => True

/-- The commands that go through bitswap: `Get`, `Sync` and the cancelling of a bitswap
query. -/
def NetworkCommand.needsBitswap : NetworkCommand → Bool
  | .get | .sync | .cancelQuery (.bitswap _) => true
  | _ => false

/-- The commands whose reply channel is answered or waited on: all those with a reply
channel except `ListenOn`, whose channel only hears of a failure. -/
def NetworkCommand.hasReply : NetworkCommand → Bool
  | .bootstrap .. | .providers | .provide _ | .getRecord | .putRecord _ | .subscribe ..
  | .publish _ | .broadcast | .get | .sync | .swarmEvents => true
  | _ => false

namespace Node

variable {n n' n'' : Node}

/-- From `n` to `n'`, outside the query table: the subscription state goes through a run of its
own, the protocols stay, and `bootstrapped` is set only with Kademlia on. -/
structure Outside (n n' : Node) : Prop where
  pubsub : Relation.ReflTransGen pubSubStep n.pubsub n'.pubsub
  protocols : n'.protocols = n.protocols
  bootstrapped : n'.bootstrapped = true → n.bootstrapped = true ∨ n.protocols.kad = true

namespace Outside

theorem refl (n : Node) : Outside n n :=
  ⟨.refl, rfl, .inl⟩

theorem trans (h₁ : Outside n n') (h₂ : Outside n' n'') : Outside n n'' where
  pubsub := h₁.pubsub.trans h₂.pubsub
  protocols := h₂.protocols.trans h₁.protocols
  bootstrapped hb := by
    rcases h₂.bootstrapped hb with hb | hkad
    · exact h₁.bootstrapped hb
    · exact .inr (h₁.protocols ▸ hkad)

/-- An operation of the query table or the book alone. -/
theorem of_eq (hp : n'.pubsub = n.pubsub) (hpr : n'.protocols = n.protocols)
    (hbs : n'.bootstrapped = n.bootstrapped) : Outside n n' where
  pubsub := by rw [hp]
  protocols := hpr
  bootstrapped hb := .inl (hbs ▸ hb)

/-- A call of the book. -/
theorem call (b : AddressBook) : Outside n { n with book := b } :=
  of_eq rfl rfl rfl

/-- An event sent to the book's subscribers. -/
theorem notify (n : Node) (e : Event) : Outside n (n.withBook (·.notify e)) :=
  of_eq rfl rfl rfl

/-- A call of the subscription state. -/
theorem pubsubCall {st : PubSub} (op : PubSubOp) (he : op.exec n.pubsub = some st) :
    Outside n { n with pubsub := st } :=
  ⟨.single ⟨op, trivial, he⟩, rfl, .inl⟩

/-- A fold of operations each of which stays outside. -/
theorem foldl {α : Type} (f : Node → α → Node) (hf : ∀ n a, Outside n (f n a)) :
    ∀ (l : List α) (n : Node), Outside n (l.foldl f n)
  | [], n => refl n
  | a :: l, n => (hf n a).trans (foldl f hf l (f n a))

/-! ### The query handlers stay inside the table -/

theorem bootstrap (tx : Nat) (started : Bool) : Outside n (n.bootstrap tx started) := by
  unfold Node.bootstrap
  split_ifs <;> exact of_eq rfl rfl rfl

theorem kadQuery (kind : QueryKind) (tx : Nat) (started : Bool) :
    Outside n (n.kadQuery kind tx started) := by
  unfold Node.kadQuery
  split_ifs <;> exact of_eq rfl rfl rfl

theorem bitswapQuery {kind : QueryKind} {id : QueryId} {rx : Nat}
    (he : n.bitswapQuery kind = some (id, rx, n')) : Outside n n' := by
  unfold Node.bitswapQuery at he
  split_ifs at he
  cases he
  exact of_eq rfl rfl rfl

theorem finishKad (id : Nat) (kind : QueryKind) (result : Except QueryError Unit) :
    Outside n (n.finishKad id kind result) := by
  unfold Node.finishKad
  split
  · split_ifs <;> exact of_eq rfl rfl rfl
  · exact of_eq rfl rfl rfl

/-- A Kademlia event, which comes only with Kademlia on. -/
theorem injectKadEvent (hkad : n.protocols.kad = true) (e : KademliaEvent) :
    Outside n (n.injectKadEvent e) := by
  cases e with
  | outboundQueryCompleted id result =>
    cases result with
    | bootstrap r =>
      cases r with
      | ok numRemaining =>
        simp only [Node.injectKadEvent]
        split_ifs
        · -- the last bootstrap step sets the flag and tells the book's subscribers
          have hflag : Outside n { n with bootstrapped := true } :=
            ⟨.refl, rfl, fun _ => .inr hkad⟩
          exact (hflag.trans (finishKad _ _ _)).trans (notify _ _)
        · exact refl n
      | error _ => exact finishKad _ _ _
    | getClosestPeers ok => exact finishKad _ _ _
    | getProviders ok => exact finishKad _ _ _
    | startProviding ok => exact finishKad _ _ _
    | republishProvider ok => exact refl n
    | getRecord ok => exact finishKad _ _ _
    | putRecord ok => exact finishKad _ _ _
    | republishRecord ok => exact refl n
  | other => exact refl n

theorem injectBitswapEvent (e : BitswapEvent) : Outside n (n.injectBitswapEvent e) := by
  cases e with
  | progress id missing =>
    simp only [Node.injectBitswapEvent]
    split <;> exact of_eq rfl rfl rfl
  | complete id result =>
    simp only [Node.injectBitswapEvent]
    split <;> exact of_eq rfl rfl rfl

/-! ### The other handlers -/

theorem addAddress (now : DateTime) (peer : PeerId) (addr : Multiaddr) (source : AddressSource) :
    Outside n (n.addAddress now peer addr source) :=
  call _

theorem injectMdnsEvent (now : DateTime) (e : MdnsEvent) : Outside n (n.injectMdnsEvent now e) := by
  cases e with
  | discovered list => exact foldl _ (fun n pa => addAddress now pa.1 pa.2 .mdns) list n
  | expired => exact refl n

theorem injectPingEvent (e : PingEvent) : Outside n (n.injectPingEvent e) := by
  unfold Node.injectPingEvent
  split
  · exact call _
  · exact refl n
  · exact call _
  · exact call _
  · exact refl n

theorem injectIdEvent {now : DateTime} {e : IdentifyEvent} (he : n.injectIdEvent now e = some n') :
    Outside n n' := by
  cases e with
  | received peer info =>
    obtain ⟨b, -, rfl⟩ := Option.map_eq_some_iff.1 he
    exact call b
  | other =>
    cases he
    exact refl n

theorem injectGossipEvent (peer : PeerId) (e : GossipsubEvent) :
    Outside n (n.injectGossipEvent peer e) := by
  -- the book hears of a change of subscriptions first, then the topic's subscribers
  cases e with
  | message topic => exact pubsubCall (.gossip (.message topic)) rfl
  | subscribed topic =>
    exact (notify n (.subscribed peer topic)).trans (pubsubCall (.gossip (.subscribed topic)) rfl)
  | unsubscribed topic =>
    exact (notify n (.unsubscribed peer topic)).trans (pubsubCall (.gossip (.unsubscribed topic)) rfl)
  | gossipsubNotSupported => exact pubsubCall (.gossip .gossipsubNotSupported) rfl

theorem injectBroadcastEvent {peer : PeerId} {e : BroadcastEvent}
    (he : n.injectBroadcastEvent peer e = some n') : Outside n n' := by
  unfold Node.injectBroadcastEvent at he
  obtain ⟨st, hst, rfl⟩ := Option.map_eq_some_iff.1 he
  have helim : ∀ (o : Option String) (f : String → Event),
      Outside n (o.elim n fun t => n.withBook (·.notify (f t))) := by
    intro o f
    cases o with
    | none => exact refl n
    | some t => exact notify n (f t)
  cases e with
  | subscribed topic => exact (helim _ _).trans (pubsubCall (.broadcast (.subscribed topic)) hst)
  | unsubscribed topic =>
    exact (helim _ _).trans (pubsubCall (.broadcast (.unsubscribed topic)) hst)
  | received topic => exact pubsubCall (.broadcast (.received topic)) hst

theorem handleCommand {now : DateTime} {cmd : NetworkCommand}
    (he : n.handleCommand now cmd = some n') : Outside n n' := by
  -- creating the reply channel stays inside the table
  have h₁ : Outside n n.newChannel.2 := of_eq rfl rfl rfl
  cases cmd with
  | listenOn addr listenOk =>
    cases he
    cases listenOk <;> exact of_eq rfl rfl rfl
  | addExternalAddress | ban | unban | unprovide | removeRecord => cases he; exact refl n
  | addAddress peer addr => cases he; exact addAddress now peer addr .user
  | removeAddress peer addr => cases he; exact call _
  | prunePeers minAge => cases he; exact call _
  | dial peer => cases he; exact call _
  | dialAddress peer addr => cases he; exact call _
  | bootstrap initial started =>
    cases he
    -- every initial peer is added and dialled
    have hfold := foldl (fun n pa => (n.addAddress now pa.1 pa.2 .user).withBook (·.dial pa.1))
      (fun _ pa => (addAddress now pa.1 pa.2 .user).trans (call _))
      initial n.newChannel.2
    exact (h₁.trans hfold).trans (bootstrap _ _)
  | providers | provide _ | getRecord | putRecord _ => cases he; exact h₁.trans (kadQuery _ _ _)
  | subscribe topic gossipOk =>
    cases he
    exact (h₁.trans (pubsubCall (.subscribe topic gossipOk) rfl)).trans
      (of_eq rfl rfl rfl)
  | publish _ | broadcast => cases he; exact of_eq rfl rfl rfl
  | get =>
    rw [handleCommand_get] at he
    obtain ⟨⟨id, rx, n₂⟩, hget, hn⟩ := Option.bind_eq_some_iff.1 he
    cases hn
    exact (h₁.trans (bitswapQuery hget)).trans (of_eq rfl rfl rfl)
  | sync =>
    rw [handleCommand_sync] at he
    obtain ⟨⟨id, rx, n₂⟩, hsync, hn⟩ := Option.bind_eq_some_iff.1 he
    cases hn
    exact (h₁.trans (bitswapQuery hsync)).trans (of_eq rfl rfl rfl)
  | swarmEvents => cases he; exact of_eq rfl rfl rfl
  | cancelQuery id =>
    rw [cancel_eq_some he]
    exact of_eq rfl rfl rfl

/-- **A turn stays outside the query table as `Outside` says**, on every input the swarm can
deliver. -/
theorem step {now : DateTime} {i : SwarmInput} (hr : n.canReceive i = true)
    (he : n.step now i = some n') : Outside n n' := by
  cases i with
  | command cmd => exact handleCommand he
  | connectionClosed peer endpoint numEstablished cause =>
    cases he
    exact call _
  | kad e =>
    cases he
    exact injectKadEvent hr e
  | mdns e =>
    cases he
    exact injectMdnsEvent now e
  | ping e =>
    cases he
    exact injectPingEvent e
  | identify e => exact injectIdEvent he
  | bitswap e =>
    cases he
    exact injectBitswapEvent e
  | gossipsub peer e =>
    cases he
    exact injectGossipEvent peer e
  | broadcast peer e => exact injectBroadcastEvent he
  | callback op =>
    obtain ⟨b, -, rfl⟩ := Option.map_eq_some_iff.1 he
    exact call b
  | dropReceiver rx =>
    cases he
    exact pubsubCall (.dropReceiver rx) rfl

theorem run (h : Relation.ReflTransGen nodeStep n n') : Outside n n' := by
  induction h with
  | refl => exact refl n
  | tail _ hstep ih =>
    obtain ⟨⟨now, i⟩, hr, he⟩ := hstep
    exact ih.trans (step hr he)

end Outside

end Node

open Node

/-- `bootstrapped` is set only when Kademlia is on. -/
theorem reachable_bootstrapped_kad {n : Node} (h : NodeReachable n)
    (hb : n.bootstrapped = true) : n.protocols.kad = true := by
  obtain ⟨config, hr⟩ := h
  have ho := Outside.run hr
  rcases ho.bootstrapped hb with hinit | hkad
  · -- a new node is not bootstrapped
    exact absurd hinit Bool.false_ne_true
  · rw [ho.protocols]
    exact hkad

/-! ## Commands -/

namespace Node

variable {n n' : Node} {tx : Nat}

theorem bitswapQuery_isSome (kind : QueryKind) :
    (n.bitswapQuery kind).isSome = n.protocols.bitswap := by
  unfold Node.bitswapQuery
  split_ifs with hb
  · rw [hb]
    rfl
  · simpa using hb

/-- **Handling a command panics exactly when it needs bitswap and bitswap is off.** -/
theorem handleCommand_isSome_iff (now : DateTime) (cmd : NetworkCommand) :
    (n.handleCommand now cmd).isSome ↔ (cmd.needsBitswap = true → n.protocols.bitswap = true) := by
  cases cmd
  case get =>
    rw [handleCommand_get, Option.bind_eq_bind, Option.isSome_bind]
    have hb := bitswapQuery_isSome (n := n.newChannel.2) .get
    cases hq : n.newChannel.2.get <;> simp_all [Node.get, NetworkCommand.needsBitswap]
  case sync =>
    rw [handleCommand_sync, Option.bind_eq_bind, Option.isSome_bind]
    have hb := bitswapQuery_isSome (n := n.newChannel.2) .sync
    cases hq : n.newChannel.2.sync <;> simp_all [Node.sync, NetworkCommand.needsBitswap]
  case cancelQuery id =>
    cases id with
    | bitswap i =>
      by_cases hb : n.protocols.bitswap = true
      · simp [handleCommand, Node.cancel, hb, NetworkCommand.needsBitswap]
      · simp [handleCommand, Node.cancel, hb, NetworkCommand.needsBitswap]
    | kad i => simp [handleCommand, Node.cancel, NetworkCommand.needsBitswap]
  all_goals simp [handleCommand, NetworkCommand.needsBitswap]

theorem Fresh.bootstrap_reply (htx : n.Fresh tx) (started : Bool) :
    (n.bootstrap tx started).answers tx = 1 ∨ (n.bootstrap tx started).Pending tx := by
  unfold Node.bootstrap
  split_ifs
  · exact .inr (pending_insertQuery _ _ ⟨.bootstrap, tx⟩)
  · exact .inl (htx.answers_send rfl)
  · exact .inl (htx.answers_send rfl)

/-- With Kademlia on whenever the node is bootstrapped, a Kademlia command is answered at once
or waits. -/
theorem Fresh.kadQuery_reply (htx : n.Fresh tx)
    (hkad : n.bootstrapped = true → n.protocols.kad = true) (kind : QueryKind) (started : Bool) :
    (n.kadQuery kind tx started).answers tx = 1 ∨ (n.kadQuery kind tx started).Pending tx := by
  unfold Node.kadQuery
  split_ifs with hb hk
  · exact .inr (pending_insertQuery _ _ ⟨kind, tx⟩)
  · exact .inl (htx.answers_send rfl)
  · exact absurd (hkad hb) hk
  · exact .inl (htx.answers_send rfl)

end Node

open Node

/-- **In every reachable state, a command that carries a reply channel has, once handled, an
answer on it or a query waiting on it**: no such channel is dropped unanswered. -/
theorem reply_answered_or_pending {n n' : Node} (hn : NodeReachable n) {now : DateTime}
    {cmd : NetworkCommand} (hcmd : cmd.hasReply = true) (he : n.handleCommand now cmd = some n') :
    n'.answers n.nextChannel = 1 ∨ n'.Pending n.nextChannel := by
  have hd := reachable_disciplined hn
  -- the reply channel is the one the command creates
  have htx := hd.fresh_newChannel
  have hkad : n.newChannel.2.bootstrapped = true → n.newChannel.2.protocols.kad = true :=
    reachable_bootstrapped_kad (n := n) hn
  cases cmd <;> simp [NetworkCommand.hasReply] at hcmd
  case bootstrap initial started =>
    cases he
    exact ((sameQueries_bootstrapPeers now initial _).fresh htx).bootstrap_reply started
  case providers | provide | getRecord | putRecord =>
    cases he
    exact htx.kadQuery_reply hkad _ _
  case subscribe topic gossipOk =>
    cases he
    have hsub := (SameQueries.refl n.newChannel.2).withPubSub
      (n.newChannel.2.pubsub.subscribe topic gossipOk).1
    exact .inl ((hsub.fresh htx).answers_send rfl)
  case publish | broadcast =>
    cases he
    exact .inl (htx.answers_send rfl)
  case get =>
    rw [handleCommand_get] at he
    obtain ⟨⟨id, rx, n₂⟩, hget, hn₂⟩ := Option.bind_eq_some_iff.1 he
    cases hn₂
    obtain ⟨-, htx₂⟩ := hd.newChannel.bitswapQuery rfl htx hget
    exact .inl (htx₂.answers_send rfl)
  case sync =>
    rw [handleCommand_sync] at he
    obtain ⟨⟨id, rx, n₂⟩, hsync, hn₂⟩ := Option.bind_eq_some_iff.1 he
    cases hn₂
    obtain ⟨-, htx₂⟩ := hd.newChannel.bitswapQuery rfl htx hsync
    exact .inl (htx₂.answers_send rfl)
  case swarmEvents =>
    cases he
    have htx₂ : n.newChannel.2.newChannel.2.Fresh n.nextChannel := htx.mono rfl rfl (Nat.le_succ _)
    exact .inl (htx₂.answers_send rfl)

/-- A new node with gossipsub on answers a subscription on its first channel. -/
theorem reply_answered_or_pending_subscribe :
    ∃ n', (Node.init ⟨⟨false, false, false, false, false⟩, true, false,
        ⟨false, false, false, ⟨0⟩⟩⟩).handleCommand 0 (.subscribe "blocks" true) = some n' ∧
      (n'.answers 0 = 1 ∨ n'.Pending 0) :=
  ⟨_, rfl, @reply_answered_or_pending (Node.init ⟨⟨false, false, false, false, false⟩, true, false,
    ⟨false, false, false, ⟨0⟩⟩⟩) _ ⟨_, .refl⟩ 0 (.subscribe "blocks" true) rfl rfl⟩

end IpfsEmbed
