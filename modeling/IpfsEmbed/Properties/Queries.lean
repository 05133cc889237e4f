import IpfsEmbed.Net.PollSwarm

/-!
# Reply channels of the swarm task

Every command that expects an answer carries a new channel, and every query the task starts
waits in `queries` under a channel of its own.  The task keeps a discipline on these channels
(`Disciplined`): it writes only to channels that exist, the queries in the map have distinct
channels that have not been answered yet, and no channel is answered twice.  An answer is
any message other than a sync query's progress report.  Every turn keeps the discipline
(`Disciplined.step`), so it holds in every state the task reaches
(`reachable_disciplined`).

A channel is *pending* while a query waits on it.  The answer to a query goes out when the
protocol's completion event takes the query out of the map; `CancelQuery` takes it out without
one.  A turn writes only to the channels it creates and to channels pending before it
(`Extends`), so a channel that exists and is not pending receives nothing ever after
(`sent_to_closed`): in particular nothing reaches a query's channel once the query is
cancelled or answered.
-/

namespace IpfsEmbed

/-- The replies a command sends on its own channel when it starts no query: a result, the
result of `subscribe`, or a failed listen. -/
inductive Reply.IsAnswer : Reply → Prop
  | result (r : Except QueryError Unit) : IsAnswer (.result r)
  | subscription (r : Except SubscribeError Nat) : IsAnswer (.subscription r)
  | listenFailed (addr : Multiaddr) : IsAnswer (.listenFailed addr)

namespace Node

variable {n n' n'' : Node} {c k : Nat}

/-- `c` is the channel of a query in the map. -/
def Pending (n : Node) (c : Nat) : Prop :=
  ∃ id q, n.queries.lookup id = some q ∧ q.ch = c

/-- How many answers channel `c` got: the messages on it other than progress reports. -/
def answers (n : Node) (c : Nat) : Nat :=
  n.sent.countP fun m => m.1 = c && !m.2.isProgress

/-- `c` is a new channel: it exists, nothing was written to it and no query waits on it. -/
structure Fresh (n : Node) (c : Nat) : Prop where
  lt : c < n.nextChannel
  unused : ∀ m ∈ n.sent, m.1 ≠ c
  not_pending : ¬ n.Pending c

/-- The operations that touch neither the query map nor the reply channels: those of the
book, of the subscriptions and of the flags. -/
structure SameQueries (n n' : Node) : Prop where
  queries : n'.queries = n.queries
  sent : n'.sent = n.sent
  nextChannel : n'.nextChannel = n.nextChannel
  nextQuery : n'.nextQuery = n.nextQuery

/-- From `n` to `n'` the channels numbered from `k` on are new.  Every message sent in between
goes to a new channel or to one a query waited on in `n`, and every query waiting in `n'`
waited in `n` or waits on a new channel. -/
structure Extends (k : Nat) (n n' : Node) : Prop where
  le : n.nextChannel ≤ n'.nextChannel
  sent : ∃ new, n'.sent = n.sent ++ new ∧ ∀ m ∈ new, k ≤ m.1 ∨ n.Pending m.1
  pending : ∀ c, n'.Pending c → k ≤ c ∨ n.Pending c

/-- The discipline of the reply channels. -/
structure Disciplined (n : Node) : Prop where
  /-- Messages go to channels that exist. -/
  sent_lt : ∀ m ∈ n.sent, m.1 < n.nextChannel
  /-- A query waits on a channel that exists. -/
  pending_lt : ∀ c, n.Pending c → c < n.nextChannel
  /-- Two queries in the map wait on two channels. -/
  ch_inj : ∀ id id' q q', n.queries.lookup id = some q → n.queries.lookup id' = some q' →
    q.ch = q'.ch → id = id'
  /-- A query in the map has not been answered. -/
  pending_answers : ∀ c, n.Pending c → n.answers c = 0
  /-- No channel is answered twice. -/
  answers_le : ∀ c, n.answers c ≤ 1
  /-- The protocols hand out every id once. -/
  id_lt : ∀ id q, n.queries.lookup id = some q → id.num < n.nextQuery
  /-- Bitswap runs the gets and syncs, Kademlia the other queries. -/
  kind : ∀ id q, n.queries.lookup id = some q → q.kind.isBitswap = id.isBitswap

/-! ## Pending channels and answers -/

theorem pending_of_queries_eq (h : n'.queries = n.queries) : n'.Pending c ↔ n.Pending c := by
  simp only [Pending, h]

theorem Pending.of_insertQuery {id : QueryId} {q : QueryChannel}
    (h : (n.insertQuery id q).Pending c) : q.ch = c ∨ n.Pending c := by
  obtain ⟨id', q', hl, rfl⟩ := h
  rw [insertQuery_queries, AList.lookup_insert_eq_ite] at hl
  split_ifs at hl
  · cases hl
    exact .inl rfl
  · exact .inr ⟨id', q', hl, rfl⟩

theorem Pending.of_removeQuery {id : QueryId} (h : (n.removeQuery id).Pending c) :
    n.Pending c := by
  obtain ⟨id', q', hl, rfl⟩ := h
  rw [removeQuery_queries, AList.lookup_erase_eq_ite] at hl
  split_ifs at hl
  exact ⟨id', q', hl, rfl⟩

theorem answers_of_sent_eq (h : n'.sent = n.sent) : n'.answers c = n.answers c := by
  simp only [answers, h]

@[simp] theorem answers_send (ch c : Nat) (r : Reply) :
    (n.send ch r).answers c = n.answers c + if ch = c ∧ r.isProgress = false then 1 else 0 := by
  by_cases h : ch = c ∧ r.isProgress = false
  · simp [answers, List.countP_append, h]
  · have hfalse : (ch = c && !r.isProgress) = false := by
      simpa [Bool.and_eq_false_iff] using h
    simp [answers, List.countP_append, h, hfalse]

theorem Fresh.mono (hc : n.Fresh c) (hq : n'.queries = n.queries) (hs : n'.sent = n.sent)
    (hle : n.nextChannel ≤ n'.nextChannel) : n'.Fresh c where
  lt := Nat.lt_of_lt_of_le hc.lt hle
  unused := hs ▸ hc.unused
  not_pending hp := hc.not_pending ((pending_of_queries_eq hq).1 hp)

/-- A query waiting on another channel leaves `c` new. -/
theorem Fresh.insertQuery (hc : n.Fresh c) {id : QueryId} {q : QueryChannel} (hne : q.ch ≠ c) :
    (n.insertQuery id q).Fresh c where
  lt := hc.lt
  unused := hc.unused
  not_pending hp := by
    rcases hp.of_insertQuery with heq | hp
    · exact hne heq
    · exact hc.not_pending hp

theorem Fresh.answers_eq_zero (h : n.Fresh c) : n.answers c = 0 := by
  rw [answers, List.countP_eq_zero]
  intro m hm
  simp [h.unused m hm]

/-- An answer on a new channel is its first. -/
theorem Fresh.answers_send (h : n.Fresh c) {r : Reply} (hr : r.isProgress = false) :
    (n.send c r).answers c = 1 := by
  rw [Node.answers_send, h.answers_eq_zero, if_pos ⟨rfl, hr⟩]

theorem pending_insertQuery (n : Node) (id : QueryId) (q : QueryChannel) :
    (n.insertQuery id q).Pending q.ch :=
  ⟨id, q, AList.lookup_insert _, rfl⟩

/-! ## Operations that leave the queries alone -/

namespace SameQueries

theorem refl (n : Node) : SameQueries n n :=
  ⟨rfl, rfl, rfl, rfl⟩

theorem trans (h₁ : SameQueries n n') (h₂ : SameQueries n' n'') : SameQueries n n'' :=
  ⟨h₂.queries.trans h₁.queries, h₂.sent.trans h₁.sent, h₂.nextChannel.trans h₁.nextChannel,
    h₂.nextQuery.trans h₁.nextQuery⟩

theorem withBook (n : Node) (f : AddressBook → AddressBook) : SameQueries n (n.withBook f) :=
  ⟨rfl, rfl, rfl, rfl⟩

/-- A fold of operations that each leave the queries alone leaves them alone. -/
theorem foldl {α : Type} (f : Node → α → Node) (hf : ∀ n a, SameQueries n (f n a)) :
    ∀ (l : List α) (n : Node), SameQueries n (l.foldl f n)
  | [], n => refl n
  | a :: l, n => (hf n a).trans (foldl f hf l (f n a))

theorem withPubSub (h : SameQueries n n') (pubsub : PubSub) :
    SameQueries n { n' with pubsub } :=
  ⟨h.queries, h.sent, h.nextChannel, h.nextQuery⟩

theorem fresh (h : SameQueries n n') (hc : n.Fresh c) : n'.Fresh c :=
  hc.mono h.queries h.sent h.nextChannel.ge

end SameQueries

theorem sameQueries_injectMdnsEvent (now : DateTime) (e : MdnsEvent) :
    SameQueries n (n.injectMdnsEvent now e) := by
  cases e with
  | discovered list =>
    exact SameQueries.foldl _ (fun n pa => SameQueries.withBook n _) list n
  | expired => exact SameQueries.refl n

theorem sameQueries_injectPingEvent (e : PingEvent) : SameQueries n (n.injectPingEvent e) := by
  unfold injectPingEvent
  split <;> exact ⟨rfl, rfl, rfl, rfl⟩

theorem sameQueries_injectGossipEvent (peer : PeerId) (e : GossipsubEvent) :
    SameQueries n (n.injectGossipEvent peer e) := by
  unfold injectGossipEvent
  split <;> exact ⟨rfl, rfl, rfl, rfl⟩

theorem sameQueries_injectBroadcastEvent {peer : PeerId} {e : BroadcastEvent}
    (he : n.injectBroadcastEvent peer e = some n') : SameQueries n n' := by
  unfold injectBroadcastEvent at he
  obtain ⟨pubsub, -, rfl⟩ := Option.map_eq_some_iff.1 he
  -- the book hears of a subscription change only when the topic is UTF-8
  have helim : ∀ (o : Option String) (f : String → AddressBook → AddressBook),
      SameQueries n (o.elim n fun t => n.withBook (f t)) := by
    intro o f
    cases o <;> exact ⟨rfl, rfl, rfl, rfl⟩
  cases e with
  | subscribed topic => exact (helim _ _).withPubSub pubsub
  | unsubscribed topic => exact (helim _ _).withPubSub pubsub
  | received topic => exact (SameQueries.refl n).withPubSub pubsub

theorem sameQueries_injectIdEvent {now : DateTime} {e : IdentifyEvent}
    (he : n.injectIdEvent now e = some n') : SameQueries n n' := by
  cases e with
  | received peer info =>
    obtain ⟨b, -, rfl⟩ := Option.map_eq_some_iff.1 he
    exact ⟨rfl, rfl, rfl, rfl⟩
  | other =>
    cases he
    exact SameQueries.refl _

/-- Adding and dialling the initial peers of a bootstrap only touches the book. -/
theorem sameQueries_bootstrapPeers (now : DateTime) (initial : List (PeerId × Multiaddr))
    (n : Node) : SameQueries n (initial.foldl
      (fun n pa => (n.addAddress now pa.1 pa.2 .user).withBook (·.dial pa.1)) n) :=
  SameQueries.foldl _ (fun n _ => (SameQueries.withBook n _).trans (SameQueries.withBook _ _))
    initial n

/-! ## The commands that start bitswap queries -/

theorem handleCommand_get (now : DateTime) :
    n.handleCommand now .get =
      n.newChannel.2.get >>= fun r => some (r.2.2.send n.nextChannel (.getQuery r.1 r.2.1)) :=
  rfl

theorem handleCommand_sync (now : DateTime) :
    n.handleCommand now .sync =
      n.newChannel.2.sync >>= fun r => some (r.2.2.send n.nextChannel (.syncQuery r.1 r.2.1)) :=
  rfl

/-- `cancel` forgets the query, when it does not panic. -/
theorem cancel_eq_some {id : QueryId} (he : n.cancel id = some n') : n' = n.removeQuery id := by
  cases id with
  | bitswap i =>
    -- cancelling at bitswap panics when bitswap is off
    by_cases hb : n.protocols.bitswap = true
    · simp only [Node.cancel, removeQuery_protocols, hb, if_true, Option.some.injEq] at he
      exact he.symm
    · simp [Node.cancel, hb] at he
  | kad i =>
    cases he
    rfl

/-- **What a command does to the queries and the reply channels.**  It touches only the book,
the subscriptions or the flags; or it opens its reply channel, changes no query, and answers
on the channel or not; or, on that channel, it bootstraps, runs a Kademlia query, or starts a
bitswap query and hands it back; or it opens a second channel for `SwarmEvents` and hands that
back; or it forgets the query it cancels. -/
theorem handleCommand_cases {now : DateTime} {cmd : NetworkCommand}
    (he : n.handleCommand now cmd = some n') :
    SameQueries n n' ∨
    (∃ m, SameQueries n.newChannel.2 m ∧
      (n' = m ∨ ∃ r, r.IsAnswer ∧ n' = m.send n.nextChannel r)) ∨
    (∃ m started, SameQueries n.newChannel.2 m ∧ n' = m.bootstrap n.nextChannel started) ∨
    (∃ kind started, kind.isBitswap = false ∧
      n' = n.newChannel.2.kadQuery kind n.nextChannel started) ∨
    (∃ kind id rx n₂ r, (cmd = .get ∨ cmd = .sync) ∧ kind.isBitswap = true ∧
      n.newChannel.2.bitswapQuery kind = some (id, rx, n₂) ∧
      (r = .getQuery id rx ∨ r = .syncQuery id rx) ∧ n' = n₂.send n.nextChannel r) ∨
    n' = n.newChannel.2.newChannel.2.send n.nextChannel (.swarmEvents n.newChannel.2.nextChannel) ∨
    (∃ id, cmd = .cancelQuery id ∧ n' = n.removeQuery id) := by
  have hnew := SameQueries.refl n.newChannel.2
  cases cmd with
  | listenOn addr listenOk =>
    cases he
    cases listenOk
    · exact .inr (.inl ⟨_, hnew, .inr ⟨_, .listenFailed addr, rfl⟩⟩)
    · exact .inr (.inl ⟨_, hnew, .inl rfl⟩)
  | addExternalAddress | ban | unban | unprovide | removeRecord =>
    cases he
    exact .inl (SameQueries.refl n)
  | addAddress _ _ | removeAddress _ _ | prunePeers _ | dial _ | dialAddress _ _ =>
    -- the book's commands
    cases he
    exact .inl (SameQueries.withBook _ _)
  | bootstrap initial started =>
    cases he
    exact .inr (.inr (.inl ⟨_, started, sameQueries_bootstrapPeers now initial _, rfl⟩))
  | providers => cases he; exact .inr (.inr (.inr (.inl ⟨.getProviders, true, rfl, rfl⟩)))
  | provide started =>
    cases he
    exact .inr (.inr (.inr (.inl ⟨.startProviding, started, rfl, rfl⟩)))
  | getRecord => cases he; exact .inr (.inr (.inr (.inl ⟨.getRecord, true, rfl, rfl⟩)))
  | putRecord started => cases he; exact .inr (.inr (.inr (.inl ⟨.putRecord, started, rfl, rfl⟩)))
  | subscribe topic gossipOk =>
    cases he
    -- `subscribe` changes only the subscriptions before its result is sent
    have hsub := hnew.withPubSub (n.newChannel.2.pubsub.subscribe topic gossipOk).1
    exact .inr (.inl ⟨_, hsub, .inr ⟨_, .subscription _, rfl⟩⟩)
  | publish outcome => cases he; exact .inr (.inl ⟨_, hnew, .inr ⟨_, .result _, rfl⟩⟩)
  | broadcast => cases he; exact .inr (.inl ⟨_, hnew, .inr ⟨_, .result _, rfl⟩⟩)
  | get =>
    rw [handleCommand_get] at he
    obtain ⟨⟨id, rx, n₂⟩, hget, hn⟩ := Option.bind_eq_some_iff.1 he
    cases hn
    exact .inr (.inr (.inr (.inr (.inl ⟨.get, id, rx, n₂, _, .inl rfl, rfl, hget, .inl rfl, rfl⟩))))
  | sync =>
    rw [handleCommand_sync] at he
    obtain ⟨⟨id, rx, n₂⟩, hsync, hn⟩ := Option.bind_eq_some_iff.1 he
    cases hn
    exact .inr (.inr (.inr (.inr (.inl ⟨.sync, id, rx, n₂, _, .inr rfl, rfl, hsync, .inr rfl, rfl⟩))))
  | swarmEvents => cases he; exact .inr (.inr (.inr (.inr (.inr (.inl rfl)))))
  | cancelQuery id => exact .inr (.inr (.inr (.inr (.inr (.inr ⟨id, rfl, cancel_eq_some he⟩)))))

/-- **What a turn does to the queries and the reply channels**: it handles a command, runs
a Kademlia or a bitswap event, or touches neither the queries nor the channels. -/
theorem step_queries_cases {now : DateTime} {i : SwarmInput} (he : n.step now i = some n') :
    (∃ cmd, i = .command cmd ∧ n.handleCommand now cmd = some n') ∨ SameQueries n n' ∨
      (∃ e, n' = n.injectKadEvent e) ∨ (∃ e, i = .bitswap e ∧ n' = n.injectBitswapEvent e) := by
  cases i with
  | command cmd => exact .inl ⟨cmd, rfl, he⟩
  | connectionClosed peer endpoint numEstablished cause =>
    cases he
    exact .inr (.inl (SameQueries.withBook _ _))
  | kad e =>
    cases he
    exact .inr (.inr (.inl ⟨e, rfl⟩))
  | mdns e =>
    cases he
    exact .inr (.inl (sameQueries_injectMdnsEvent now e))
  | ping e =>
    cases he
    exact .inr (.inl (sameQueries_injectPingEvent e))
  | identify e => exact .inr (.inl (sameQueries_injectIdEvent he))
  | bitswap e =>
    cases he
    exact .inr (.inr (.inr ⟨e, rfl, rfl⟩))
  | gossipsub peer e =>
    cases he
    exact .inr (.inl (sameQueries_injectGossipEvent peer e))
  | broadcast peer e => exact .inr (.inl (sameQueries_injectBroadcastEvent he))
  | callback op =>
    -- a callback of the book changes only the book
    obtain ⟨b, -, rfl⟩ := Option.map_eq_some_iff.1 he
    exact .inr (.inl ⟨rfl, rfl, rfl, rfl⟩)
  | dropReceiver rx =>
    cases he
    exact .inr (.inl ⟨rfl, rfl, rfl, rfl⟩)

/-! ## The discipline, operation by operation -/

namespace Disciplined

/-- An operation that only creates channels or ids, or changes what the queries do not
read, keeps the discipline. -/
theorem mono (h : n.Disciplined) (hq : n'.queries = n.queries) (hs : n'.sent = n.sent)
    (hc : n.nextChannel ≤ n'.nextChannel) (hi : n.nextQuery ≤ n'.nextQuery) :
    n'.Disciplined where
  sent_lt m hm := Nat.lt_of_lt_of_le (h.sent_lt m (hs ▸ hm)) hc
  pending_lt c hp := Nat.lt_of_lt_of_le (h.pending_lt c ((pending_of_queries_eq hq).1 hp)) hc
  ch_inj := hq ▸ h.ch_inj
  pending_answers c hp := by
    rw [answers_of_sent_eq hs]
    exact h.pending_answers c ((pending_of_queries_eq hq).1 hp)
  answers_le c := by
    rw [answers_of_sent_eq hs]
    exact h.answers_le c
  id_lt id q hl := Nat.lt_of_lt_of_le (h.id_lt id q (hq ▸ hl)) hi
  kind id q hl := h.kind id q (hq ▸ hl)

theorem of_same (h : n.Disciplined) (hs : SameQueries n n') : n'.Disciplined :=
  h.mono hs.queries hs.sent hs.nextChannel.ge hs.nextQuery.ge

theorem newChannel (h : n.Disciplined) : n.newChannel.2.Disciplined :=
  h.mono rfl rfl (Nat.le_succ _) le_rfl

theorem newQueryId (h : n.Disciplined) : n.newQueryId.2.Disciplined :=
  h.mono rfl rfl le_rfl (Nat.le_succ _)

/-- The channel `newChannel` creates is new. -/
theorem fresh_newChannel (h : n.Disciplined) : n.newChannel.2.Fresh n.nextChannel where
  lt := Nat.lt_succ_self _
  unused m hm := Nat.ne_of_lt (h.sent_lt m hm)
  not_pending hp := Nat.lt_irrefl _ (h.pending_lt _ hp)

theorem removeQuery (h : n.Disciplined) (id : QueryId) : (n.removeQuery id).Disciplined := by
  have hl : ∀ id' q, (n.removeQuery id).queries.lookup id' = some q →
      n.queries.lookup id' = some q := by
    intro id' q hq
    rw [removeQuery_queries, AList.lookup_erase_eq_ite] at hq
    split_ifs at hq
    exact hq
  exact {
    sent_lt := h.sent_lt
    pending_lt := fun c hp => h.pending_lt c hp.of_removeQuery
    ch_inj := fun id₁ id₂ q₁ q₂ h₁ h₂ => h.ch_inj id₁ id₂ q₁ q₂ (hl _ _ h₁) (hl _ _ h₂)
    pending_answers := fun c hp => h.pending_answers c hp.of_removeQuery
    answers_le := h.answers_le
    id_lt := fun id' q hq => h.id_lt id' q (hl _ _ hq)
    kind := fun id' q hq => h.kind id' q (hl _ _ hq) }

/-- A query enters the map under an id handed out, with a new channel. -/
theorem insertQuery (h : n.Disciplined) {id : QueryId} {q : QueryChannel}
    (hid : id.num < n.nextQuery) (hkind : q.kind.isBitswap = id.isBitswap) (hq : n.Fresh q.ch) :
    (n.insertQuery id q).Disciplined := by
  -- a query in the map other than the new one was there before
  have hold : ∀ id' q', id' ≠ id → (n.insertQuery id q).queries.lookup id' = some q' →
      n.queries.lookup id' = some q' := by
    intro id' q' hne hl
    rwa [insertQuery_queries, AList.lookup_insert_ne hne] at hl
  have hnew : (n.insertQuery id q).queries.lookup id = some q := AList.lookup_insert _
  refine ⟨h.sent_lt, fun c hp => ?_, fun id₁ id₂ q₁ q₂ h₁ h₂ hch => ?_, fun c hp => ?_,
    h.answers_le, fun id' q' hl => ?_, fun id' q' hl => ?_⟩
  · rcases hp.of_insertQuery with rfl | hp
    · exact hq.lt
    · exact h.pending_lt c hp
  · by_cases e₁ : id₁ = id <;> by_cases e₂ : id₂ = id
    · rw [e₁, e₂]
    · subst e₁
      rw [hnew, Option.some.injEq] at h₁
      subst h₁
      exact absurd ⟨id₂, q₂, hold id₂ q₂ e₂ h₂, hch.symm⟩ hq.not_pending
    · subst e₂
      rw [hnew, Option.some.injEq] at h₂
      subst h₂
      exact absurd ⟨id₁, q₁, hold id₁ q₁ e₁ h₁, hch⟩ hq.not_pending
    · exact h.ch_inj id₁ id₂ q₁ q₂ (hold _ _ e₁ h₁) (hold _ _ e₂ h₂) hch
  · rcases hp.of_insertQuery with rfl | hp
    · exact hq.answers_eq_zero
    · exact h.pending_answers c hp
  · by_cases e : id' = id
    · subst e
      exact hid
    · exact h.id_lt id' q' (hold id' q' e hl)
  · by_cases e : id' = id
    · subst e
      rw [hnew, Option.some.injEq] at hl
      subst hl
      exact hkind
    · exact h.kind id' q' (hold id' q' e hl)

/-- A message to a channel that exists keeps the discipline, if it is a progress report or
goes to a channel that no query waits on and that has no answer yet. -/
theorem send (h : n.Disciplined) {r : Reply} (hc : c < n.nextChannel)
    (hr : r.isProgress = false → ¬ n.Pending c ∧ n.answers c = 0) :
    (n.send c r).Disciplined := by
  refine ⟨fun m hm => ?_, h.pending_lt, h.ch_inj, fun c' hp => ?_, fun c' => ?_, h.id_lt,
    h.kind⟩
  · rcases List.mem_append.1 hm with hm | hm
    · exact h.sent_lt m hm
    · rw [List.mem_singleton.1 hm]
      exact hc
  · rw [answers_send, h.pending_answers c' hp]
    rw [if_neg]
    rintro ⟨rfl, hprog⟩
    exact (hr hprog).1 hp
  · rw [answers_send]
    split_ifs with hsend
    · obtain ⟨rfl, hprog⟩ := hsend
      rw [(hr hprog).2]
    · simpa using h.answers_le c'

/-- A new channel can be answered. -/
theorem send_fresh (h : n.Disciplined) (hc : n.Fresh c) (r : Reply) : (n.send c r).Disciplined :=
  h.send hc.lt fun _ => ⟨hc.not_pending, hc.answers_eq_zero⟩

/-- Once a query leaves the map, no query waits on its channel. -/
theorem not_pending_removeQuery (h : n.Disciplined) {id : QueryId} {q : QueryChannel}
    (hq : n.queries.lookup id = some q) : ¬ (n.removeQuery id).Pending q.ch := by
  rintro ⟨id', q', hl, hch⟩
  rw [removeQuery_queries, AList.lookup_erase_eq_ite] at hl
  split_ifs at hl with hne
  exact hne (h.ch_inj id' id q' q hl hq hch)

/-- A query taken out of the map can be answered. -/
theorem answer_taken (h : n.Disciplined) {id : QueryId} {q : QueryChannel}
    (hq : n.queries.lookup id = some q) (r : Reply) :
    ((n.removeQuery id).send q.ch r).Disciplined := by
  have hpend : n.Pending q.ch := ⟨id, q, hq, rfl⟩
  exact (h.removeQuery id).send (h.pending_lt _ hpend)
    fun _ => ⟨h.not_pending_removeQuery hq, h.pending_answers _ hpend⟩

/-! ## The handlers -/

theorem bootstrap (h : n.Disciplined) {tx : Nat} (htx : n.Fresh tx) (started : Bool) :
    (n.bootstrap tx started).Disciplined := by
  unfold Node.bootstrap
  split_ifs
  · -- Kademlia starts the bootstrap under a new id
    exact h.newQueryId.insertQuery (Nat.lt_succ_self _) rfl (htx.mono rfl rfl le_rfl)
  · exact h.send_fresh htx _
  · exact h.send_fresh htx _

theorem kadQuery (h : n.Disciplined) {tx : Nat} (htx : n.Fresh tx) {kind : QueryKind}
    (hkind : kind.isBitswap = false) (started : Bool) :
    (n.kadQuery kind tx started).Disciplined := by
  unfold Node.kadQuery
  split_ifs
  · exact h.newQueryId.insertQuery (Nat.lt_succ_self _) hkind (htx.mono rfl rfl le_rfl)
  · exact h.send_fresh htx _
  · -- Kademlia is off: the sender is dropped unanswered
    exact h
  · exact h.send_fresh htx _

/-- A bitswap query keeps the discipline, and the command's own channel stays new. -/
theorem bitswapQuery (h : n.Disciplined) {kind : QueryKind} (hkind : kind.isBitswap = true)
    {tx : Nat} (htx : n.Fresh tx) {id : QueryId} {rx : Nat}
    (he : n.bitswapQuery kind = some (id, rx, n')) : n'.Disciplined ∧ n'.Fresh tx := by
  unfold Node.bitswapQuery at he
  split_ifs at he
  cases he
  have hrx := h.fresh_newChannel
  have h₂ := h.newChannel.newQueryId
  refine ⟨h₂.insertQuery (Nat.lt_succ_self _) hkind (hrx.mono rfl rfl le_rfl), ?_⟩
  -- the query waits on the channel just created, which is not `tx`
  have htx₂ : n.newChannel.2.newQueryId.2.Fresh tx := htx.mono rfl rfl (Nat.le_succ _)
  refine htx₂.insertQuery ?_
  exact Nat.ne_of_gt htx.lt

theorem cancel (h : n.Disciplined) {id : QueryId} (he : n.cancel id = some n') :
    n'.Disciplined := by
  rw [cancel_eq_some he]
  exact h.removeQuery id

theorem finishKad (h : n.Disciplined) (id : Nat) (kind : QueryKind)
    (result : Except QueryError Unit) : (n.finishKad id kind result).Disciplined := by
  unfold Node.finishKad
  split
  · next q hq =>
    split_ifs
    · exact h.answer_taken hq _
    · exact h.removeQuery _
  · exact h.removeQuery _

theorem injectKadEvent (h : n.Disciplined) (e : KademliaEvent) :
    (n.injectKadEvent e).Disciplined := by
  cases e with
  | outboundQueryCompleted id result =>
    cases result with
    | bootstrap r =>
      cases r with
      | ok numRemaining =>
        simp only [Node.injectKadEvent]
        split_ifs
        · -- the last bootstrap step also sets the flag and tells the book
          have hflag : ({ n with bootstrapped := true } : Node).Disciplined :=
            h.mono rfl rfl le_rfl le_rfl
          exact (hflag.finishKad _ _ _).of_same (SameQueries.withBook _ _)
        · exact h
      | error _ => exact h.finishKad _ _ _
    | getClosestPeers ok => exact h.finishKad _ _ _
    | getProviders ok => exact h.finishKad _ _ _
    | startProviding ok => exact h.finishKad _ _ _
    | republishProvider ok => exact h
    | getRecord ok => exact h.finishKad _ _ _
    | putRecord ok => exact h.finishKad _ _ _
    | republishRecord ok => exact h
  | other => exact h

theorem injectBitswapEvent (h : n.Disciplined) (e : BitswapEvent) :
    (n.injectBitswapEvent e).Disciplined := by
  cases e with
  | progress id missing =>
    simp only [Node.injectBitswapEvent]
    split
    · next ch hl =>
      -- a progress report is not an answer
      exact h.send (h.pending_lt _ ⟨_, _, hl, rfl⟩) fun hprog => nomatch hprog
    · exact h
  | complete id result =>
    simp only [Node.injectBitswapEvent]
    split
    · next ch hl => exact h.answer_taken hl _
    · next ch hl => exact h.answer_taken hl _
    · exact h.removeQuery _

/-! ## One turn -/

theorem handleCommand (h : n.Disciplined) {now : DateTime} {cmd : NetworkCommand}
    (he : n.handleCommand now cmd = some n') : n'.Disciplined := by
  -- the command's reply channel is new
  have h₁ := h.newChannel
  have htx := h.fresh_newChannel
  rcases handleCommand_cases he with hs | ⟨m, hs, rfl | ⟨r, -, rfl⟩⟩ | ⟨m, started, hs, rfl⟩ |
    ⟨kind, started, hkind, rfl⟩ | ⟨kind, id, rx, n₂, r, -, hkind, hq, -, rfl⟩ | rfl | ⟨id, -, rfl⟩
  · exact h.of_same hs
  · exact h₁.of_same hs
  · exact (h₁.of_same hs).send_fresh (hs.fresh htx) r
  · exact (h₁.of_same hs).bootstrap (hs.fresh htx) started
  · exact h₁.kadQuery htx hkind started
  · obtain ⟨h₂, htx₂⟩ := h₁.bitswapQuery hkind htx hq
    exact h₂.send_fresh htx₂ r
  · -- the events' receiver is a second new channel
    have htx₂ : n.newChannel.2.newChannel.2.Fresh n.nextChannel := htx.mono rfl rfl (Nat.le_succ _)
    exact h₁.newChannel.send_fresh htx₂ _
  · exact h.removeQuery id

/-- **Every turn of the swarm task keeps the discipline of the reply channels.** -/
theorem step (h : n.Disciplined) {now : DateTime} {i : SwarmInput}
    (he : n.step now i = some n') : n'.Disciplined := by
  rcases step_queries_cases he with ⟨cmd, -, hc⟩ | hs | ⟨e, rfl⟩ | ⟨e, -, rfl⟩
  · exact h.handleCommand hc
  · exact h.of_same hs
  · exact h.injectKadEvent e
  · exact h.injectBitswapEvent e

end Disciplined

/-! ## Where a turn writes -/

namespace Extends

theorem refl (n : Node) : Extends k n n :=
  ⟨le_rfl, ⟨[], by simp, by simp⟩, fun _ hp => .inr hp⟩

theorem trans (h₁ : Extends k n n') (h₂ : Extends k n' n'') : Extends k n n'' := by
  obtain ⟨le₁, ⟨new₁, hs₁, hn₁⟩, hp₁⟩ := h₁
  obtain ⟨le₂, ⟨new₂, hs₂, hn₂⟩, hp₂⟩ := h₂
  refine ⟨le₁.trans le₂, ⟨new₁ ++ new₂, by rw [hs₂, hs₁, List.append_assoc], ?_⟩, ?_⟩
  · intro m hm
    rcases List.mem_append.1 hm with hm | hm
    · exact hn₁ m hm
    · -- a channel pending in the middle was pending before or is new
      rcases hn₂ m hm with hk | hp
      · exact .inl hk
      · exact hp₁ _ hp
  · intro c hp
    rcases hp₂ c hp with hk | hp
    · exact .inl hk
    · exact hp₁ c hp

/-- What is new from `k` on is new from any lower `k'` on. -/
theorem mono {k' : Nat} (hk : k' ≤ k) (h : Extends k n n') : Extends k' n n' := by
  obtain ⟨le, ⟨new, hs, hn⟩, hp⟩ := h
  refine ⟨le, ⟨new, hs, fun m hm => (hn m hm).imp_left hk.trans⟩, fun c hc => ?_⟩
  exact (hp c hc).imp_left hk.trans

theorem of_same (h : SameQueries n n') : Extends k n n' :=
  ⟨h.nextChannel.ge, ⟨[], by simp [h.sent], by simp⟩,
    fun _ hp => .inr ((pending_of_queries_eq h.queries).1 hp)⟩

theorem newChannel (n : Node) : Extends k n n.newChannel.2 :=
  ⟨Nat.le_succ _, ⟨[], by simp, by simp⟩, fun _ hp => .inr hp⟩

theorem newQueryId (n : Node) : Extends k n n.newQueryId.2 :=
  ⟨le_rfl, ⟨[], by simp, by simp⟩, fun _ hp => .inr hp⟩

theorem insertQuery {id : QueryId} {q : QueryChannel} (hk : k ≤ q.ch) :
    Extends k n (n.insertQuery id q) := by
  refine ⟨le_rfl, ⟨[], by simp, by simp⟩, fun c hp => ?_⟩
  rcases hp.of_insertQuery with rfl | hp
  · exact .inl hk
  · exact .inr hp

theorem removeQuery (n : Node) (id : QueryId) : Extends k n (n.removeQuery id) :=
  ⟨le_rfl, ⟨[], by simp, by simp⟩, fun _ hp => .inr hp.of_removeQuery⟩

theorem send {r : Reply} (hc : k ≤ c ∨ n.Pending c) : Extends k n (n.send c r) :=
  ⟨le_rfl, ⟨[(c, r)], rfl, by simpa using hc⟩, fun _ hp => .inr hp⟩

/-- The answer to a query taken out of the map goes to a channel pending before. -/
theorem answer_taken {id : QueryId} {q : QueryChannel} (hq : n.queries.lookup id = some q)
    (r : Reply) : Extends k n ((n.removeQuery id).send q.ch r) :=
  ⟨le_rfl, ⟨[(q.ch, r)], rfl, by simpa using Or.inr ⟨id, q, hq, rfl⟩⟩,
    fun _ hp => .inr hp.of_removeQuery⟩

theorem bootstrap {tx : Nat} (htx : k ≤ tx) (started : Bool) :
    Extends k n (n.bootstrap tx started) := by
  unfold Node.bootstrap
  split_ifs
  · exact (newQueryId n).trans (insertQuery htx)
  · exact send (.inl htx)
  · exact send (.inl htx)

theorem kadQuery {tx : Nat} (htx : k ≤ tx) (kind : QueryKind) (started : Bool) :
    Extends k n (n.kadQuery kind tx started) := by
  unfold Node.kadQuery
  split_ifs
  · exact (newQueryId n).trans (insertQuery htx)
  · exact send (.inl htx)
  · exact refl n
  · exact send (.inl htx)

theorem bitswapQuery (hk : k ≤ n.nextChannel) {kind : QueryKind} {id : QueryId} {rx : Nat}
    (he : n.bitswapQuery kind = some (id, rx, n')) : Extends k n n' := by
  unfold Node.bitswapQuery at he
  split_ifs at he
  cases he
  -- the query waits on the channel just created
  exact ((newChannel n).trans (newQueryId _)).trans (insertQuery hk)

theorem cancel {id : QueryId} (he : n.cancel id = some n') : Extends k n n' := by
  rw [cancel_eq_some he]
  exact removeQuery n id

theorem finishKad (id : Nat) (kind : QueryKind) (result : Except QueryError Unit) :
    Extends k n (n.finishKad id kind result) := by
  unfold Node.finishKad
  split
  · next q hq =>
    split_ifs
    · exact answer_taken hq _
    · exact removeQuery n _
  · exact removeQuery n _

theorem injectKadEvent (e : KademliaEvent) : Extends k n (n.injectKadEvent e) := by
  cases e with
  | outboundQueryCompleted id result =>
    cases result with
    | bootstrap r =>
      cases r with
      | ok numRemaining =>
        simp only [Node.injectKadEvent]
        split_ifs
        · have hflag : Extends k n { n with bootstrapped := true } := of_same ⟨rfl, rfl, rfl, rfl⟩
          exact (hflag.trans (finishKad _ _ _)).trans (of_same (SameQueries.withBook _ _))
        · exact refl n
      | error _ => exact finishKad _ _ _
    | getClosestPeers ok => exact finishKad _ _ _
    | getProviders ok => exact finishKad _ _ _
    | startProviding ok => exact finishKad _ _ _
    | republishProvider ok => exact refl n
    | getRecord ok => exact finishKad _ _ _
    | putRecord ok => exact finishKad _ _ _
    | republishRecord ok => exact refl n
  | other => exact refl n

theorem injectBitswapEvent (e : BitswapEvent) : Extends k n (n.injectBitswapEvent e) := by
  cases e with
  | progress id missing =>
    simp only [Node.injectBitswapEvent]
    split
    · next ch hl => exact send (.inr ⟨_, _, hl, rfl⟩)
    · exact refl n
  | complete id result =>
    simp only [Node.injectBitswapEvent]
    split
    · next ch hl => exact answer_taken hl _
    · next ch hl => exact answer_taken hl _
    · exact removeQuery n _

theorem handleCommand {now : DateTime} {cmd : NetworkCommand}
    (he : n.handleCommand now cmd = some n') : Extends n.nextChannel n n' := by
  -- the command's reply channel is the first new one
  have h₁ : Extends n.nextChannel n n.newChannel.2 := newChannel n
  have hk : n.nextChannel ≤ n.newChannel.2.nextChannel := Nat.le_succ _
  rcases handleCommand_cases he with hs | ⟨m, hs, rfl | ⟨r, -, rfl⟩⟩ | ⟨m, started, hs, rfl⟩ |
    ⟨kind, started, -, rfl⟩ | ⟨kind, id, rx, n₂, r, -, -, hq, -, rfl⟩ | rfl | ⟨id, -, rfl⟩
  · exact of_same hs
  · exact h₁.trans (of_same hs)
  · exact (h₁.trans (of_same hs)).trans (send (.inl le_rfl))
  · exact (h₁.trans (of_same hs)).trans (bootstrap le_rfl started)
  · exact h₁.trans (kadQuery le_rfl kind started)
  · exact (h₁.trans (bitswapQuery hk hq)).trans (send (.inl le_rfl))
  · exact (h₁.trans (newChannel _)).trans (send (.inl le_rfl))
  · exact removeQuery n id

/-- **A turn writes only to the channels it creates and to those of queries waiting before
it.** -/
theorem step {now : DateTime} {i : SwarmInput} (he : n.step now i = some n') :
    Extends n.nextChannel n n' := by
  rcases step_queries_cases he with ⟨cmd, -, hc⟩ | hs | ⟨e, rfl⟩ | ⟨e, -, rfl⟩
  · exact handleCommand hc
  · exact of_same hs
  · exact injectKadEvent e
  · exact injectBitswapEvent e

/-- Over a whole run, the channels created in it and those pending at its start are the only
ones written to. -/
theorem run (h : Relation.ReflTransGen nodeStep n n') : Extends n.nextChannel n n' := by
  induction h with
  | refl => exact refl n
  | tail _ hstep ih =>
    obtain ⟨⟨now, i⟩, -, he⟩ := hstep
    exact ih.trans ((step he).mono ih.le)

end Extends

/-- **A channel that exists and on which no query waits receives nothing more**: in every run
from `n`, the messages on `c` are those it had in `n`. -/
theorem sent_to_closed (h : Relation.ReflTransGen nodeStep n n') (hc : c < n.nextChannel)
    (hp : ¬ n.Pending c) : n'.sent.filter (fun m => m.1 = c) = n.sent.filter (fun m => m.1 = c) := by
  obtain ⟨-, ⟨new, hsent, hnew⟩, -⟩ := Extends.run h
  -- a new message goes to a channel created in the run, or to one pending in `n`
  have hnone : new.filter (fun m => m.1 = c) = [] := by
    refine List.filter_eq_nil_iff.2 fun m hm hmc => ?_
    have hmc : m.1 = c := of_decide_eq_true hmc
    rcases hnew m hm with hk | hpend
    · omega
    · exact hp (hmc ▸ hpend)
  rw [hsent, List.filter_append, hnone, List.append_nil]

theorem init_disciplined (config : NetworkConfig) : (Node.init config).Disciplined where
  sent_lt m hm := by simp [Node.init] at hm
  pending_lt c hp := by
    obtain ⟨id, q, hl, -⟩ := hp
    simp [Node.init] at hl
  ch_inj id id' q q' hl := by simp [Node.init] at hl
  pending_answers c hp := by
    obtain ⟨id, q, hl, -⟩ := hp
    simp [Node.init] at hl
  answers_le c := by simp [answers, Node.init]
  id_lt id q hl := by simp [Node.init] at hl
  kind id q hl := by simp [Node.init] at hl

/-- **In every state the swarm task reaches, no reply channel is answered twice**, the queries
in the map wait on distinct channels that have no answer yet, and messages go only to channels
that exist. -/
theorem reachable_disciplined (h : NodeReachable n) : n.Disciplined := by
  obtain ⟨config, hr⟩ := h
  refine hr.invariant (init_disciplined config) ?_
  rintro s s' hs ⟨⟨now, i⟩, -, he⟩
  exact hs.step he

end Node

end IpfsEmbed
