import IpfsEmbed.Properties.Queries

/-!
# The life of a bitswap query

What the owner of a bitswap query sees of it: `NetworkService::get` and `sync` hand back a
`GetQuery` or a `SyncQuery` that holds the query's id and the receiver of its result
(`started`); bitswap reports the query complete (`completed`); dropping the `GetQuery` or the
`SyncQuery` sends `CancelQuery` (`cancelled`).  A traced run records these events as the swarm
task shows them: the handles it sends on reply channels, and the completions and cancels it
handles, whatever their order.

A query is live when it was started and, since, neither completed nor cancelled.  In every
traced run from `NetworkService::new`, under any inputs, the bitswap ids in the map are
exactly the live queries, each waiting on the receiver its handle holds; the receiver of a
query that is no longer live receives nothing more; and progress goes only to the receiver
of a live sync query.

The proof rests on what one turn can do to the bitswap queries (`step_bitswap_cases`): leave
them (`KeepsBitswap`), start one under a new id on a new channel (`StartsBitswap`), or take
one out on a cancel or a completion.
-/

namespace IpfsEmbed

/-- The query a message hands back: a `GetQuery` or a `SyncQuery`, by id and receiver. -/
def Reply.handle? : Reply → Option (QueryId × Nat)
  | .getQuery id rx | .syncQuery id rx => some (id, rx)
  | _ => none

/-- What the owner of a query sees of it. -/
inductive QueryEvent
  /-- A `GetQuery` or `SyncQuery` with id `id` and receiver `rx` is handed back. -/
  | started (id : QueryId) (rx : Nat)
  /-- Bitswap reports the query complete. -/
  | completed (id : QueryId)
  /-- `CancelQuery` for the query is handled. -/
  | cancelled (id : QueryId)
  deriving DecidableEq, Repr

/-- The event an input is for a query: its cancel, or bitswap's report that it completed. -/
def SwarmInput.queryEvent? : SwarmInput → Option QueryEvent
  | .command (.cancelQuery id) => some (.cancelled id)
  | .bitswap (.complete id _) => some (.completed (.bitswap id))
  | _ => none

/-- The query events of a turn from `n` to `n'` on input `i`: the queries handed back on
reply channels, then the input's own event. -/
def turnEvents (n n' : Node) (i : SwarmInput) : List QueryEvent :=
  ((n'.sent.drop n.sent.length).filterMap fun m => m.2.handle?).map (fun h => .started h.1 h.2) ++
    i.queryEvent?.toList

/-- A run of the swarm task from `n` to `n'`, on inputs the swarm can deliver, with the query
events it shows, oldest first. -/
inductive TracedRun (n : Node) : List QueryEvent → Node → Prop
  | refl : TracedRun n [] n
  | tail {es : List QueryEvent} {n₁ n₂ : Node} {now : DateTime} {i : SwarmInput} :
      TracedRun n es n₁ → n₁.canReceive i = true → n₁.step now i = some n₂ →
      TracedRun n (es ++ turnEvents n₁ n₂ i) n₂

/-- The query `id` was started and, since, neither completed nor cancelled. -/
def Live (es : List QueryEvent) (id : QueryId) : Prop :=
  ∃ pre rx post, es = pre ++ .started id rx :: post ∧ .completed id ∉ post ∧ .cancelled id ∉ post

/-! ## Lives of queries -/

section Live

variable {es : List QueryEvent} {id : QueryId}

theorem not_live_nil : ¬ Live [] id := by
  rintro ⟨pre, rx, post, h, -⟩
  exact List.append_ne_nil_of_right_ne_nil pre (List.cons_ne_nil _ _) h.symm

/-- One more event: a start of the query makes it live, and a completion or a cancel of it
ends its life. -/
theorem live_append_singleton {e : QueryEvent} :
    Live (es ++ [e]) id ↔
      (Live es id ∧ e ≠ .completed id ∧ e ≠ .cancelled id) ∨ ∃ rx, e = .started id rx := by
  constructor
  · rintro ⟨pre, rx, post, he, hc, hx⟩
    rcases List.eq_nil_or_concat post with rfl | ⟨post', e', rfl⟩
    · -- the start is the new event
      obtain ⟨-, he⟩ := List.append_inj' he rfl
      exact .inr ⟨rx, List.singleton_inj.1 he⟩
    · -- the new event follows the start
      have he' : es ++ [e] = (pre ++ .started id rx :: post') ++ [e'] := by simpa using he
      obtain ⟨hes, hlast⟩ := List.append_inj' he' rfl
      obtain rfl := List.singleton_inj.1 hlast
      simp only [List.concat_eq_append, List.mem_append, List.mem_singleton, not_or] at hc hx
      exact .inl ⟨⟨pre, rx, post', hes, hc.1, hx.1⟩, fun h => hc.2 h.symm, fun h => hx.2 h.symm⟩
  · rintro (⟨⟨pre, rx, post, rfl, hc, hx⟩, hec, hex⟩ | ⟨rx, rfl⟩)
    · refine ⟨pre, rx, post ++ [e], by simp, ?_, ?_⟩
      · simpa [List.mem_append, eq_comm] using ⟨hc, hec⟩
      · simpa [List.mem_append, eq_comm] using ⟨hx, hex⟩
    · exact ⟨es, rx, [], rfl, List.not_mem_nil, List.not_mem_nil⟩

/-- An event about another query leaves the life of `id` as it was. -/
theorem live_append_other {e : QueryEvent} (hc : e ≠ .completed id) (hx : e ≠ .cancelled id)
    (hs : ∀ rx, e ≠ .started id rx) : Live (es ++ [e]) id ↔ Live es id := by
  rw [live_append_singleton]
  constructor
  · rintro (⟨h, -⟩ | ⟨rx, h⟩)
    · exact h
    · exact absurd h (hs rx)
  · exact fun h => .inl ⟨h, hc, hx⟩

theorem not_live_append_completed : ¬ Live (es ++ [.completed id]) id := by
  rw [live_append_singleton]
  rintro (⟨-, h, -⟩ | ⟨rx, h⟩)
  · exact h rfl
  · cases h

theorem not_live_append_cancelled : ¬ Live (es ++ [.cancelled id]) id := by
  rw [live_append_singleton]
  rintro (⟨-, -, h⟩ | ⟨rx, h⟩)
  · exact h rfl
  · cases h

theorem live_append_started (rx : Nat) : Live (es ++ [.started id rx]) id :=
  live_append_singleton.2 (.inr ⟨rx, rfl⟩)

/-- The end of a query's life: its cancel or its completion. -/
def IsEnd (e : QueryEvent) (id : QueryId) : Prop :=
  e = .cancelled id ∨ e = .completed id

theorem not_live_append_end {e : QueryEvent} (he : IsEnd e id) : ¬ Live (es ++ [e]) id := by
  rcases he with rfl | rfl
  · exact not_live_append_cancelled
  · exact not_live_append_completed

theorem live_append_end_ne {e : QueryEvent} {id₀ : QueryId} (he : IsEnd e id₀) (hne : id ≠ id₀) :
    Live (es ++ [e]) id ↔ Live es id := by
  rcases he with rfl | rfl <;> exact live_append_other (by simp [hne.symm]) (by simp [hne.symm])
    (fun _ => by simp)

theorem started_mem_append_end {e : QueryEvent} {id₀ : QueryId} (he : IsEnd e id₀) {rx : Nat} :
    .started id rx ∈ es ++ [e] ↔ .started id rx ∈ es := by
  rcases he with rfl | rfl <;> simp

end Live

/-! ## Turns that leave the bitswap queries alone -/

namespace Node

variable {n n' n'' : Node} {c : Nat}

/-- A message that hands back no query, and that reports progress only on the channel of a
sync query of `n`. -/
def QuietMsg (n : Node) (m : Nat × Reply) : Prop :=
  m.2.handle? = none ∧
    (m.2.isProgress = true → ∃ k, n.queries.lookup (.bitswap k) = some ⟨.sync, m.1⟩)

/-- From `n` to `n'` the bitswap queries stay as they are, and the messages sent are quiet. -/
structure KeepsBitswap (n n' : Node) : Prop where
  lookup : ∀ k, n'.queries.lookup (.bitswap k) = n.queries.lookup (.bitswap k)
  sent : ∃ new, n'.sent = n.sent ++ new ∧ ∀ m ∈ new, n.QuietMsg m
  nextQuery : n.nextQuery ≤ n'.nextQuery

/-- An answer that is no progress report and hands back no query is quiet. -/
theorem quietMsg_of {r : Reply} (hh : r.handle? = none) (hp : r.isProgress = false) (c : Nat) :
    n.QuietMsg (c, r) :=
  ⟨hh, fun h => absurd (hp ▸ h) Bool.false_ne_true⟩

/-- A command's answer hands back no query and reports no progress. -/
theorem quietMsg_of_isAnswer {r : Reply} (hr : r.IsAnswer) (c : Nat) : n.QuietMsg (c, r) := by
  cases hr <;> exact quietMsg_of rfl rfl c

theorem QuietMsg.of_lookup (h : ∀ k, n'.queries.lookup (.bitswap k) = n.queries.lookup (.bitswap k))
    {m : Nat × Reply} (hm : n'.QuietMsg m) : n.QuietMsg m :=
  ⟨hm.1, fun hp => (hm.2 hp).imp fun k hk => h k ▸ hk⟩

theorem lookup_bitswap_insert_kad (k j : Nat) (q : QueryChannel) :
    (n.queries.insert (.kad j) q).lookup (.bitswap k) = n.queries.lookup (.bitswap k) :=
  AList.lookup_insert_ne QueryId.noConfusion

theorem lookup_bitswap_erase_kad (k j : Nat) :
    (n.queries.erase (.kad j)).lookup (.bitswap k) = n.queries.lookup (.bitswap k) :=
  AList.lookup_erase_ne QueryId.noConfusion

namespace KeepsBitswap

theorem refl (n : Node) : KeepsBitswap n n :=
  ⟨fun _ => rfl, ⟨[], by simp, by simp⟩, le_rfl⟩

theorem trans (h₁ : KeepsBitswap n n') (h₂ : KeepsBitswap n' n'') : KeepsBitswap n n'' := by
  obtain ⟨l₁, ⟨new₁, hs₁, hn₁⟩, q₁⟩ := h₁
  obtain ⟨l₂, ⟨new₂, hs₂, hn₂⟩, q₂⟩ := h₂
  refine ⟨fun k => (l₂ k).trans (l₁ k), ⟨new₁ ++ new₂, by rw [hs₂, hs₁, List.append_assoc], ?_⟩,
    q₁.trans q₂⟩
  intro m hm
  rcases List.mem_append.1 hm with hm | hm
  · exact hn₁ m hm
  · -- the middle state has the bitswap queries of the first
    exact (hn₂ m hm).of_lookup l₁

theorem of_same (h : SameQueries n n') : KeepsBitswap n n' :=
  ⟨fun _ => by rw [h.queries], ⟨[], by simp [h.sent], by simp⟩, h.nextQuery.ge⟩

theorem newChannel (n : Node) : KeepsBitswap n n.newChannel.2 :=
  ⟨fun _ => rfl, ⟨[], by simp, by simp⟩, le_rfl⟩

theorem newQueryId (n : Node) : KeepsBitswap n n.newQueryId.2 :=
  ⟨fun _ => rfl, ⟨[], by simp, by simp⟩, Nat.le_succ _⟩

theorem insertQuery_kad (j : Nat) (q : QueryChannel) : KeepsBitswap n (n.insertQuery (.kad j) q) :=
  ⟨fun k => lookup_bitswap_insert_kad k j q, ⟨[], by simp, by simp⟩, le_rfl⟩

theorem removeQuery_kad (j : Nat) : KeepsBitswap n (n.removeQuery (.kad j)) :=
  ⟨fun k => lookup_bitswap_erase_kad k j, ⟨[], by simp, by simp⟩, le_rfl⟩

theorem send {r : Reply} (hm : n.QuietMsg (c, r)) : KeepsBitswap n (n.send c r) :=
  ⟨fun _ => rfl, ⟨[(c, r)], rfl, by simpa using hm⟩, le_rfl⟩

/-- A Kademlia result, to a Kademlia query. -/
theorem send_result (c : Nat) (r : Except QueryError Unit) : KeepsBitswap n (n.send c (.result r)) :=
  send (quietMsg_of rfl rfl c)

theorem bootstrap (tx : Nat) (started : Bool) : KeepsBitswap n (n.bootstrap tx started) := by
  unfold Node.bootstrap
  split_ifs
  · exact (newQueryId n).trans (insertQuery_kad _ _)
  · exact send_result _ _
  · exact send_result _ _

theorem kadQuery (kind : QueryKind) (tx : Nat) (started : Bool) :
    KeepsBitswap n (n.kadQuery kind tx started) := by
  unfold Node.kadQuery
  split_ifs
  · exact (newQueryId n).trans (insertQuery_kad _ _)
  · exact send_result _ _
  · exact refl n
  · exact send_result _ _

theorem finishKad (id : Nat) (kind : QueryKind) (result : Except QueryError Unit) :
    KeepsBitswap n (n.finishKad id kind result) := by
  unfold Node.finishKad
  split
  · split_ifs
    · exact (removeQuery_kad id).trans (send_result _ _)
    · exact removeQuery_kad id
  · exact removeQuery_kad id

theorem injectKadEvent (e : KademliaEvent) : KeepsBitswap n (n.injectKadEvent e) := by
  cases e with
  | outboundQueryCompleted id result =>
    cases result with
    | bootstrap r =>
      cases r with
      | ok numRemaining =>
        simp only [Node.injectKadEvent]
        split_ifs
        · have hflag : KeepsBitswap n { n with bootstrapped := true } := of_same ⟨rfl, rfl, rfl, rfl⟩
          exact (hflag.trans (finishKad _ _ _)).trans (of_same (SameQueries.withBook _ _))
        · exact refl n
      | error _ => exact finishKad _ _ _
    | getClosestPeers ok => exact finishKad _ _ _
    | getProviders ok => exact finishKad _ _ _
    | startProviding ok => exact finishKad _ _ _
    | republishProvider ok => exact refl n
    | getRecord ok => exact finishKad _ _ _
    | putRecord ok => exact finishKad _ _ _
    | republishRecord ok => exact refl n
  | other => exact refl n

/-- Progress goes to the channel of the sync query it is for. -/
theorem injectBitswap_progress (id missing : Nat) :
    KeepsBitswap n (n.injectBitswapEvent (.progress id missing)) := by
  simp only [Node.injectBitswapEvent]
  split
  · next ch hl => exact send ⟨rfl, fun _ => ⟨id, hl⟩⟩
  · exact refl n

end KeepsBitswap

/-! ## Turns that start or end a bitswap query -/

/-- From `n` to `n'` a bitswap query of `kind` starts: it gets the next id and waits on the
second of the next two channels, and its handle goes out on the first, the command's reply
channel. -/
structure StartsBitswap (kind : QueryKind) (n n' : Node) : Prop where
  queries : n'.queries = n.queries.insert (.bitswap n.nextQuery) ⟨kind, n.nextChannel + 1⟩
  sent : ∃ r, n'.sent = n.sent ++ [(n.nextChannel, r)] ∧
    r.handle? = some (.bitswap n.nextQuery, n.nextChannel + 1) ∧ r.isProgress = false
  nextQuery : n'.nextQuery = n.nextQuery + 1
  nextChannel : n'.nextChannel = n.nextChannel + 2

/-- From `n` to `n'` the bitswap query `k` leaves the map, and what is sent hands back no query
and reports no progress. -/
structure EndsBitswap (k : Nat) (n n' : Node) : Prop where
  queries : n'.queries = n.queries.erase (.bitswap k)
  sent : ∃ new, n'.sent = n.sent ++ new ∧ ∀ m ∈ new, m.2.handle? = none ∧ m.2.isProgress = false
  nextQuery : n'.nextQuery = n.nextQuery
  nextChannel : n'.nextChannel = n.nextChannel

theorem startsBitswap_of_bitswapQuery {kind : QueryKind} {id : QueryId} {rx : Nat} {n₂ : Node}
    {r : Reply} (hq : n.newChannel.2.bitswapQuery kind = some (id, rx, n₂))
    (hr : r.handle? = some (id, rx)) (hp : r.isProgress = false) :
    StartsBitswap kind n (n₂.send n.nextChannel r) := by
  unfold Node.bitswapQuery at hq
  split_ifs at hq
  cases hq
  exact ⟨rfl, ⟨r, rfl, hr, hp⟩, rfl, rfl⟩

theorem startsBitswap_get {now : DateTime} (he : n.handleCommand now .get = some n') :
    StartsBitswap .get n n' := by
  rw [handleCommand_get] at he
  obtain ⟨⟨id, rx, n₂⟩, hget, hn⟩ := Option.bind_eq_some_iff.1 he
  cases hn
  exact startsBitswap_of_bitswapQuery hget rfl rfl

theorem startsBitswap_sync {now : DateTime} (he : n.handleCommand now .sync = some n') :
    StartsBitswap .sync n n' := by
  rw [handleCommand_sync] at he
  obtain ⟨⟨id, rx, n₂⟩, hsync, hn⟩ := Option.bind_eq_some_iff.1 he
  cases hn
  exact startsBitswap_of_bitswapQuery hsync rfl rfl

theorem endsBitswap_removeQuery (k : Nat) : EndsBitswap k n (n.removeQuery (.bitswap k)) :=
  ⟨rfl, ⟨[], by simp, by simp⟩, rfl, rfl⟩

/-- The answer to a completed query. -/
theorem endsBitswap_answer (k ch : Nat) {r : Reply} (hh : r.handle? = none)
    (hp : r.isProgress = false) : EndsBitswap k n ((n.removeQuery (.bitswap k)).send ch r) :=
  ⟨rfl, ⟨[(ch, r)], rfl, by simpa using ⟨hh, hp⟩⟩, rfl, rfl⟩

theorem endsBitswap_complete (k : Nat) (result : Except QueryError Unit) :
    EndsBitswap k n (n.injectBitswapEvent (.complete k result)) := by
  simp only [Node.injectBitswapEvent]
  split
  · exact endsBitswap_answer k _ rfl rfl
  · exact endsBitswap_answer k _ rfl rfl
  · exact endsBitswap_removeQuery k

/-- The commands that do not run bitswap queries leave the bitswap queries alone. -/
theorem keepsBitswap_handleCommand {now : DateTime} {cmd : NetworkCommand}
    (hcmd : cmd ≠ .get ∧ cmd ≠ .sync ∧ ∀ k, cmd ≠ .cancelQuery (.bitswap k))
    (he : n.handleCommand now cmd = some n') : KeepsBitswap n n' := by
  -- the command's reply channel is the first new one
  have h₁ : KeepsBitswap n n.newChannel.2 := KeepsBitswap.newChannel n
  rcases handleCommand_cases he with hs | ⟨m, hs, rfl | ⟨r, hr, rfl⟩⟩ | ⟨m, started, hs, rfl⟩ |
    ⟨kind, started, -, rfl⟩ | ⟨kind, id, rx, n₂, r, hget | hsync, -⟩ | rfl | ⟨id, rfl, rfl⟩
  · exact KeepsBitswap.of_same hs
  · exact h₁.trans (KeepsBitswap.of_same hs)
  · exact (h₁.trans (KeepsBitswap.of_same hs)).trans (KeepsBitswap.send (quietMsg_of_isAnswer hr _))
  · exact (h₁.trans (KeepsBitswap.of_same hs)).trans (KeepsBitswap.bootstrap _ started)
  · exact h₁.trans (KeepsBitswap.kadQuery kind _ started)
  · exact absurd hget hcmd.1
  · exact absurd hsync hcmd.2.1
  · exact (h₁.trans (KeepsBitswap.newChannel _)).trans (KeepsBitswap.send (quietMsg_of rfl rfl _))
  · -- only a Kademlia query is cancelled here
    cases id with
    | bitswap k => exact absurd rfl (hcmd.2.2 k)
    | kad j => exact KeepsBitswap.removeQuery_kad j

/-- **What a turn does to the bitswap queries**: it leaves them, on any input but a `Get`, a
`Sync`, the cancel of a bitswap query or a completion; it starts one, on `Get` or `Sync`; or
it ends one, on its cancel or its completion. -/
theorem step_bitswap_cases {now : DateTime} {i : SwarmInput} (he : n.step now i = some n') :
    (KeepsBitswap n n' ∧ (i.queryEvent? = none ∨ ∃ j, i.queryEvent? = some (.cancelled (.kad j)))) ∨
    (∃ kind, i.queryEvent? = none ∧ StartsBitswap kind n n') ∨
    (∃ k, (i.queryEvent? = some (.cancelled (.bitswap k)) ∨
      i.queryEvent? = some (.completed (.bitswap k))) ∧ EndsBitswap k n n') := by
  cases i with
  | command cmd =>
    -- the commands that run bitswap queries, then all the others
    by_cases hget : cmd = .get
    · subst hget
      have hc : n.handleCommand now .get = some n' := he
      exact .inr (.inl ⟨.get, rfl, startsBitswap_get hc⟩)
    by_cases hsync : cmd = .sync
    · subst hsync
      have hc : n.handleCommand now .sync = some n' := he
      exact .inr (.inl ⟨.sync, rfl, startsBitswap_sync hc⟩)
    by_cases hcancel : ∃ k, cmd = .cancelQuery (.bitswap k)
    · obtain ⟨k, rfl⟩ := hcancel
      have hc : n.cancel (.bitswap k) = some n' := he
      have hn := cancel_eq_some hc
      subst hn
      exact .inr (.inr ⟨k, .inl rfl, endsBitswap_removeQuery k⟩)
    have hkeep := keepsBitswap_handleCommand ⟨hget, hsync, fun k h => hcancel ⟨k, h⟩⟩ he
    refine .inl ⟨hkeep, ?_⟩
    cases cmd with
    | cancelQuery id =>
      cases id with
      | bitswap k => exact absurd ⟨k, rfl⟩ hcancel
      | kad j => exact .inr ⟨j, rfl⟩
    | _ => exact .inl rfl
  | bitswap e =>
    cases he
    cases e with
    | progress id missing => exact .inl ⟨KeepsBitswap.injectBitswap_progress id missing, .inl rfl⟩
    | complete k result => exact .inr (.inr ⟨k, .inr rfl, endsBitswap_complete k result⟩)
  | _ =>
    -- the other inputs are no query events, and leave the bitswap queries alone
    rcases step_queries_cases he with ⟨cmd, hi, -⟩ | hs | ⟨e, rfl⟩ | ⟨e, hi, -⟩
    · cases hi
    · exact .inl ⟨KeepsBitswap.of_same hs, .inl rfl⟩
    · exact .inl ⟨KeepsBitswap.injectKadEvent e, .inl rfl⟩
    · cases hi

/-! ## The events of a turn -/

theorem handles_of_sent {new : List (Nat × Reply)} (hs : n'.sent = n.sent ++ new) :
    (n'.sent.drop n.sent.length).filterMap (fun m => m.2.handle?) =
      new.filterMap fun m => m.2.handle? := by
  rw [hs, List.drop_left]

/-- A turn that hands back no query shows only its input's own event. -/
theorem turnEvents_of_no_handle {new : List (Nat × Reply)} (hs : n'.sent = n.sent ++ new)
    (hq : ∀ m ∈ new, m.2.handle? = none) (i : SwarmInput) :
    turnEvents n n' i = i.queryEvent?.toList := by
  unfold IpfsEmbed.turnEvents
  rw [handles_of_sent hs, List.filterMap_eq_nil_iff.2 hq]
  rfl

theorem KeepsBitswap.turnEvents (h : KeepsBitswap n n') (i : SwarmInput) :
    turnEvents n n' i = i.queryEvent?.toList := by
  obtain ⟨new, hs, hq⟩ := h.sent
  exact turnEvents_of_no_handle hs (fun m hm => (hq m hm).1) i

theorem StartsBitswap.turnEvents {kind : QueryKind} (h : StartsBitswap kind n n') {i : SwarmInput}
    (hi : i.queryEvent? = none) :
    turnEvents n n' i = [.started (.bitswap n.nextQuery) (n.nextChannel + 1)] := by
  obtain ⟨r, hs, hr, -⟩ := h.sent
  unfold IpfsEmbed.turnEvents
  rw [handles_of_sent hs, hi]
  simp [hr]

theorem EndsBitswap.turnEvents {k : Nat} (h : EndsBitswap k n n') (i : SwarmInput) :
    turnEvents n n' i = i.queryEvent?.toList := by
  obtain ⟨new, hs, hq⟩ := h.sent
  exact turnEvents_of_no_handle hs (fun m hm => (hq m hm).1) i

/-- **A turn reports progress only on the channel of a sync query waiting before it.** -/
theorem step_progress {now : DateTime} {i : SwarmInput} (he : n.step now i = some n')
    {m : Nat × Reply} (hm : m ∈ n'.sent.drop n.sent.length) (hp : m.2.isProgress = true) :
    ∃ k, n.queries.lookup (.bitswap k) = some ⟨.sync, m.1⟩ := by
  rcases step_bitswap_cases he with ⟨hk, -⟩ | ⟨kind, -, hs⟩ | ⟨k, -, hs⟩
  · obtain ⟨new, hsent, hq⟩ := hk.sent
    rw [hsent, List.drop_left] at hm
    exact (hq m hm).2 hp
  · -- a start sends only the handle
    obtain ⟨r, hsent, -, hr⟩ := hs.sent
    rw [hsent, List.drop_left, List.mem_singleton] at hm
    subst hm
    exact absurd (hr ▸ hp) Bool.false_ne_true
  · obtain ⟨new, hsent, hq⟩ := hs.sent
    rw [hsent, List.drop_left] at hm
    exact absurd ((hq m hm).2 ▸ hp) Bool.false_ne_true

end Node

/-! ## The map follows the lives of the queries -/

open Node

/-- What the query events of a run say about the state it ends in. -/
structure LogMatches (n : Node) (es : List QueryEvent) : Prop where
  /-- The bitswap ids in the map are those of the live queries. -/
  live_iff : ∀ k, (n.queries.lookup (.bitswap k)).isSome ↔ Live es (.bitswap k)
  /-- A live query waits on the receiver its handle holds. -/
  channel : ∀ id rx, .started id rx ∈ es → Live es id → ∃ kind, n.queries.lookup id = some ⟨kind, rx⟩
  /-- No query waits on the receiver of a query that is over. -/
  closed : ∀ id rx, .started id rx ∈ es → ¬ Live es id → ¬ n.Pending rx
  /-- A handle holds a bitswap id and a channel handed out. -/
  started_lt : ∀ id rx, .started id rx ∈ es → ∃ k, id = .bitswap k ∧ k < n.nextQuery ∧ rx < n.nextChannel

namespace LogMatches

variable {n n' : Node} {es : List QueryEvent}

theorem init (config : NetworkConfig) : LogMatches (Node.init config) [] where
  live_iff k := by simp [Node.init, not_live_nil]
  channel _ _ h := absurd h List.not_mem_nil
  closed _ _ h := absurd h List.not_mem_nil
  started_lt _ _ h := absurd h List.not_mem_nil

/-- A turn that leaves the bitswap queries alone, with events that change no query's life. -/
theorem keep (h : LogMatches n es) (hk : KeepsBitswap n n') (hext : Extends n.nextChannel n n')
    {es' : List QueryEvent} (hlive : ∀ k, Live es' (.bitswap k) ↔ Live es (.bitswap k))
    (hstart : ∀ id rx, .started id rx ∈ es' ↔ .started id rx ∈ es) : LogMatches n' es' where
  live_iff k := by rw [hk.lookup, hlive]; exact h.live_iff k
  channel id rx hs hl := by
    obtain ⟨k, rfl, -⟩ := h.started_lt id rx ((hstart id rx).1 hs)
    rw [hk.lookup]
    exact h.channel _ rx ((hstart _ rx).1 hs) ((hlive k).1 hl)
  closed id rx hs hl hp := by
    have hs' := (hstart id rx).1 hs
    obtain ⟨k, rfl, -, hrx⟩ := h.started_lt id rx hs'
    -- a channel handed out before the turn is pending after it only if it was before
    rcases hext.pending rx hp with hge | hp
    · omega
    · exact h.closed _ rx hs' (fun hl' => hl ((hlive k).2 hl')) hp
  started_lt id rx hs := by
    obtain ⟨k, hid, hq, hrx⟩ := h.started_lt id rx ((hstart id rx).1 hs)
    exact ⟨k, hid, Nat.lt_of_lt_of_le hq hk.nextQuery, Nat.lt_of_lt_of_le hrx hext.le⟩

/-- A turn that starts a query: the new id becomes live, on its new receiver. -/
theorem start (h : LogMatches n es) {kind : QueryKind} (hs : StartsBitswap kind n n') :
    LogMatches n' (es ++ [.started (.bitswap n.nextQuery) (n.nextChannel + 1)]) := by
  have hlook : ∀ k, k ≠ n.nextQuery → n'.queries.lookup (.bitswap k) = n.queries.lookup (.bitswap k) := by
    intro k hk
    rw [hs.queries, AList.lookup_insert_ne (by simpa using hk)]
  have hnew : n'.queries.lookup (.bitswap n.nextQuery) = some ⟨kind, n.nextChannel + 1⟩ := by
    rw [hs.queries, AList.lookup_insert]
  -- the handles before the turn hold older ids
  have hold : ∀ id rx, .started id rx ∈ es → ∃ k, id = .bitswap k ∧ k ≠ n.nextQuery ∧
      (Live (es ++ [.started (.bitswap n.nextQuery) (n.nextChannel + 1)]) id ↔ Live es id) := by
    intro id rx hmem
    obtain ⟨k, rfl, hk, -⟩ := h.started_lt id rx hmem
    exact ⟨k, rfl, Nat.ne_of_lt hk, live_append_other (by simp) (by simp) (by simp [Nat.ne_of_gt hk])⟩
  refine ⟨fun k => ?_, fun id rx hmem hl => ?_, fun id rx hmem hl => ?_, fun id rx hmem => ?_⟩
  · by_cases hk : k = n.nextQuery
    · subst hk
      simp [hnew, live_append_started]
    · rw [hlook k hk, live_append_other (by simp) (by simp) (by simp [Ne.symm hk])]
      exact h.live_iff k
  · rcases List.mem_append.1 hmem with hmem | hmem
    · obtain ⟨k, rfl, hk, hiff⟩ := hold id rx hmem
      rw [hlook k hk]
      exact h.channel _ rx hmem (hiff.1 hl)
    · obtain ⟨rfl, rfl⟩ : id = .bitswap n.nextQuery ∧ rx = n.nextChannel + 1 := by simpa using hmem
      exact ⟨kind, hnew⟩
  · rcases List.mem_append.1 hmem with hmem | hmem
    · obtain ⟨k, rfl, hk, hiff⟩ := hold id rx hmem
      obtain ⟨-, -, -, hrx⟩ := h.started_lt _ rx hmem
      intro hp
      -- the one query the turn adds waits on the channel it creates
      rw [pending_of_queries_eq
        (n := n.insertQuery (.bitswap n.nextQuery) ⟨kind, n.nextChannel + 1⟩) hs.queries] at hp
      rcases hp.of_insertQuery with heq | hp
      · simp only at heq
        omega
      · exact h.closed _ rx hmem (fun hl' => hl (hiff.2 hl')) hp
    · obtain ⟨rfl, -⟩ : id = .bitswap n.nextQuery ∧ rx = n.nextChannel + 1 := by simpa using hmem
      exact absurd (live_append_started _) hl
  · rw [hs.nextQuery, hs.nextChannel]
    rcases List.mem_append.1 hmem with hmem | hmem
    · obtain ⟨k, hid, hk, hrx⟩ := h.started_lt id rx hmem
      exact ⟨k, hid, Nat.lt_succ_of_lt hk, by omega⟩
    · obtain ⟨rfl, rfl⟩ : id = .bitswap n.nextQuery ∧ rx = n.nextChannel + 1 := by simpa using hmem
      exact ⟨n.nextQuery, rfl, Nat.lt_succ_self _, by omega⟩

/-- A turn that ends the query `k`: it is live no more, and its receiver is free. -/
theorem finish (h : LogMatches n es) (hd : n.Disciplined) {k : Nat} (hs : EndsBitswap k n n')
    {e : QueryEvent} (he : IsEnd e (.bitswap k)) : LogMatches n' (es ++ [e]) := by
  have hlook : ∀ k', k' ≠ k → n'.queries.lookup (.bitswap k') = n.queries.lookup (.bitswap k') := by
    intro k' hk
    rw [hs.queries, AList.lookup_erase_ne (by simpa using hk)]
  refine ⟨fun k' => ?_, fun id rx hmem hl => ?_, fun id rx hmem hl => ?_, fun id rx hmem => ?_⟩
  · by_cases hk : k' = k
    · subst hk
      simp [hs.queries, not_live_append_end he]
    · rw [hlook k' hk, live_append_end_ne he (by simpa using hk)]
      exact h.live_iff k'
  · have hmem := (started_mem_append_end he).1 hmem
    obtain ⟨k', rfl, -⟩ := h.started_lt id rx hmem
    have hk : k' ≠ k := by
      rintro rfl
      exact not_live_append_end he hl
    rw [hlook k' hk]
    exact h.channel _ rx hmem ((live_append_end_ne he (by simpa using hk)).1 hl)
  · have hmem := (started_mem_append_end he).1 hmem
    intro hp
    rw [pending_of_queries_eq (n := n.removeQuery (.bitswap k)) hs.queries] at hp
    by_cases hl' : Live es id
    · -- the query ends in this turn: its entry leaves, and no other waits on its receiver
      obtain ⟨k', rfl, -⟩ := h.started_lt id rx hmem
      have hk : k' = k := by
        by_contra hk
        exact hl ((live_append_end_ne he (by simpa using hk)).2 hl')
      subst hk
      obtain ⟨kind, hq⟩ := h.channel _ rx hmem hl'
      exact hd.not_pending_removeQuery hq hp
    · exact h.closed id rx hmem hl' hp.of_removeQuery
  · obtain ⟨k', hid, hk, hrx⟩ := h.started_lt id rx ((started_mem_append_end he).1 hmem)
    exact ⟨k', hid, hs.nextQuery ▸ hk, hs.nextChannel ▸ hrx⟩

/-- **Every turn keeps the map following the lives of the queries.** -/
theorem step (h : LogMatches n es) (hd : n.Disciplined) {now : DateTime} {i : SwarmInput}
    (he : n.step now i = some n') : LogMatches n' (es ++ turnEvents n n' i) := by
  rcases step_bitswap_cases he with ⟨hk, hev⟩ | ⟨kind, hev, hs⟩ | ⟨k, hev, hs⟩
  · rw [hk.turnEvents]
    rcases hev with hev | ⟨j, hev⟩ <;> rw [hev]
    · rw [Option.toList_none, List.append_nil]
      exact h.keep hk (Extends.step he) (fun _ => Iff.rfl) (fun _ _ => Iff.rfl)
    · -- the cancel of a Kademlia query is about no bitswap query
      rw [Option.toList_some]
      exact h.keep hk (Extends.step he) (fun k => live_append_end_ne (.inl rfl) (by simp))
        (fun _ _ => started_mem_append_end (.inl rfl))
  · rw [hs.turnEvents hev]
    exact h.start hs
  · rw [hs.turnEvents]
    rcases hev with hev | hev <;> rw [hev, Option.toList_some]
    · exact h.finish hd hs (.inl rfl)
    · exact h.finish hd hs (.inr rfl)

end LogMatches

namespace TracedRun

variable {n n' : Node} {es : List QueryEvent}

theorem reachable (h : TracedRun n es n') : Relation.ReflTransGen nodeStep n n' := by
  induction h with
  | refl => exact .refl
  | tail _ hr he ih => exact ih.tail ⟨(_, _), hr, he⟩

/-- In every traced run from `NetworkService::new`, the map follows the lives of the queries. -/
theorem logMatches {config : NetworkConfig} (h : TracedRun (Node.init config) es n) :
    LogMatches n es := by
  induction h with
  | refl => exact LogMatches.init config
  | tail hrun _ he ih => exact ih.step (reachable_disciplined ⟨config, hrun.reachable⟩) he

end TracedRun

/-- **The query-channel protocol.**  In every run of the swarm task from `NetworkService::new`,
under any interleaving of commands and events: the bitswap ids in the map are those of the
queries handed back and, since, neither completed nor cancelled, and each waits on the receiver
its handle holds; no channel gets two answers; the receiver of a query that is over receives
nothing more in any continuation; every progress report goes to the receiver of a live sync
query; and the map holds gets and syncs under bitswap ids, Kademlia queries under Kademlia
ids. -/
theorem query_channel_protocol (config : NetworkConfig) (es : List QueryEvent) (n : Node)
    (h : TracedRun (Node.init config) es n) :
    (∀ k, (n.queries.lookup (.bitswap k)).isSome ↔ Live es (.bitswap k)) ∧
    (∀ id rx, .started id rx ∈ es → Live es id → ∃ kind, n.queries.lookup id = some ⟨kind, rx⟩) ∧
    (∀ c, n.answers c ≤ 1) ∧
    (∀ id rx, .started id rx ∈ es → ¬ Live es id → ∀ n', Relation.ReflTransGen nodeStep n n' →
      n'.sent.filter (fun m => m.1 = rx) = n.sent.filter (fun m => m.1 = rx)) ∧
    (∀ now i n', n.step now i = some n' → ∀ m ∈ n'.sent.drop n.sent.length, m.2.isProgress = true →
      ∃ k, Live es (.bitswap k) ∧ .started (.bitswap k) m.1 ∈ es ∧
        n.queries.lookup (.bitswap k) = some ⟨.sync, m.1⟩) ∧
    (∀ id q, n.queries.lookup id = some q → q.kind.isBitswap = id.isBitswap) := by
  have hlog := h.logMatches
  have hd := reachable_disciplined ⟨config, h.reachable⟩
  refine ⟨hlog.live_iff, hlog.channel, hd.answers_le, fun id rx hs hl n' hrun => ?_,
    fun now i n' he m hm hp => ?_, hd.kind⟩
  · obtain ⟨k, -, -, hrx⟩ := hlog.started_lt id rx hs
    exact sent_to_closed hrun hrx (hlog.closed id rx hs hl)
  · obtain ⟨k, hk⟩ := step_progress he hm hp
    -- the sync query is live, and its handle holds the channel the progress goes to
    have hlive : Live es (.bitswap k) := (hlog.live_iff k).1 (by simp [hk])
    obtain ⟨pre, rx, post, hes, -⟩ := id hlive
    have hmem : QueryEvent.started (.bitswap k) rx ∈ es := by simp [hes]
    obtain ⟨kind, hq⟩ := hlog.channel _ rx hmem hlive
    -- the handle's receiver is the channel the sync query waits on
    rw [hk, Option.some.injEq, QueryChannel.mk.injEq] at hq
    refine ⟨k, hlive, ?_, hk⟩
    rw [hq.2]
    exact hmem

/-- With bitswap on, a `Get` is handed back as query 0 on receiver 1, then bitswap completes
it. -/
theorem query_channel_protocol_get :
    let config : NetworkConfig :=
      ⟨⟨false, false, false, false, true⟩, false, false, ⟨false, false, false, ⟨0⟩⟩⟩
    let es := [QueryEvent.started (.bitswap 0) 1, .completed (.bitswap 0)]
    ∃ n, TracedRun (Node.init config) es n ∧
    (∀ k, (n.queries.lookup (.bitswap k)).isSome ↔ Live es (.bitswap k)) ∧
    (∀ id rx, .started id rx ∈ es → Live es id → ∃ kind, n.queries.lookup id = some ⟨kind, rx⟩) ∧
    (∀ c, n.answers c ≤ 1) ∧
    (∀ id rx, .started id rx ∈ es → ¬ Live es id → ∀ n', Relation.ReflTransGen nodeStep n n' →
      n'.sent.filter (fun m => m.1 = rx) = n.sent.filter (fun m => m.1 = rx)) ∧
    (∀ now i n', n.step now i = some n' → ∀ m ∈ n'.sent.drop n.sent.length, m.2.isProgress = true →
      ∃ k, Live es (.bitswap k) ∧ .started (.bitswap k) m.1 ∈ es ∧
        n.queries.lookup (.bitswap k) = some ⟨.sync, m.1⟩) ∧
    (∀ id q, n.queries.lookup id = some q → q.kind.isBitswap = id.isBitswap) := by
  intro config es
  -- the two turns, at time 0: the `Get`, then bitswap's completion of query 0
  have hrun := @TracedRun.tail _ _ _ _ 0 (.bitswap (.complete 0 (.ok ())))
    (@TracedRun.tail (Node.init config) _ _ _ 0 (.command .get) .refl rfl rfl) rfl rfl
  -- the events of the two turns: the handle of query 0, then its completion
  change TracedRun (Node.init config) es _ at hrun
  exact ⟨_, hrun, query_channel_protocol config es _ hrun⟩

end IpfsEmbed
