import IpfsEmbed.Properties.Disabled

/-!
# A subscriber is never lost

`subscribe` hands out the receiver of a new channel and files its sender under the topic.
Delivering a message or a peer's change of subscription to the topic (`notify_subscribers`)
drops the senders whose receiver is gone, and forgets the topic when none is left; nothing else
takes a sender out of the map.  So a receiver stays filed under its topic, and keeps getting
what the topic delivers, for as long as its owner keeps it.  In every run of the swarm task,
under any commands, pubsub events and drops of receivers, once the task has handed out a
receiver for a topic, the receiver is filed under the topic in every later state in which its
owner has not dropped it.

The invariant is that the receiver is filed under the topic or dropped (`FiledOrDropped`).
Every call of the subscription state keeps it (`PubSubOp.exec_filedOrDropped`), by what one
call can do to the map (`PubSubOp.exec_cases`), and the swarm task's subscription state goes
through a run of such calls (`Node.Outside.pubsub`).
-/

namespace IpfsEmbed

namespace PubSub

/-- The sender of the receiver `rx` is filed under `topic`. -/
def Files (st : PubSub) (topic : String) (rx : Nat) : Prop :=
  ∃ l, st.subscriptions.lookup topic = some l ∧ rx ∈ l

/-- The receiver `rx` is filed under `topic`, or its owner has dropped it. -/
def FiledOrDropped (topic : String) (rx : Nat) (st : PubSub) : Prop :=
  st.Files topic rx ∨ rx ∈ st.dropped

variable {st : PubSub} {topic : String} {rx : Nat}

/-- `subscribe` appends the new sender to the topic's list, or starts the list, unless both
protocols are disabled; nothing else it does touches the map. -/
theorem subscribe_subscriptions (t : String) (gossipOk : Bool) :
    (st.subscribe t gossipOk).1.subscriptions =
      if st.gossipsub.isNone && st.broadcast.isNone then st.subscriptions
      else st.subscriptions.insert t ((st.subscriptions.lookup t).getD [] ++ [st.nextId]) := by
  unfold subscribe
  split
  · rfl
  · dsimp only
    split
    · next subscribers hl => rw [hl]; rfl
    · next hl =>
      rw [hl]
      -- the protocols' subscriptions and the dropped receivers change, not the map
      split
      · split <;> rfl
      · rfl

/-- `subscribe` drops at most its own receiver, when `gossipsub.subscribe` fails. -/
theorem dropped_subset_subscribe (t : String) (gossipOk : Bool) :
    st.dropped ⊆ (st.subscribe t gossipOk).1.dropped := by
  unfold subscribe
  split
  · exact subset_refl _
  · dsimp only
    split
    · exact subset_refl _
    · split
      · split
        · exact subset_refl _
        · exact Finset.subset_insert _ _
      · exact subset_refl _

/-- A receiver `subscribe` hands out is the next channel, and a protocol is on. -/
theorem subscribe_eq_ok {t : String} {gossipOk : Bool} (h : (st.subscribe t gossipOk).2 = .ok rx) :
    rx = st.nextId ∧ (st.gossipsub.isNone && st.broadcast.isNone) = false := by
  unfold subscribe at h
  split at h
  · cases h
  · next hd =>
    refine ⟨?_, Bool.eq_false_iff.2 hd⟩
    dsimp only at h
    split at h
    · exact (Except.ok.inj h).symm
    · split at h
      · split at h
        · exact (Except.ok.inj h).symm
        · cases h
      · exact (Except.ok.inj h).symm

/-- A receiver `subscribe` hands out is filed under its topic. -/
theorem subscribe_files {t : String} {gossipOk : Bool} (h : (st.subscribe t gossipOk).2 = .ok rx) :
    (st.subscribe t gossipOk).1.Files t rx := by
  obtain ⟨rfl, hd⟩ := subscribe_eq_ok h
  rw [Files, subscribe_subscriptions, if_neg (by simp [hd]), AList.lookup_insert]
  exact ⟨_, rfl, List.mem_append_right _ (List.mem_singleton_self _)⟩

/-- `notify_subscribers` keeps every sender whose receiver is live, and the dropped set. -/
theorem FiledOrDropped.notifySubscribers (h : FiledOrDropped topic rx st) (t : String) :
    FiledOrDropped topic rx (st.notifySubscribers t) := by
  unfold PubSub.notifySubscribers
  cases hl : st.subscriptions.lookup t with
  | none => exact h
  | some subscribers =>
    dsimp only
    rcases h with ⟨l, hlt, hrx⟩ | hd
    · by_cases htt : t = topic
      · subst htt
        rw [hl, Option.some.injEq] at hlt
        subst hlt
        by_cases hdr : rx ∈ st.dropped
        · right
          split_ifs <;> exact hdr
        · -- a live receiver survives the filter, so the topic is kept with it
          have hmem : rx ∈ subscribers.filter fun tx => tx ∉ st.dropped := by
            simpa [List.mem_filter] using ⟨hrx, hdr⟩
          have hne : (subscribers.filter fun tx => tx ∉ st.dropped).isEmpty = false :=
            List.isEmpty_eq_false_iff_exists_mem.2 ⟨rx, hmem⟩
          left
          rw [if_neg (by rw [hne]; decide)]
          exact ⟨_, AList.lookup_insert _, hmem⟩
      · left
        split_ifs
        · exact ⟨l, by rw [AList.lookup_erase_ne (Ne.symm htt)]; exact hlt, hrx⟩
        · exact ⟨l, by rw [AList.lookup_insert_ne (Ne.symm htt)]; exact hlt, hrx⟩
    · right
      split_ifs <;> exact hd

theorem FiledOrDropped.subscribe (h : FiledOrDropped topic rx st) (t : String) (gossipOk : Bool) :
    FiledOrDropped topic rx (st.subscribe t gossipOk).1 := by
  rcases h with ⟨l, hlt, hrx⟩ | hd
  · left
    rw [Files, subscribe_subscriptions]
    split_ifs
    · exact ⟨l, hlt, hrx⟩
    · by_cases htt : t = topic
      · -- the topic's list grows by the new sender
        subst htt
        rw [AList.lookup_insert, hlt]
        exact ⟨_, rfl, List.mem_append_left _ hrx⟩
      · rw [AList.lookup_insert_ne (Ne.symm htt)]
        exact ⟨l, hlt, hrx⟩
  · exact .inr (dropped_subset_subscribe t gossipOk hd)

theorem FiledOrDropped.dropReceiver (h : FiledOrDropped topic rx st) (r : Nat) :
    FiledOrDropped topic rx (st.dropReceiver r) :=
  h.imp id fun hd => Finset.mem_insert_of_mem hd

end PubSub

open PubSub

/-- **What one call can do to the subscription state**: subscribe, drop a receiver, deliver to
a topic, or nothing. -/
theorem PubSubOp.exec_cases {st st' : PubSub} {op : PubSubOp} (he : op.exec st = some st') :
    (∃ t gossipOk, st' = (st.subscribe t gossipOk).1) ∨ (∃ r, st' = st.dropReceiver r) ∨
      (∃ t, st' = st.notifySubscribers t) ∨ st' = st := by
  cases op with
  | subscribe t gossipOk => exact .inl ⟨t, gossipOk, (Option.some.inj he).symm⟩
  | dropReceiver r => exact .inr (.inl ⟨r, (Option.some.inj he).symm⟩)
  | gossip e =>
    cases he
    cases e with
    | gossipsubNotSupported => exact .inr (.inr (.inr rfl))
    | message t | subscribed t | unsubscribed t => exact .inr (.inr (.inl ⟨t, rfl⟩))
  | broadcast e =>
    -- a topic that is not UTF-8 panics on a message and is ignored otherwise
    cases e with
    | received bs =>
      simp only [PubSubOp.exec, injectBroadcastEvent, Option.map_eq_some_iff] at he
      obtain ⟨t, -, rfl⟩ := he
      exact .inr (.inr (.inl ⟨t, rfl⟩))
    | subscribed bs | unsubscribed bs =>
      simp only [PubSubOp.exec, injectBroadcastEvent, Option.some.injEq] at he
      subst he
      cases String.fromUTF8? bs with
      | none => exact .inr (.inr (.inr rfl))
      | some t => exact .inr (.inr (.inl ⟨t, rfl⟩))

theorem PubSubOp.exec_filedOrDropped {st st' : PubSub} {topic : String} {rx : Nat}
    (h : FiledOrDropped topic rx st) {op : PubSubOp} (he : op.exec st = some st') :
    FiledOrDropped topic rx st' := by
  rcases PubSubOp.exec_cases he with ⟨t, gossipOk, rfl⟩ | ⟨r, rfl⟩ | ⟨t, rfl⟩ | rfl
  · exact h.subscribe t gossipOk
  · exact h.dropReceiver r
  · exact h.notifySubscribers t
  · exact h

/-- Along every run of subscription calls, from any state, a receiver filed or dropped stays
filed or dropped. -/
theorem filedOrDropped_of_run {st st' : PubSub} {topic : String} {rx : Nat}
    (hr : Relation.ReflTransGen pubSubStep st st') (h : FiledOrDropped topic rx st) :
    FiledOrDropped topic rx st' := by
  refine @Reach.Reachable.invariant _ _ _ (FiledOrDropped topic rx) h ?_ _ hr
  rintro s s' hs ⟨op, -, he⟩
  exact PubSubOp.exec_filedOrDropped hs he

open Node

/-- **A subscriber is never lost.**  When the swarm task handles `Subscribe(topic)` and hands out
the receiver `rx`, then in every later state of every run of the task, under any inputs, `rx` is
filed under `topic`, and so gets what the topic delivers, unless its owner has dropped it. -/
theorem subscriber_never_lost {n₀ n n' : Node} {now : DateTime} {topic : String}
    {gossipOk : Bool} (hc : n₀.handleCommand now (.subscribe topic gossipOk) = some n) {rx : Nat}
    (hrx : (n₀.pubsub.subscribe topic gossipOk).2 = .ok rx)
    (hr : Relation.ReflTransGen nodeStep n n') (hlive : rx ∉ n'.pubsub.dropped) :
    n'.pubsub.Files topic rx := by
  have hn : n.pubsub = (n₀.pubsub.subscribe topic gossipOk).1 := by
    rw [handleCommand_subscribe, Option.some.injEq] at hc
    rw [← hc]
    rfl
  have hfiled : FiledOrDropped topic rx n.pubsub := .inl (hn ▸ subscribe_files hrx)
  rcases filedOrDropped_of_run (Outside.run hr).pubsub hfiled with hf | hd
  · exact hf
  · exact absurd hd hlive

/-- With gossipsub on, the task hands out receiver 0 for `blocks`; a message on `blocks` and a
second subscription to it later, receiver 0 is still filed. -/
theorem subscriber_never_lost_after_message :
    ∃ n n', (Node.init ⟨⟨false, false, false, false, false⟩, true, false,
        ⟨false, false, false, ⟨0⟩⟩⟩).handleCommand 0 (.subscribe "blocks" true) = some n ∧
      Relation.ReflTransGen nodeStep n n' ∧ 0 ∉ n'.pubsub.dropped ∧ n'.pubsub.Files "blocks" 0 := by
  let n₀ := Node.init ⟨⟨false, false, false, false, false⟩, true, false, ⟨false, false, false, ⟨0⟩⟩⟩
  let n := (n₀.handleCommand 0 (.subscribe "blocks" true)).getD n₀
  have hc : n₀.handleCommand 0 (.subscribe "blocks" true) = some n := rfl
  have hr : Relation.ReflTransGen nodeStep n _ :=
    Relation.ReflTransGen.tail (Relation.ReflTransGen.tail Relation.ReflTransGen.refl
      ⟨(0, .gossipsub ⟨1⟩ (.message "blocks")), rfl, rfl⟩)
      ⟨(0, .command (.subscribe "blocks" true)), rfl, rfl⟩
  refine ⟨n, _, hc, hr, ?_⟩
  exact ⟨by decide, subscriber_never_lost hc rfl hr (by decide)⟩

end IpfsEmbed
