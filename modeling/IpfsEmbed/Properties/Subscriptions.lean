import IpfsEmbed.Net.Subscriptions
import IpfsEmbed.Framework.Reachable

/-!
# The subscription bookkeeping

The subscription map is *consistent* with the protocols when every topic in it has a sender,
its topics are exactly those gossipsub is subscribed to, and their UTF-8 bytes exactly those
broadcast is subscribed to (for each protocol that is enabled).  Consistency is what makes
`inject_broadcast_event`'s `from_utf8(..).unwrap()` safe: broadcast only delivers messages on
topics it is subscribed to, and those are the bytes of strings.

Every call keeps the map consistent as long as `gossipsub.subscribe` succeeds
(`PubSubOp.exec_consistent`).  When it fails, `subscribe` returns an
error after the new topic has been entered in the map, and neither protocol is subscribed to
it; a later `subscribe` to the topic then finds it in the map, returns a receiver and
subscribes nothing.
-/

namespace IpfsEmbed

namespace PubSub

/-- The subscription map agrees with the protocols' subscriptions. -/
structure Consistent (st : PubSub) : Prop where
  nonempty : ∀ t subscribers, st.subscriptions.lookup t = some subscribers → subscribers ≠ []
  gossipsub : ∀ g, st.gossipsub = some g → ∀ t, t ∈ g ↔ t ∈ st.subscriptions
  broadcast : ∀ bc, st.broadcast = some bc → ∀ bs, bs ∈ bc ↔ ∃ t ∈ st.subscriptions, t.toUTF8 = bs

theorem init_consistent (gossipsub broadcast : Bool) : (init gossipsub broadcast).Consistent where
  nonempty t subscribers h := by simp [init] at h
  gossipsub g hg t := by
    cases gossipsub <;> simp [init] at hg
    simp [← hg, init]
  broadcast bc hbc bs := by
    cases broadcast <;> simp [init] at hbc
    simp [← hbc, init]

variable {st : PubSub}

theorem dropReceiver_consistent (h : st.Consistent) (rx : Nat) : (st.dropReceiver rx).Consistent :=
  ⟨h.nonempty, h.gossipsub, h.broadcast⟩

/-- Distinct topics have distinct bytes, so erasing one topic's bytes erases only it. -/
theorem mem_erase_toUTF8_iff (s : AList (fun _ : String => List Nat)) (topic : String)
    (bs : ByteArray) :
    (bs ≠ topic.toUTF8 ∧ ∃ t ∈ s, t.toUTF8 = bs) ↔ ∃ t ∈ s.erase topic, t.toUTF8 = bs := by
  constructor
  · rintro ⟨hne, t, ht, rfl⟩
    have htopic : t ≠ topic := by
      rintro rfl
      exact hne rfl
    exact ⟨t, AList.mem_erase.2 ⟨htopic, ht⟩, rfl⟩
  · rintro ⟨t, ht, rfl⟩
    obtain ⟨htopic, ht⟩ := AList.mem_erase.1 ht
    refine ⟨fun heq => htopic ?_, t, ht, rfl⟩
    simpa [String.toByteArray_inj] using heq

/-- Leaving a topic that has no live receiver keeps the map consistent. -/
theorem unsubscribe_erase_consistent (h : st.Consistent) (topic : String) :
    ({ st.unsubscribe topic with subscriptions := st.subscriptions.erase topic } : PubSub).Consistent where
  nonempty t subscribers ht := by
    rw [AList.lookup_erase_eq_ite] at ht
    split_ifs at ht
    exact h.nonempty t subscribers ht
  gossipsub g hg t := by
    simp only [unsubscribe, Option.map_eq_some_iff] at hg
    obtain ⟨g₀, hg₀, rfl⟩ := hg
    rw [Finset.mem_erase, h.gossipsub g₀ hg₀ t, AList.mem_erase]
  broadcast bc hbc bs := by
    simp only [unsubscribe, Option.map_eq_some_iff] at hbc
    obtain ⟨bc₀, hbc₀, rfl⟩ := hbc
    rw [Finset.mem_erase, h.broadcast bc₀ hbc₀ bs, mem_erase_toUTF8_iff]

/-- Refiling a topic already in the map under a non-empty list keeps the map consistent. -/
theorem insert_consistent (h : st.Consistent) {topic : String} (hmem : topic ∈ st.subscriptions)
    {subscribers : List Nat} (hne : subscribers ≠ []) :
    ({ st with subscriptions := st.subscriptions.insert topic subscribers } : PubSub).Consistent := by
  -- the keys do not change
  have hkeys : ∀ t, t ∈ st.subscriptions.insert topic subscribers ↔ t ∈ st.subscriptions := by
    intro t
    rw [AList.mem_insert]
    constructor
    · rintro (rfl | ht)
      · exact hmem
      · exact ht
    · exact .inr
  refine ⟨fun t subs ht => ?_, fun g hg t => ?_, fun bc hbc bs => ?_⟩
  · rw [AList.lookup_insert_eq_ite] at ht
    split_ifs at ht
    · rw [← Option.some.inj ht]
      exact hne
    · exact h.nonempty t subs ht
  · rw [hkeys]
    exact h.gossipsub g hg t
  · simp only [hkeys]
    exact h.broadcast bc hbc bs

theorem notifySubscribers_consistent (h : st.Consistent) (topic : String) :
    (st.notifySubscribers topic).Consistent := by
  unfold notifySubscribers
  cases hl : st.subscriptions.lookup topic with
  | none => exact h
  | some subscribers =>
    dsimp only
    split_ifs with hempty
    · exact unsubscribe_erase_consistent h topic
    · exact insert_consistent h (AList.lookup_isSome.1 (by rw [hl]; rfl))
        (fun hnil => hempty (List.isEmpty_iff.2 hnil))

theorem injectGossipEvent_consistent (h : st.Consistent) (e : GossipsubEvent) :
    (st.injectGossipEvent e).Consistent := by
  cases e with
  | gossipsubNotSupported => exact h
  | _ => exact notifySubscribers_consistent h _

theorem injectBroadcastEvent_consistent (h : st.Consistent) {e : BroadcastEvent} {st' : PubSub}
    (he : st.injectBroadcastEvent e = some st') : st'.Consistent := by
  cases e with
  | received topic =>
    simp only [injectBroadcastEvent, Option.map_eq_some_iff] at he
    obtain ⟨t, -, rfl⟩ := he
    exact notifySubscribers_consistent h t
  | subscribed topic =>
    simp only [injectBroadcastEvent, Option.some.injEq] at he
    subst he
    cases String.fromUTF8? topic with
    | none => exact h
    | some t => exact notifySubscribers_consistent h t
  | unsubscribed topic =>
    simp only [injectBroadcastEvent, Option.some.injEq] at he
    subst he
    cases String.fromUTF8? topic with
    | none => exact h
    | some t => exact notifySubscribers_consistent h t

/-- A successful `gossipsub.subscribe` keeps the map consistent: a new topic is entered in the
map and subscribed at every enabled protocol. -/
theorem subscribe_consistent (h : st.Consistent) (topic : String) :
    (st.subscribe topic true).1.Consistent := by
  unfold subscribe
  by_cases hdis : (st.gossipsub.isNone && st.broadcast.isNone) = true
  · rw [if_pos hdis]
    exact h
  rw [if_neg hdis]
  dsimp only
  cases hl : st.subscriptions.lookup topic with
  | some subscribers =>
    -- the sender joins a topic already in the map
    have h' : ({ st with nextId := st.nextId + 1 } : PubSub).Consistent :=
      ⟨h.nonempty, h.gossipsub, h.broadcast⟩
    exact insert_consistent h' (AList.lookup_isSome.1 (by rw [hl]; rfl)) (by simp)
  | none =>
    have hnot : topic ∉ st.subscriptions := AList.lookup_eq_none.1 hl
    -- the keys grow by `topic`, and each enabled protocol subscribes to it
    have hkeys : ∀ t, t ∈ st.subscriptions.insert topic [st.nextId] ↔
        t = topic ∨ t ∈ st.subscriptions := fun t => AList.mem_insert st.subscriptions
    have hnonempty : ∀ t subs, (st.subscriptions.insert topic [st.nextId]).lookup t = some subs →
        subs ≠ [] := by
      intro t subs ht
      rw [AList.lookup_insert_eq_ite] at ht
      split_ifs at ht
      · rw [← Option.some.inj ht]
        simp
      · exact h.nonempty t subs ht
    have hbroadcast : ∀ bc, (st.broadcast.map fun bc => insert topic.toUTF8 bc) = some bc →
        ∀ bs, bs ∈ bc ↔ ∃ t ∈ st.subscriptions.insert topic [st.nextId], t.toUTF8 = bs := by
      intro bc hbc bs
      simp only [Option.map_eq_some_iff] at hbc
      obtain ⟨bc₀, hbc₀, rfl⟩ := hbc
      simp only [Finset.mem_insert, h.broadcast bc₀ hbc₀ bs, hkeys]
      constructor
      · rintro (rfl | ⟨t, ht, rfl⟩)
        · exact ⟨topic, .inl rfl, rfl⟩
        · exact ⟨t, .inr ht, rfl⟩
      · rintro ⟨t, rfl | ht, rfl⟩
        · exact .inl rfl
        · exact .inr ⟨t, ht, rfl⟩
    cases hg : st.gossipsub with
    | none =>
      dsimp only
      refine ⟨hnonempty, fun g hg' => ?_, hbroadcast⟩
      simp at hg'
    | some g =>
      dsimp only
      rw [if_pos rfl]
      refine ⟨hnonempty, fun g' hg' t => ?_, hbroadcast⟩
      simp only [Option.some.injEq] at hg'
      rw [← hg', Finset.mem_insert, h.gossipsub g hg t, hkeys]

/-! ## Runs -/

/-- The calls the consistency argument allows: `gossipsub.subscribe` succeeds, and broadcast
delivers messages only on topics it is subscribed to. -/
def Allowed (st : PubSub) : PubSubOp → Prop
  | .subscribe _ gossipOk => gossipOk = true
  | .broadcast (.received topic) => ∃ bc, st.broadcast = some bc ∧ topic ∈ bc
  | _ => True

/-- Under the allowed calls, `from_utf8(..).unwrap()` never panics: a consistent state's
broadcast topics are the bytes of strings. -/
theorem exec_isSome (h : st.Consistent) {op : PubSubOp} (hop : Allowed st op) :
    (op.exec st).isSome := by
  cases op with
  | broadcast e =>
    cases e with
    | received topic =>
      obtain ⟨bc, hbc, hmem⟩ := hop
      obtain ⟨t, -, rfl⟩ := (h.broadcast bc hbc topic).1 hmem
      have hdecode : String.fromUTF8? t.toByteArray = some t := by
        simp only [String.fromUTF8?, dif_pos t.isValidUTF8]
        rfl
      simp [PubSubOp.exec, injectBroadcastEvent, hdecode]
    | _ => rfl
  | _ => rfl

theorem PubSubOp.exec_consistent (h : st.Consistent) {op : PubSubOp} (hop : Allowed st op)
    {st' : PubSub} (he : op.exec st = some st') : st'.Consistent := by
  cases op with
  | subscribe topic gossipOk =>
    cases (hop : gossipOk = true)
    cases he
    exact subscribe_consistent h topic
  | dropReceiver rx =>
    cases he
    exact dropReceiver_consistent h rx
  | gossip e =>
    cases he
    exact injectGossipEvent_consistent h e
  | broadcast e => exact injectBroadcastEvent_consistent h he

/-- **Under the allowed calls, every reachable state is consistent and no call panics.** -/
theorem reachable_consistent {gossipsub broadcast : Bool} {st : PubSub}
    (h : Reach.Reachable (Reach.stepOf PubSubOp.exec Allowed) (init gossipsub broadcast) st) :
    st.Consistent ∧ ∀ op, Allowed st op → (op.exec st).isSome := by
  have hc : st.Consistent := by
    refine h.invariant (init_consistent gossipsub broadcast) ?_
    rintro s s' hs ⟨op, hop, he⟩
    exact PubSubOp.exec_consistent hs hop he
  exact ⟨hc, fun op hop => exec_isSome hc hop⟩

/-- With both protocols on, after a subscription to `blocks` the state is consistent and no
allowed call panics, a broadcast message on `blocks` among them. -/
theorem reachable_consistent_subscribed :
    ((init true true).subscribe "blocks" true).1.Consistent ∧
      ∀ op, Allowed ((init true true).subscribe "blocks" true).1 op →
        (op.exec ((init true true).subscribe "blocks" true).1).isSome :=
  reachable_consistent (Relation.ReflTransGen.single ⟨.subscribe "blocks" true, rfl, rfl⟩)

/-- With both protocols enabled, a `subscribe` whose `gossipsub.subscribe` fails returns an
error but leaves the topic in the map, subscribed at neither protocol; subscribing to it again
then succeeds without subscribing at either protocol. -/
theorem subscribe_error_keeps_topic :
    ((init true true).subscribe "blocks" false).2 = .error .gossipsub ∧
      (((init true true).subscribe "blocks" false).1.subscriptions.lookup "blocks").isSome ∧
      ((init true true).subscribe "blocks" false).1.gossipsub = some ∅ ∧
      ((init true true).subscribe "blocks" false).1.broadcast = some ∅ ∧
      (((init true true).subscribe "blocks" false).1.subscribe "blocks" true).2 = .ok 1 ∧
      (((init true true).subscribe "blocks" false).1.subscribe "blocks" true).1.gossipsub =
        some ∅ :=
  ⟨rfl, rfl, rfl, rfl, rfl, rfl⟩

end PubSub

end IpfsEmbed
