import Mathlib
import IpfsEmbed.Framework.FinMap

/-!
# Topic subscriptions (`NetworkBackendBehaviour::subscribe` and the pubsub events)

The network behaviour keeps `subscriptions: FnvHashMap<String, Vec<UnboundedSender<_>>>`,
one list of channel senders per topic, next to the two pubsub protocols, gossipsub and
broadcast, each of which may be disabled.  `subscribe` hands out a new receiver: it joins the
topic's list, or, for a new topic, creates the entry and subscribes the protocols.  Delivering
an event to a topic (`notify_subscribers`) drops the senders whose receiver is gone; when none
is left the node unsubscribes from the topic at both protocols and forgets it.

A sender is named by a number, and the receivers dropped so far are a set: `unbounded_send`
fails exactly on those.  `gossipsub.subscribe` is third-party code that may fail; whether it
does is an argument of `subscribe` (`gossipOk`).  Gossipsub and broadcast are modelled by the
set of topics they are subscribed to, `none` when disabled; gossipsub's `IdentTopic` hashes a
topic to itself, and broadcast topics are the UTF-8 bytes of the string.  `unsubscribe` is
taken to succeed at both protocols.  A panic (`from_utf8(..).unwrap()`) is `none`.

The events' payloads (message data, the remote peer) and the address-book events the
handlers also emit are not modelled: nothing here reads them.
-/

namespace IpfsEmbed

/-- The state `subscribe` and the pubsub event handlers read and write. -/
structure PubSub where
  /-- `subscriptions`: the senders of each topic. -/
  subscriptions : AList (fun _ : String => List Nat)
  /-- The topics gossipsub is subscribed to; `none` when gossipsub is disabled. -/
  gossipsub : Option (Finset String)
  /-- The topics broadcast is subscribed to; `none` when broadcast is disabled. -/
  broadcast : Option (Finset ByteArray)
  /-- The receivers that have been dropped: sending to them fails. -/
  dropped : Finset Nat
  /-- The name of the next channel `mpsc::unbounded()` creates. -/
  nextId : Nat

/-- Why `subscribe` failed. -/
inductive SubscribeError
  /-- `DisabledProtocol("gossipsub and broadcast")`. -/
  | disabledProtocol
  /-- The error of `gossipsub.subscribe`. -/
  | gossipsub
  deriving DecidableEq, Repr

/-- `GossipsubEvent`, with the topic each variant names. -/
inductive GossipsubEvent
  | message (topic : String)
  | subscribed (topic : String)
  | unsubscribed (topic : String)
  | gossipsubNotSupported
  deriving DecidableEq, Repr

/-- `BroadcastEvent`, with the topic bytes each variant carries. -/
inductive BroadcastEvent
  | received (topic : ByteArray)
  | subscribed (topic : ByteArray)
  | unsubscribed (topic : ByteArray)

namespace PubSub

/-- The state of a new behaviour: no subscriptions, each protocol enabled or not. -/
def init (gossipsub broadcast : Bool) : PubSub :=
  ⟨∅, if gossipsub then some ∅ else none, if broadcast then some ∅ else none, ∅, 0⟩

/-- `unsubscribe`: leave the topic at both protocols. -/
def unsubscribe (st : PubSub) (topic : String) : PubSub :=
  { st with
    gossipsub := st.gossipsub.map fun g => g.erase topic
    broadcast := st.broadcast.map fun bc => bc.erase topic.toUTF8 }

/-- `subscribe`.  The state is returned with the result, since a failure of
`gossipsub.subscribe` does not undo what was done before it; the receiver of a failed call is
dropped on return. -/
def subscribe (st : PubSub) (topic : String) (gossipOk : Bool) :
    PubSub × Except SubscribeError Nat :=
  if st.gossipsub.isNone && st.broadcast.isNone then (st, .error .disabledProtocol)
  else
    let tx := st.nextId
    let st := { st with nextId := st.nextId + 1 }
    match st.subscriptions.lookup topic with
    | some subscribers =>
      ({ st with subscriptions := st.subscriptions.insert topic (subscribers ++ [tx]) }, .ok tx)
    | none =>
      let st := { st with subscriptions := st.subscriptions.insert topic [tx] }
      match st.gossipsub with
      | some g =>
        if gossipOk then
          let st := { st with gossipsub := some (insert topic g) }
          ({ st with broadcast := st.broadcast.map fun bc => insert topic.toUTF8 bc }, .ok tx)
        else ({ st with dropped := insert tx st.dropped }, .error .gossipsub)
      | none =>
        ({ st with broadcast := st.broadcast.map fun bc => insert topic.toUTF8 bc }, .ok tx)

/-- `notify_subscribers`: deliver to the topic's live receivers, forget the others, and leave
the topic when none is left. -/
def notifySubscribers (st : PubSub) (topic : String) : PubSub :=
  match st.subscriptions.lookup topic with
  | none => st
  | some subscribers =>
    let subscribers := subscribers.filter fun tx => tx ∉ st.dropped
    if subscribers.isEmpty then
      { st.unsubscribe topic with subscriptions := st.subscriptions.erase topic }
    else { st with subscriptions := st.subscriptions.insert topic subscribers }

/-- The receiver `rx` is dropped by its owner. -/
def dropReceiver (st : PubSub) (rx : Nat) : PubSub :=
  { st with dropped := insert rx st.dropped }

/-- `inject_gossip_event`. -/
def injectGossipEvent (st : PubSub) : GossipsubEvent → PubSub
  | .message topic => st.notifySubscribers topic
  | .subscribed topic => st.notifySubscribers topic
  | .unsubscribed topic => st.notifySubscribers topic
  | .gossipsubNotSupported => st

/-- `inject_broadcast_event`; `none` is the panic of `from_utf8(..).unwrap()`. -/
def injectBroadcastEvent (st : PubSub) : BroadcastEvent → Option PubSub
  | .received topic => (String.fromUTF8? topic).map st.notifySubscribers
  | .subscribed topic => some ((String.fromUTF8? topic).elim st st.notifySubscribers)
  | .unsubscribed topic => some ((String.fromUTF8? topic).elim st st.notifySubscribers)

end PubSub

/-- The calls that reach the subscription state, from the node's API and from the swarm. -/
inductive PubSubOp
  | subscribe (topic : String) (gossipOk : Bool)
  | dropReceiver (rx : Nat)
  | gossip (e : GossipsubEvent)
  | broadcast (e : BroadcastEvent)

/-- One call; `none` is a panic. -/
def PubSubOp.exec (st : PubSub) : PubSubOp → Option PubSub
  | .subscribe topic gossipOk => some (st.subscribe topic gossipOk).1
  | .dropReceiver rx => some (st.dropReceiver rx)
  | .gossip e => some (st.injectGossipEvent e)
  | .broadcast e => st.injectBroadcastEvent e

end IpfsEmbed
