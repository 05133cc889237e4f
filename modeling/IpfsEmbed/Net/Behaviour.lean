import IpfsEmbed.Net.Run
import IpfsEmbed.Net.Subscriptions

/-!
# Queries of the network behaviour (`src/net/behaviour.rs`)

`NetworkBackendBehaviour` bundles the address book with the optional protocols: Kademlia,
mDNS, ping, identify, bitswap, gossipsub and broadcast, each a `Toggle` that is `None` when
`NetworkConfig` disables it.  The swarm task keeps next to it a map `queries` from the id of
every running Kademlia or bitswap query to the channel its result goes to, and a flag
`bootstrapped`.  Starting a query enters its channel in the map; the protocol's completion
event takes it out and answers on it; cancelling takes it out unanswered.

The model is one record `Node` for the behaviour and the swarm task's own state.  A channel is
named by a number that `newChannel` hands out, and what was sent on reply channels is the log
`sent`, oldest first.  Kademlia and bitswap hand out query ids from one counter, which only
says that a protocol never reuses an id.  Where a handler calls third-party code whose outcome
matters (`kad.bootstrap()` failing for want of known peers, the record store refusing a
record), the outcome is an argument.  What the handlers pass through without reading (keys,
records, cids, providers, the peers and records a Kademlia query returns) is left out, and so
is what a successful query's channel receives beyond `Ok`.

A panic (`expect("bitswap enabled")`, `unwrap()`) is `none`.
-/

namespace IpfsEmbed

/-- `QueryId`: the id of a bitswap or of a Kademlia query. -/
inductive QueryId
  | bitswap (id : Nat)
  | kad (id : Nat)
  deriving DecidableEq, Repr

/-- The variants of `QueryChannel`, by the query they wait for. -/
inductive QueryKind
  | get
  | sync
  | bootstrap
  | getClosestPeers
  | getProviders
  | startProviding
  | getRecord
  | putRecord
  deriving DecidableEq, Repr

/-- `QueryChannel`: the kind of query and the sender its result goes to. -/
structure QueryChannel where
  kind : QueryKind
  ch : Nat
  deriving DecidableEq, Repr

/-- Whether a query is run by bitswap (`Get`, `Sync`) rather than by Kademlia. -/
def QueryKind.isBitswap : QueryKind → Bool
  | .get | .sync => true
  | _ => false

/-- Whether an id is one bitswap handed out. -/
def QueryId.isBitswap : QueryId → Bool
  | .bitswap _ => true
  | .kad _ => false

/-- The counter value an id was handed out as. -/
def QueryId.num : QueryId → Nat
  | .bitswap id => id
  | .kad id => id

/-- The errors the behaviour answers with.  The Kademlia errors wrap libp2p's and the error
of a failed bitswap query is bitswap's; their contents are not modelled. -/
inductive QueryError
  /-- `DisabledProtocol(name)`. -/
  | disabledProtocol (name : String)
  | notBootstrapped
  /-- `kad.bootstrap()` finds no known peer. -/
  | noKnownPeers
  | kadStoreError
  | kadBootstrapError
  | kadGetClosestPeersError
  | kadGetProvidersError
  | kadAddProviderError
  | kadGetRecordError
  | kadPutRecordError
  | gossipsubPublishError
  /-- The error a bitswap query completes with. -/
  | bitswap
  deriving DecidableEq, Repr

/-- `SyncEvent`: what the channel of a sync query receives. -/
inductive SyncEvent
  | progress (missing : Nat)
  | complete (result : Except QueryError Unit)
  deriving DecidableEq, Repr

/-- What the swarm task sends on a reply channel. -/
inductive Reply
  /-- A `oneshot` result: of a Kademlia query, a `Get`, `publish` or `broadcast`. -/
  | result (r : Except QueryError Unit)
  /-- An event on the channel of a sync query. -/
  | syncEvent (e : SyncEvent)
  /-- The result of `subscribe`: the receiver, or why there is none. -/
  | subscription (r : Except SubscribeError Nat)
  /-- A `GetQuery`: the query's id and the receiver of its result. -/
  | getQuery (id : QueryId) (rx : Nat)
  /-- A `SyncQuery`: the query's id and the receiver of its events. -/
  | syncQuery (id : QueryId) (rx : Nat)
  /-- `SwarmEvents`: the receiver of the address book's events. -/
  | swarmEvents (rx : Nat)
  /-- `ListenerEvent::ListenFailed(addr, _)`; the error text is not modelled. -/
  | listenFailed (addr : Multiaddr)
  deriving DecidableEq, Repr

/-- A progress report of a sync query; every other message answers its channel. -/
def Reply.isProgress : Reply → Bool
  | .syncEvent (.progress _) => true
  | _ => false

/-- The result of an outbound Kademlia query (`QueryResult`); `ok` tells `Ok` from `Err`, and a
successful bootstrap step reports how many buckets remain. -/
inductive QueryResult
  | bootstrap (result : Except Unit Nat)
  | getClosestPeers (ok : Bool)
  | getProviders (ok : Bool)
  | startProviding (ok : Bool)
  | republishProvider (ok : Bool)
  | getRecord (ok : Bool)
  | putRecord (ok : Bool)
  | republishRecord (ok : Bool)
  deriving DecidableEq, Repr

/-- `KademliaEvent`: only a completed outbound query is handled. -/
inductive KademliaEvent
  | outboundQueryCompleted (id : Nat) (result : QueryResult)
  | other
  deriving DecidableEq, Repr

/-- `BitswapEvent`. -/
inductive BitswapEvent
  | progress (id : Nat) (missing : Nat)
  | complete (id : Nat) (result : Except QueryError Unit)
  deriving DecidableEq, Repr

/-- What `gossipsub.publish` returns: `Ok`, `Err(InsufficientPeers)` or another error. -/
inductive PublishOutcome
  | ok
  | insufficientPeers
  | error
  deriving DecidableEq, Repr

/-- Which of the protocols whose state is not kept elsewhere `NetworkConfig` enables;
gossipsub and broadcast are part of the subscription state. -/
structure Protocols where
  kad : Bool
  mdns : Bool
  ping : Bool
  identify : Bool
  bitswap : Bool
  deriving DecidableEq, Repr

/-- The network behaviour and the state `poll_swarm` keeps beside it. -/
structure Node where
  protocols : Protocols
  book : AddressBook
  pubsub : PubSub
  queries : AList (fun _ : QueryId => QueryChannel)
  bootstrapped : Bool
  /-- The id the next query started at bitswap or Kademlia gets. -/
  nextQuery : Nat
  /-- The name of the next reply channel. -/
  nextChannel : Nat
  /-- Every message sent on a reply channel, oldest first. -/
  sent : List (Nat × Reply)

namespace Node

/-- Send `r` on channel `ch`.  The receiver may be gone; `.ok()` ignores that. -/
def send (n : Node) (ch : Nat) (r : Reply) : Node :=
  { n with sent := n.sent ++ [(ch, r)] }

/-- `oneshot::channel()` or `mpsc::unbounded()`: a new channel. -/
def newChannel (n : Node) : Nat × Node :=
  (n.nextChannel, { n with nextChannel := n.nextChannel + 1 })

/-- A protocol starts a query under a new id. -/
def newQueryId (n : Node) : Nat × Node :=
  (n.nextQuery, { n with nextQuery := n.nextQuery + 1 })

/-- `queries.insert(id, q)`. -/
def insertQuery (n : Node) (id : QueryId) (q : QueryChannel) : Node :=
  { n with queries := n.queries.insert id q }

/-- `queries.remove(&id)`, for its effect on the map. -/
def removeQuery (n : Node) (id : QueryId) : Node :=
  { n with queries := n.queries.erase id }

/-- An operation of the address book. -/
def withBook (n : Node) (f : AddressBook → AddressBook) : Node :=
  { n with book := f n.book }

/-! ## Starting queries -/

/-- `NetworkBackendBehaviour::bootstrap`; `started` is whether `kad.bootstrap()` returned an
id. -/
def bootstrap (n : Node) (tx : Nat) (started : Bool) : Node :=
  if n.protocols.kad then
    if started then
      let (id, n) := n.newQueryId
      n.insertQuery (.kad id) ⟨.bootstrap, tx⟩
    else n.send tx (.result (.error .noKnownPeers))
  else n.send tx (.result (.error .notBootstrapped))

/-- The shape `provide`, `providers`, `get_record` and `put_record` share: refused before
bootstrap; otherwise a query of `kind` at Kademlia, whose start fails with the record store's
error unless `started`.  With Kademlia off the sender is dropped unanswered. -/
def kadQuery (n : Node) (kind : QueryKind) (tx : Nat) (started : Bool) : Node :=
  if n.bootstrapped then
    if n.protocols.kad then
      if started then
        let (id, n) := n.newQueryId
        n.insertQuery (.kad id) ⟨kind, tx⟩
      else n.send tx (.result (.error .kadStoreError))
    else n
  else n.send tx (.result (.error .notBootstrapped))

/-- `NetworkBackendBehaviour::provide`: `start_providing` may fail at the record store. -/
def provide (n : Node) (tx : Nat) (started : Bool) : Node :=
  n.kadQuery .startProviding tx started

/-- `NetworkBackendBehaviour::providers`: `get_providers` always starts. -/
def providers (n : Node) (tx : Nat) : Node :=
  n.kadQuery .getProviders tx true

/-- `NetworkBackendBehaviour::get_record`: `get_record` always starts. -/
def getRecord (n : Node) (tx : Nat) : Node :=
  n.kadQuery .getRecord tx true

/-- `NetworkBackendBehaviour::put_record`: `put_record` may fail at the record store. -/
def putRecord (n : Node) (tx : Nat) (started : Bool) : Node :=
  n.kadQuery .putRecord tx started

/-- The shape `get` and `sync` share: a bitswap query of `kind` whose result goes to a new
channel; the id and the receiver are returned.  `none` is the panic of
`expect("bitswap enabled")`. -/
def bitswapQuery (n : Node) (kind : QueryKind) : Option (QueryId × Nat × Node) :=
  if n.protocols.bitswap then
    let (rx, n) := n.newChannel
    let (id, n) := n.newQueryId
    some (.bitswap id, rx, n.insertQuery (.bitswap id) ⟨kind, rx⟩)
  else none

/-- `NetworkBackendBehaviour::get`. -/
def get (n : Node) : Option (QueryId × Nat × Node) :=
  n.bitswapQuery .get

/-- `NetworkBackendBehaviour::sync`. -/
def sync (n : Node) : Option (QueryId × Nat × Node) :=
  n.bitswapQuery .sync

/-- `NetworkBackendBehaviour::cancel`: forget the query; a bitswap query is also cancelled at
bitswap, through `self.bitswap.as_mut().unwrap()`. -/
def cancel (n : Node) (id : QueryId) : Option Node :=
  let n := n.removeQuery id
  match id with
  | .bitswap _ => if n.protocols.bitswap then some n else none
  | .kad _ => some n

/-! ## Completing queries -/

/-- `ok` as a result, failing with `e`. -/
def okOr (ok : Bool) (e : QueryError) : Except QueryError Unit :=
  if ok then .ok () else .error e

/-- One arm of `inject_kad_event`: `queries.remove(&id.into())`, and `result` sent when what
was removed is a channel of `kind`; a channel of another kind is dropped. -/
def finishKad (n : Node) (id : Nat) (kind : QueryKind) (result : Except QueryError Unit) :
    Node :=
  match n.queries.lookup (.kad id) with
  | some q => if q.kind = kind then (n.removeQuery (.kad id)).send q.ch (.result result)
    else n.removeQuery (.kad id)
  | none => n.removeQuery (.kad id)

/-- `inject_kad_event`.  The last bootstrap step sets `bootstrapped` and tells the book's
subscribers; an earlier one does nothing. -/
def injectKadEvent (n : Node) : KademliaEvent → Node
  | .outboundQueryCompleted id result =>
    match result with
    | .bootstrap (.ok numRemaining) =>
      if numRemaining = 0 then
        let n := { n with bootstrapped := true }.finishKad id .bootstrap (.ok ())
        n.withBook (·.notify .bootstrapped)
      else n
    | .bootstrap (.error _) => n.finishKad id .bootstrap (.error .kadBootstrapError)
    | .getClosestPeers ok => n.finishKad id .getClosestPeers (okOr ok .kadGetClosestPeersError)
    | .getProviders ok => n.finishKad id .getProviders (okOr ok .kadGetProvidersError)
    | .startProviding ok => n.finishKad id .startProviding (okOr ok .kadAddProviderError)
    | .republishProvider _ => n
    | .getRecord ok => n.finishKad id .getRecord (okOr ok .kadGetRecordError)
    | .putRecord ok => n.finishKad id .putRecord (okOr ok .kadPutRecordError)
    | .republishRecord _ => n
  | .other => n

/-- `inject_bitswap_event`: progress goes to the channel of a sync query, which stays; a
completion takes the query out and answers a get or a sync. -/
def injectBitswapEvent (n : Node) : BitswapEvent → Node
  | .progress id missing =>
    match n.queries.lookup (.bitswap id) with
    | some ⟨.sync, ch⟩ => n.send ch (.syncEvent (.progress missing))
    | _ => n
  | .complete id result =>
    match n.queries.lookup (.bitswap id) with
    | some ⟨.get, ch⟩ => (n.removeQuery (.bitswap id)).send ch (.result result)
    | some ⟨.sync, ch⟩ => (n.removeQuery (.bitswap id)).send ch (.syncEvent (.complete result))
    | _ => n.removeQuery (.bitswap id)

/-! ## Publishing -/

/-- `NetworkBackendBehaviour::publish`: too few peers to publish to is not an error. -/
def publish (n : Node) (outcome : PublishOutcome) : Except QueryError Unit :=
  match n.pubsub.gossipsub with
  | some _ =>
    match outcome with
    | .ok => .ok ()
    | .insufficientPeers => .ok ()
    | .error => .error .gossipsubPublishError
  | none => .error (.disabledProtocol "gossipsub")

/-- `NetworkBackendBehaviour::broadcast`. -/
def broadcast (n : Node) : Except QueryError Unit :=
  match n.pubsub.broadcast with
  | some _ => .ok ()
  | none => .error (.disabledProtocol "broadcast")

/-! ## Field lemmas -/

section Fields

variable (n : Node)

@[simp] theorem send_queries (ch : Nat) (r : Reply) : (n.send ch r).queries = n.queries := rfl
@[simp] theorem send_sent (ch : Nat) (r : Reply) : (n.send ch r).sent = n.sent ++ [(ch, r)] := rfl
@[simp] theorem send_nextChannel (ch : Nat) (r : Reply) :
    (n.send ch r).nextChannel = n.nextChannel := rfl
@[simp] theorem send_nextQuery (ch : Nat) (r : Reply) : (n.send ch r).nextQuery = n.nextQuery := rfl
@[simp] theorem send_bootstrapped (ch : Nat) (r : Reply) :
    (n.send ch r).bootstrapped = n.bootstrapped := rfl
@[simp] theorem send_protocols (ch : Nat) (r : Reply) : (n.send ch r).protocols = n.protocols := rfl
@[simp] theorem send_book (ch : Nat) (r : Reply) : (n.send ch r).book = n.book := rfl
@[simp] theorem send_pubsub (ch : Nat) (r : Reply) : (n.send ch r).pubsub = n.pubsub := rfl

@[simp] theorem newChannel_fst : n.newChannel.1 = n.nextChannel := rfl
@[simp] theorem newChannel_queries : n.newChannel.2.queries = n.queries := rfl
@[simp] theorem newChannel_sent : n.newChannel.2.sent = n.sent := rfl
@[simp] theorem newChannel_nextChannel : n.newChannel.2.nextChannel = n.nextChannel + 1 := rfl
@[simp] theorem newChannel_nextQuery : n.newChannel.2.nextQuery = n.nextQuery := rfl
@[simp] theorem newChannel_bootstrapped : n.newChannel.2.bootstrapped = n.bootstrapped := rfl
@[simp] theorem newChannel_protocols : n.newChannel.2.protocols = n.protocols := rfl
@[simp] theorem newChannel_book : n.newChannel.2.book = n.book := rfl
@[simp] theorem newChannel_pubsub : n.newChannel.2.pubsub = n.pubsub := rfl

@[simp] theorem newQueryId_fst : n.newQueryId.1 = n.nextQuery := rfl
@[simp] theorem newQueryId_queries : n.newQueryId.2.queries = n.queries := rfl
@[simp] theorem newQueryId_sent : n.newQueryId.2.sent = n.sent := rfl
@[simp] theorem newQueryId_nextChannel : n.newQueryId.2.nextChannel = n.nextChannel := rfl
@[simp] theorem newQueryId_nextQuery : n.newQueryId.2.nextQuery = n.nextQuery + 1 := rfl
@[simp] theorem newQueryId_bootstrapped : n.newQueryId.2.bootstrapped = n.bootstrapped := rfl
@[simp] theorem newQueryId_protocols : n.newQueryId.2.protocols = n.protocols := rfl
@[simp] theorem newQueryId_book : n.newQueryId.2.book = n.book := rfl
@[simp] theorem newQueryId_pubsub : n.newQueryId.2.pubsub = n.pubsub := rfl

@[simp] theorem insertQuery_queries (id : QueryId) (q : QueryChannel) :
    (n.insertQuery id q).queries = n.queries.insert id q := rfl
@[simp] theorem insertQuery_sent (id : QueryId) (q : QueryChannel) :
    (n.insertQuery id q).sent = n.sent := rfl
@[simp] theorem insertQuery_nextChannel (id : QueryId) (q : QueryChannel) :
    (n.insertQuery id q).nextChannel = n.nextChannel := rfl
@[simp] theorem insertQuery_nextQuery (id : QueryId) (q : QueryChannel) :
    (n.insertQuery id q).nextQuery = n.nextQuery := rfl
@[simp] theorem insertQuery_bootstrapped (id : QueryId) (q : QueryChannel) :
    (n.insertQuery id q).bootstrapped = n.bootstrapped := rfl
@[simp] theorem insertQuery_protocols (id : QueryId) (q : QueryChannel) :
    (n.insertQuery id q).protocols = n.protocols := rfl
@[simp] theorem insertQuery_book (id : QueryId) (q : QueryChannel) :
    (n.insertQuery id q).book = n.book := rfl
@[simp] theorem insertQuery_pubsub (id : QueryId) (q : QueryChannel) :
    (n.insertQuery id q).pubsub = n.pubsub := rfl

@[simp] theorem removeQuery_queries (id : QueryId) :
    (n.removeQuery id).queries = n.queries.erase id := rfl
@[simp] theorem removeQuery_sent (id : QueryId) : (n.removeQuery id).sent = n.sent := rfl
@[simp] theorem removeQuery_nextChannel (id : QueryId) :
    (n.removeQuery id).nextChannel = n.nextChannel := rfl
@[simp] theorem removeQuery_nextQuery (id : QueryId) :
    (n.removeQuery id).nextQuery = n.nextQuery := rfl
@[simp] theorem removeQuery_bootstrapped (id : QueryId) :
    (n.removeQuery id).bootstrapped = n.bootstrapped := rfl
@[simp] theorem removeQuery_protocols (id : QueryId) :
    (n.removeQuery id).protocols = n.protocols := rfl
@[simp] theorem removeQuery_book (id : QueryId) : (n.removeQuery id).book = n.book := rfl
@[simp] theorem removeQuery_pubsub (id : QueryId) : (n.removeQuery id).pubsub = n.pubsub := rfl

@[simp] theorem withBook_queries (f : AddressBook → AddressBook) :
    (n.withBook f).queries = n.queries := rfl
@[simp] theorem withBook_sent (f : AddressBook → AddressBook) : (n.withBook f).sent = n.sent := rfl
@[simp] theorem withBook_nextChannel (f : AddressBook → AddressBook) :
    (n.withBook f).nextChannel = n.nextChannel := rfl
@[simp] theorem withBook_nextQuery (f : AddressBook → AddressBook) :
    (n.withBook f).nextQuery = n.nextQuery := rfl
@[simp] theorem withBook_bootstrapped (f : AddressBook → AddressBook) :
    (n.withBook f).bootstrapped = n.bootstrapped := rfl
@[simp] theorem withBook_protocols (f : AddressBook → AddressBook) :
    (n.withBook f).protocols = n.protocols := rfl
@[simp] theorem withBook_book (f : AddressBook → AddressBook) : (n.withBook f).book = f n.book :=
  rfl
@[simp] theorem withBook_pubsub (f : AddressBook → AddressBook) :
    (n.withBook f).pubsub = n.pubsub := rfl

end Fields

end Node

end IpfsEmbed
