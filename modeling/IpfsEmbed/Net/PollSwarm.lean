import IpfsEmbed.Net.Behaviour

/-!
# The swarm task (`poll_swarm` in `src/net/mod.rs`)

`NetworkService` talks to the swarm through a command channel; `poll_swarm` takes, one at a
time, either the next command or the next event of the swarm, and hands it to the behaviour.
One `step` here is one turn of that loop.

A command's reply channel is created by the `NetworkService` method that sends the command;
here it is created when the command is handled, which names it just as well, since every
command has a new one.  Of the swarm's events, the task handles a closed connection and the
events of the protocols; a protocol that is disabled sends none (`canReceive`).  The other
calls the swarm makes into the address book while it polls (a new connection, a failed dial,
a new listen address, taking the next action) are the input `callback`.  The owner of a
subscription may drop its receiver at any time.

Commands that only touch the swarm itself (`AddExternalAddress`, `Ban`, `Unban`) and those
that only touch Kademlia's own store (`Unprovide`, `RemoveRecord`) change nothing modelled;
nor does the task that forwards a listener's events, which `ListenOn` spawns when
`listen_on` succeeds.
-/

namespace IpfsEmbed

/-- `NetworkCommand`, without the data only third-party code reads; the outcome of a
third-party call that the handler depends on is an argument (`started`, `gossipOk`,
`outcome`, `listenOk`). -/
inductive NetworkCommand
  | listenOn (addr : Multiaddr) (listenOk : Bool)
  | addExternalAddress
  | addAddress (peer : PeerId) (addr : Multiaddr)
  | removeAddress (peer : PeerId) (addr : Multiaddr)
  | prunePeers (minAge : Duration)
  | dial (peer : PeerId)
  | dialAddress (peer : PeerId) (addr : Multiaddr)
  | ban
  | unban
  | bootstrap (initial : List (PeerId × Multiaddr)) (started : Bool)
  | providers
  | provide (started : Bool)
  | unprovide
  | getRecord
  | putRecord (started : Bool)
  | removeRecord
  | subscribe (topic : String) (gossipOk : Bool)
  | publish (outcome : PublishOutcome)
  | broadcast
  | get
  | sync
  | swarmEvents
  | cancelQuery (id : QueryId)

/-- `MdnsEvent`. -/
inductive MdnsEvent
  | discovered (list : List (PeerId × Multiaddr))
  | expired

/-- The result of a ping (`ping::Result`). -/
inductive PingResult
  /-- `Ok(Success::Ping { rtt })`. -/
  | ping (rtt : Duration)
  | pong
  | timeout
  | other
  | unsupported

/-- `ping::Event`. -/
structure PingEvent where
  peer : PeerId
  result : PingResult

/-- `identify::Event`: only `Received` is handled. -/
inductive IdentifyEvent
  | received (peer : PeerId) (info : IdentifyInfo)
  | other

/-- The book's callbacks that the swarm makes while it polls; `connection_closed` is called by
the task itself. -/
def BookOp.isSwarmCallback : BookOp → Bool
  | .injectConnectionEstablished .. | .injectAddressChange .. | .injectDialFailure ..
  | .injectNewListenAddr .. | .injectExpiredListenAddr .. | .poll => true
  | _ => false

/-- What one turn of `poll_swarm` handles. -/
inductive SwarmInput
  | command (cmd : NetworkCommand)
  | connectionClosed (peer : PeerId) (endpoint : ConnectedPoint) (numEstablished : Nat)
      (cause : Option ConnectionError)
  | kad (e : KademliaEvent)
  | mdns (e : MdnsEvent)
  | ping (e : PingEvent)
  | identify (e : IdentifyEvent)
  | bitswap (e : BitswapEvent)
  /-- A gossipsub event, with the peer it names. -/
  | gossipsub (peer : PeerId) (e : GossipsubEvent)
  /-- A broadcast event, with the peer it names. -/
  | broadcast (peer : PeerId) (e : BroadcastEvent)
  /-- A call the swarm makes into the address book. -/
  | callback (op : BookOp)
  /-- The owner of a subscription drops its receiver. -/
  | dropReceiver (rx : Nat)

/-- `NetworkConfig`, as far as the swarm task reads it. -/
structure NetworkConfig where
  protocols : Protocols
  gossipsub : Bool
  broadcast : Bool
  settings : Settings

namespace Node

/-- The behaviour and task state right after `NetworkService::new`. -/
def init (config : NetworkConfig) : Node :=
  ⟨config.protocols,
    AddressBook.new config.settings.localPeerId config.settings.portReuse
      config.settings.enableLoopback config.settings.keepAlive,
    PubSub.init config.gossipsub config.broadcast, ∅, false, 0, 0, []⟩

/-- `NetworkBackendBehaviour::add_address`; Kademlia's routing table is not modelled. -/
def addAddress (n : Node) (now : DateTime) (peer : PeerId) (addr : Multiaddr)
    (source : AddressSource) : Node :=
  n.withBook (·.addAddress now peer addr source)

/-- `inject_mdns_event`: every discovered address is added; expiry is ignored. -/
def injectMdnsEvent (n : Node) (now : DateTime) : MdnsEvent → Node
  | .discovered list => list.foldl (fun n pa => n.addAddress now pa.1 pa.2 .mdns) n
  | .expired => n

/-- `inject_ping_event`: a round trip or a failure is recorded; a pong or an unsupported peer
changes nothing. -/
def injectPingEvent (n : Node) (e : PingEvent) : Node :=
  match e.result with
  | .ping rtt => n.withBook (·.setRtt e.peer (some rtt))
  | .pong => n
  | .timeout => n.withBook (·.setRtt e.peer none)
  | .other => n.withBook (·.setRtt e.peer none)
  | .unsupported => n

/-- `inject_id_event`; `none` when `set_info` panics. -/
def injectIdEvent (n : Node) (now : DateTime) : IdentifyEvent → Option Node
  | .received peer info => (n.book.setInfo now peer info).map fun b => { n with book := b }
  | .other => some n

/-- `inject_gossip_event`: the book hears of a peer's subscriptions; the subscribers of the
topic are notified. -/
def injectGossipEvent (n : Node) (peer : PeerId) (e : GossipsubEvent) : Node :=
  let n := match e with
    | .subscribed topic => n.withBook (·.notify (.subscribed peer topic))
    | .unsubscribed topic => n.withBook (·.notify (.unsubscribed peer topic))
    | _ => n
  { n with pubsub := n.pubsub.injectGossipEvent e }

/-- `inject_broadcast_event`: as for gossipsub, for topics that are UTF-8; `none` when a
message arrives on a topic that is not. -/
def injectBroadcastEvent (n : Node) (peer : PeerId) (e : BroadcastEvent) : Option Node :=
  let n := match e with
    | .subscribed topic =>
      (String.fromUTF8? topic).elim n fun t => n.withBook (·.notify (.subscribed peer t))
    | .unsubscribed topic =>
      (String.fromUTF8? topic).elim n fun t => n.withBook (·.notify (.unsubscribed peer t))
    | .received _ => n
  (n.pubsub.injectBroadcastEvent e).map fun pubsub => { n with pubsub }

/-- One command, as `poll_swarm` handles it; `none` when it panics. -/
def handleCommand (n : Node) (now : DateTime) : NetworkCommand → Option Node
  | .listenOn addr listenOk =>
    let (response, n) := n.newChannel
    some (if listenOk then n else n.send response (.listenFailed addr))
  | .addExternalAddress => some n
  | .addAddress peer addr => some (n.addAddress now peer addr .user)
  | .removeAddress peer addr => some (n.withBook (·.removeAddress peer addr))
  | .prunePeers minAge => some (n.withBook (·.prunePeers now minAge))
  | .dial peer => some (n.withBook (·.dial peer))
  | .dialAddress peer addr => some (n.withBook (·.dialAddress peer addr))
  | .ban => some n
  | .unban => some n
  | .bootstrap initial started =>
    let (tx, n) := n.newChannel
    -- every initial peer is added and dialled before Kademlia bootstraps
    let n := initial.foldl (fun n pa => (n.addAddress now pa.1 pa.2 .user).withBook (·.dial pa.1)) n
    some (n.bootstrap tx started)
  | .providers =>
    let (tx, n) := n.newChannel
    some (n.providers tx)
  | .provide started =>
    let (tx, n) := n.newChannel
    some (n.provide tx started)
  | .unprovide => some n
  | .getRecord =>
    let (tx, n) := n.newChannel
    some (n.getRecord tx)
  | .putRecord started =>
    let (tx, n) := n.newChannel
    some (n.putRecord tx started)
  | .removeRecord => some n
  | .subscribe topic gossipOk =>
    let (tx, n) := n.newChannel
    let (pubsub, r) := n.pubsub.subscribe topic gossipOk
    some ({ n with pubsub }.send tx (.subscription r))
  | .publish outcome =>
    let (tx, n) := n.newChannel
    some (n.send tx (.result (n.publish outcome)))
  | .broadcast =>
    let (tx, n) := n.newChannel
    some (n.send tx (.result n.broadcast))
  | .get => do
    let (tx, n) := n.newChannel
    let (id, rx, n) ← n.get
    pure (n.send tx (.getQuery id rx))
  | .sync => do
    let (tx, n) := n.newChannel
    let (id, rx, n) ← n.sync
    pure (n.send tx (.syncQuery id rx))
  | .swarmEvents =>
    let (result, n) := n.newChannel
    let (rx, n) := n.newChannel
    some (n.send result (.swarmEvents rx))
  | .cancelQuery id => n.cancel id

/-- Whether the swarm can hand the task this input: a disabled protocol sends no event, and the
swarm makes only its own callbacks. -/
def canReceive (n : Node) : SwarmInput → Bool
  | .kad _ => n.protocols.kad
  | .mdns _ => n.protocols.mdns
  | .ping _ => n.protocols.ping
  | .identify _ => n.protocols.identify
  | .bitswap _ => n.protocols.bitswap
  | .gossipsub .. => n.pubsub.gossipsub.isSome
  | .broadcast .. => n.pubsub.broadcast.isSome
  | .callback op => op.isSwarmCallback
  | _ => true

/-- One turn of `poll_swarm` at time `now`; `none` when it panics. -/
def step (n : Node) (now : DateTime) : SwarmInput → Option Node
  | .command cmd => n.handleCommand now cmd
  | .connectionClosed peer endpoint numEstablished cause =>
    some (n.withBook (·.connectionClosed now peer endpoint numEstablished cause))
  | .kad e => some (n.injectKadEvent e)
  | .mdns e => some (n.injectMdnsEvent now e)
  | .ping e => some (n.injectPingEvent e)
  | .identify e => n.injectIdEvent now e
  | .bitswap e => some (n.injectBitswapEvent e)
  | .gossipsub peer e => some (n.injectGossipEvent peer e)
  | .broadcast peer e => n.injectBroadcastEvent peer e
  | .callback op => (op.exec n.book now).map fun b => { n with book := b }
  | .dropReceiver rx => some { n with pubsub := n.pubsub.dropReceiver rx }

end Node

/-- One turn of the swarm task, on an input the swarm can deliver. -/
def nodeStep : Node → Node → Prop :=
  Reach.stepOf (fun n (i : DateTime × SwarmInput) => n.step i.1 i.2) fun n i => n.canReceive i.2

/-- The states of the swarm task in runs from `NetworkService::new`, with any configuration. -/
def NodeReachable (n : Node) : Prop :=
  ∃ config : NetworkConfig, Reach.Reachable nodeStep (Node.init config) n

end IpfsEmbed
