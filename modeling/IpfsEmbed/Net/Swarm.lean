import IpfsEmbed.Net.Run

/-!
# The book inside the swarm

The address book is one behaviour of a libp2p swarm.  The swarm owns the connections and
reports them to the book through `inject_connection_established`, `inject_address_change` and
`connection_closed`; the node calls the book's other methods in between.

The swarm is modelled by its table of open connections, each named by its `ConnectionId` and
recording the peer and the endpoint it has now.  It reports exactly what happens to that
table: a new connection, with the number of other connections the peer already has; a closed
connection, with the number the peer has left; and a new endpoint of an open connection, with
the old one.  A connection callback the node makes itself, or one about a connection that is
not open, is not a step.

`NetworkService::is_connected` answers from the book: a peer is connected when it is ourselves
or its record has a connection.
-/

namespace IpfsEmbed

namespace AddressBook

/-- `NetworkService::is_connected`. -/
def isConnected (b : AddressBook) (peer : PeerId) : Bool :=
  decide (peer = b.settings.localPeerId) ||
    (b.peers.lookup peer).any fun info => !info.connections.keys.isEmpty

end AddressBook

/-- The book's connection callbacks, which only the swarm makes. -/
def BookOp.isConnectionCallback : BookOp → Bool
  | .connectionClosed .. | .injectConnectionEstablished .. | .injectAddressChange .. => true
  | _ => false

/-- An open connection of the swarm: the peer and the endpoint it has now. -/
structure SwarmConnection where
  peer : PeerId
  endpoint : ConnectedPoint
  deriving DecidableEq, Repr

/-- The address the book files the connection under: its remote address, normalized with the
peer. -/
def SwarmConnection.remote (c : SwarmConnection) : Multiaddr :=
  normalizeAddrRef c.endpoint.getRemoteAddress c.peer

/-- A swarm whose behaviour is the address book. -/
structure World where
  book : AddressBook
  /-- The open connections, by `ConnectionId`. -/
  connections : AList (fun _ : Nat => SwarmConnection)
  /-- The `ConnectionId` the next connection gets. -/
  nextId : Nat

/-- What happens next: the swarm changes its connections, or the node calls the book. -/
inductive SwarmEvent
  /-- A connection to `peer` is established. -/
  | established (peer : PeerId) (endpoint : ConnectedPoint)
  /-- The open connection `id` closes. -/
  | closed (id : Nat) (error : Option ConnectionError)
  /-- The open connection `id` gets a new endpoint. -/
  | addressChange (id : Nat) (new : ConnectedPoint)
  /-- A call of the book that is not a connection callback. -/
  | call (op : BookOp)

namespace World

/-- A swarm with no connections around a new book. -/
def init (settings : Settings) : World :=
  ⟨AddressBook.new settings.localPeerId settings.portReuse settings.enableLoopback
    settings.keepAlive, ∅, 0⟩

/-- The number of open connections to `peer`. -/
def established (w : World) (peer : PeerId) : Nat :=
  w.connections.entries.countP fun e => e.2.peer = peer

/-- One event at time `now`; `none` when the swarm cannot report it or the book panics. -/
def step (w : World) (now : DateTime) : SwarmEvent → Option World
  | .established peer endpoint =>
    some ⟨w.book.injectConnectionEstablished now peer endpoint (w.established peer),
      w.connections.insert w.nextId ⟨peer, endpoint⟩, w.nextId + 1⟩
  | .closed id error =>
    (w.connections.lookup id).map fun c =>
      let w' := { w with connections := w.connections.erase id }
      -- `num_established` counts the connections left
      { w' with book := w.book.connectionClosed now c.peer c.endpoint (w'.established c.peer) error }
  | .addressChange id new =>
    (w.connections.lookup id).map fun c =>
      ⟨w.book.injectAddressChange now c.peer c.endpoint new, w.connections.insert id ⟨c.peer, new⟩,
        w.nextId⟩
  | .call op =>
    if op.isConnectionCallback then none
    else (op.exec w.book now).map fun b => { w with book := b }

end World

/-- One step of the world under events satisfying `ok`. -/
def worldStep (ok : World → DateTime × SwarmEvent → Prop) : World → World → Prop :=
  Reach.stepOf (fun w (e : DateTime × SwarmEvent) => w.step e.1 e.2) ok

/-- The worlds reachable from a new book with no connections, with any settings, under any
events. -/
def WorldReachable (w : World) : Prop :=
  ∃ settings : Settings, Reach.Reachable (worldStep fun _ _ => True) (World.init settings) w

end IpfsEmbed
