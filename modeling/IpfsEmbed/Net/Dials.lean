import IpfsEmbed.Net.Run

/-!
# The dials the swarm makes for the book

`AddressBook::poll` hands the swarm the front of the action queue and, when the queue is
empty, a deferred dial whose delay has ended: `deferred` is a `FuturesUnordered` of delays,
which yields each future when it completes, in no fixed order.  The swarm issues the dial
with the handler it came with.  When the dial fails, the swarm calls `inject_dial_failure`
with that handler, the dial's peer and the error; the book may then defer a redial, which
comes back through `poll` in its turn.

The swarm also dials for the other behaviours (Kademlia, a `dial` of the swarm itself).  The
handler of such a dial is built from every behaviour's `new_handler`, so when it fails the book
too is told, with its part of that handler: `IntoAddressHandler(None, keep_alive)`, and the
peer the swarm dialled, if it knows one.

`DialWorld` is the book with the dials the swarm has in flight.  Its steps are the calls of
the book other than `poll` and `inject_dial_failure`, which only the swarm makes: the swarm
polls the book, one of the dials the book handed it fails or ends, or a dial it made for
another behaviour fails.  The delays are not timed: any deferred dial may be the one whose
delay ends next.
-/

namespace IpfsEmbed

namespace NetworkBehaviourAction

/-- The handler a dial is issued with. -/
def handler : NetworkBehaviourAction → IntoAddressHandler
  | .dial _ handler => handler

/-- The options a dial is issued with. -/
def opts : NetworkBehaviourAction → DialOpts
  | .dial opts _ => opts

@[simp] theorem handler_dial (opts : DialOpts) (handler : IntoAddressHandler) :
    (NetworkBehaviourAction.dial opts handler).handler = handler := rfl

end NetworkBehaviourAction

namespace AddressBook

/-- `NetworkBehaviour::poll`, with the action it hands over: the front of the queue, else the
deferred dial `ready` if its delay has ended first; `none` for `Poll::Pending`. -/
def pollAction (b : AddressBook) (ready : Nat) : Option (NetworkBehaviourAction × AddressBook) :=
  match b.actions with
  | a :: _ => some (a, b.poll)
  | [] => b.deferred[ready]?.map fun d => (d.2, { b with deferred := b.deferred.eraseIdx ready })

end AddressBook

/-- The calls the swarm makes only for its own dials. -/
def BookOp.isSwarmDial : BookOp → Bool
  | .poll | .injectDialFailure .. => true
  | _ => false

/-- What happens next to the book's dials. -/
inductive DialEvent
  /-- A call of the book that is not one the swarm makes for its dials. -/
  | call (op : BookOp)
  /-- The swarm polls the book, and the deferred dial `ready` is the one whose delay ends
  first; it issues the dial it is handed. -/
  | poll (ready : Nat)
  /-- The dial `i` in flight fails with `error`; `rand` is what `rand::random` returns. -/
  | dialFailure (i : Nat) (error : DialError) (rand : Nat → UInt32)
  /-- The dial `i` in flight connects. -/
  | dialSuccess (i : Nat)
  /-- A dial the swarm made for another behaviour, of `peerId` if it names one, fails with
  `error`. -/
  | otherDialFailure (peerId : Option PeerId) (error : DialError) (rand : Nat → UInt32)

/-- The book with the dials the swarm has in flight. -/
structure DialWorld where
  book : AddressBook
  /-- The dials issued and not yet ended, in the order they were issued. -/
  dialing : List NetworkBehaviourAction

namespace DialWorld

/-- A new book, with no dial in flight. -/
def init (settings : Settings) : DialWorld :=
  ⟨AddressBook.new settings.localPeerId settings.portReuse settings.enableLoopback
    settings.keepAlive, []⟩

/-- One event at time `now`; `none` when it cannot happen or the book panics. -/
def step (w : DialWorld) (now : DateTime) : DialEvent → Option DialWorld
  | .call op =>
    if op.isSwarmDial then none
    else (op.exec w.book now).map fun b => { w with book := b }
  | .poll ready =>
    (w.book.pollAction ready).map fun r => ⟨r.2, w.dialing ++ [r.1]⟩
  | .dialFailure i error rand =>
    w.dialing[i]?.map fun a =>
      ⟨w.book.injectDialFailure now (some a.opts.peerId) a.handler error rand, w.dialing.eraseIdx i⟩
  | .dialSuccess i =>
    if i < w.dialing.length then some { w with dialing := w.dialing.eraseIdx i } else none
  | .otherDialFailure peerId error rand =>
    some { w with book := w.book.injectDialFailure now peerId w.book.newHandler error rand }

end DialWorld

/-- One step of the dial world, under any event. -/
def dialStep : DialWorld → DialWorld → Prop :=
  Reach.stepOf (fun w (e : DateTime × DialEvent) => w.step e.1 e.2) fun _ _ => True

/-- The dial worlds reachable from a new book, with any settings. -/
def DialWorldReachable (w : DialWorld) : Prop :=
  ∃ settings : Settings, Reach.Reachable dialStep (DialWorld.init settings) w

end IpfsEmbed
