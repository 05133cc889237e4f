import IpfsEmbed.Framework.Reachable
import IpfsEmbed.Net.SetInfo
import IpfsEmbed.Net.DialFailure

/-!
# Runs of the address book

A `BookOp` is one call the book can receive: a public method called by the node
(`add_address`, `remove_address`, `dial`, `dial_address`, `prune_peers`, `set_rtt`) or by the
behaviour on Identify information (`set_info`), a swarm callback (`connection_closed`,
`inject_connection_established`, `inject_address_change`, `inject_dial_failure`,
`inject_new_listen_addr`, `inject_expired_listen_addr`), or the swarm taking the next
action through `poll`.  Every argument is arbitrary: nothing ties a callback to an earlier
dial or connection here, which is what "any sequence of operations" means in the results on
reachable states.  `IpfsEmbed.Properties.Connections` couples the book with a swarm that only
reports connections it really has.

`exec` runs one call; only `set_info` can fail, and it fails when it panics.  The reachable
states are those of runs from `AddressBook::new`, with any settings.
-/

namespace IpfsEmbed

/-- One call of the address book. -/
inductive BookOp
  | addAddress (peer : PeerId) (address : Multiaddr) (source : AddressSource)
  | removeAddress (peer : PeerId) (address : Multiaddr)
  | dial (peer : PeerId)
  | dialAddress (peer : PeerId) (addr : Multiaddr)
  | prunePeers (minAge : Duration)
  | setRtt (peer : PeerId) (rtt : Option Duration)
  | setInfo (peer : PeerId) (identify : IdentifyInfo)
  | connectionClosed (peer : PeerId) (conn : ConnectedPoint) (numEstablished : Nat)
      (error : Option ConnectionError)
  | injectConnectionEstablished (peer : PeerId) (conn : ConnectedPoint) (otherEstablished : Nat)
  | injectAddressChange (peer : PeerId) (old new : ConnectedPoint)
  | injectDialFailure (peerId : Option PeerId) (handler : IntoAddressHandler) (error : DialError)
      (rand : Nat → UInt32)
  | injectNewListenAddr (id : ListenerId) (addr : Multiaddr)
  | injectExpiredListenAddr (id : ListenerId) (addr : Multiaddr)
  /-- `poll` hands the front of the action queue to the swarm. -/
  | poll

namespace AddressBook

/-- `NetworkBehaviour::poll`, for its effect on the book: the first queued action leaves. -/
def poll (b : AddressBook) : AddressBook :=
  { b with actions := b.actions.drop 1 }

end AddressBook

/-- Run one call at time `now`; `none` when the call panics. -/
def BookOp.exec (b : AddressBook) (now : DateTime) : BookOp → Option AddressBook
  | .addAddress peer address source => some (b.addAddress now peer address source)
  | .removeAddress peer address => some (b.removeAddress peer address)
  | .dial peer => some (b.dial peer)
  | .dialAddress peer addr => some (b.dialAddress peer addr)
  | .prunePeers minAge => some (b.prunePeers now minAge)
  | .setRtt peer rtt => some (b.setRtt peer rtt)
  | .setInfo peer identify => b.setInfo now peer identify
  | .connectionClosed peer conn n error => some (b.connectionClosed now peer conn n error)
  | .injectConnectionEstablished peer conn n =>
    some (b.injectConnectionEstablished now peer conn n)
  | .injectAddressChange peer old new => some (b.injectAddressChange now peer old new)
  | .injectDialFailure peerId handler error rand =>
    some (b.injectDialFailure now peerId handler error rand)
  | .injectNewListenAddr id addr => some (b.injectNewListenAddr id addr)
  | .injectExpiredListenAddr id addr => some (b.injectExpiredListenAddr id addr)
  | .poll => some b.poll

/-- One step of the book under calls satisfying `ok`. -/
def bookStep (ok : AddressBook → DateTime × BookOp → Prop) : AddressBook → AddressBook → Prop :=
  Reach.stepOf (fun b (call : DateTime × BookOp) => call.2.exec b call.1) ok

/-- The states a book reaches from `AddressBook::new`, under any calls. -/
def BookReachable (b : AddressBook) : Prop :=
  ∃ settings : Settings,
    Reach.Reachable (bookStep fun _ _ => True)
      (AddressBook.new settings.localPeerId settings.portReuse settings.enableLoopback
        settings.keepAlive) b

end IpfsEmbed
