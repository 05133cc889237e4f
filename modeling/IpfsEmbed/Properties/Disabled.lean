import IpfsEmbed.Properties.Node

/-!
# Commands for disabled protocols

`NetworkConfig` may leave out any of the optional protocols.  Of the commands
`NetworkService` sends, the Kademlia ones, `Subscribe`, `Publish` and `Broadcast` check their
protocol: with it off they answer with an error on their reply channel (`refusal`).  A node that was never bootstrapped answers the Kademlia commands
with `NotBootstrapped`, and one with Kademlia off is never bootstrapped
(`reachable_bootstrapped_kad`), so there the answer is always `NotBootstrapped`.  The events
of a disabled protocol never arrive (`canReceive`), and the other commands do not need a
protocol.

`Get` and `Sync` do not check: `NetworkBackendBehaviour::get` and `sync` call
`self.bitswap.as_mut().expect("bitswap enabled")`, so with bitswap off the swarm task panics
on them (`handleCommand_isSome_iff`), and `Ipfs::fetch` sends `Get` whenever the block is not
stored and providers are given.
-/

namespace IpfsEmbed

/-- The answer a command gets when the protocol it needs is off: `NotBootstrapped` for the
Kademlia commands, `DisabledProtocol` for the subscription commands; `none` when the command
needs no disabled protocol, or needs bitswap. -/
def NetworkCommand.refusal (protocols : Protocols) (pubsub : PubSub) :
    NetworkCommand → Option Reply
  | .bootstrap .. | .providers | .provide _ | .getRecord | .putRecord _ =>
    if protocols.kad then none else some (.result (.error .notBootstrapped))
  | .subscribe .. =>
    if pubsub.gossipsub.isNone && pubsub.broadcast.isNone then
      some (.subscription (.error .disabledProtocol))
    else none
  | .publish _ =>
    if pubsub.gossipsub.isNone then some (.result (.error (.disabledProtocol "gossipsub")))
    else none
  | .broadcast =>
    if pubsub.broadcast.isNone then some (.result (.error (.disabledProtocol "broadcast")))
    else none
  | _ => none

/-- With both protocols off, `subscribe` refuses and changes nothing. -/
theorem PubSub.subscribe_of_disabled {st : PubSub} (h : (st.gossipsub.isNone && st.broadcast.isNone) = true)
    (topic : String) (gossipOk : Bool) : st.subscribe topic gossipOk = (st, .error .disabledProtocol) := by
  unfold PubSub.subscribe
  rw [if_pos h]

namespace Node

variable {n n' : Node} {tx : Nat}

/-- A Kademlia query of a node that is not bootstrapped is refused at once. -/
theorem kadQuery_of_not_bootstrapped (hb : n.bootstrapped = false) (kind : QueryKind)
    (started : Bool) : (n.kadQuery kind tx started).sent = n.sent ++ [(tx, .result (.error .notBootstrapped))] := by
  simp [Node.kadQuery, hb]

theorem bootstrap_of_kad_off (hk : n.protocols.kad = false) (started : Bool) :
    (n.bootstrap tx started).sent = n.sent ++ [(tx, .result (.error .notBootstrapped))] := by
  simp [Node.bootstrap, hk]

/-- The `Subscribe` arm: a new reply channel, then `subscribe`'s result sent on it. -/
theorem handleCommand_subscribe (now : DateTime) (topic : String) (gossipOk : Bool) :
    n.handleCommand now (.subscribe topic gossipOk) =
      some ({ n.newChannel.2 with pubsub := (n.pubsub.subscribe topic gossipOk).1 }.send
        n.nextChannel (.subscription (n.pubsub.subscribe topic gossipOk).2)) := rfl

end Node

open Node

/-- **A command for a disabled protocol other than bitswap is answered with its error**: in
every state the task reaches, handling it sends exactly the refusal, on the command's reply
channel. -/
theorem handleCommand_refusal {n n' : Node} (hn : NodeReachable n) {now : DateTime}
    {cmd : NetworkCommand} {r : Reply} (hr : cmd.refusal n.protocols n.pubsub = some r)
    (he : n.handleCommand now cmd = some n') : n'.sent = n.sent ++ [(n.nextChannel, r)] := by
  -- with Kademlia off the node was never bootstrapped
  have hboot : n.protocols.kad = false → n.bootstrapped = false := by
    intro hk
    cases hb : n.bootstrapped
    · rfl
    · rw [reachable_bootstrapped_kad hn hb] at hk
      cases hk
  cases cmd <;> simp only [NetworkCommand.refusal, reduceCtorEq] at hr
  case bootstrap initial started =>
    split_ifs at hr with hk
    cases hr
    cases he
    -- the initial peers only go to the book, which keeps the protocols and the reply log
    have hfold := Outside.foldl (fun n pa =>
      (n.addAddress now pa.1 pa.2 .user).withBook (·.dial pa.1))
      (fun _ pa => (Outside.addAddress now pa.1 pa.2 .user).trans (Outside.call _))
      initial n.newChannel.2
    have hsame := sameQueries_bootstrapPeers now initial n.newChannel.2
    have hk' : (initial.foldl (fun n pa => (n.addAddress now pa.1 pa.2 .user).withBook
        (·.dial pa.1)) n.newChannel.2).protocols.kad = false := by
      rw [hfold.protocols]
      simpa using hk
    calc _ = (initial.foldl (fun n pa => (n.addAddress now pa.1 pa.2 .user).withBook
            (·.dial pa.1)) n.newChannel.2).sent ++ [(n.nextChannel, .result (.error .notBootstrapped))] :=
          bootstrap_of_kad_off hk' started
      _ = n.sent ++ [(n.nextChannel, .result (.error .notBootstrapped))] := by
          rw [hsame.sent]
          rfl
  case providers | provide | getRecord | putRecord =>
    -- a Kademlia query of a node that was never bootstrapped
    split_ifs at hr with hk
    cases hr
    cases he
    exact kadQuery_of_not_bootstrapped (n := n.newChannel.2) (hboot (by simpa using hk)) _ _
  case subscribe topic gossipOk =>
    split_ifs at hr with hoff
    cases hr
    rw [handleCommand_subscribe, PubSub.subscribe_of_disabled hoff] at he
    cases he
    rfl
  case publish outcome =>
    split_ifs at hr with hoff
    cases hr
    cases he
    simp only [Option.isNone_iff_eq_none] at hoff
    simp [Node.publish, hoff]
  case broadcast =>
    split_ifs at hr with hoff
    cases hr
    cases he
    simp only [Option.isNone_iff_eq_none] at hoff
    simp [Node.broadcast, hoff]

/-- A node with neither Kademlia nor a pubsub protocol answers `Providers` with
`NotBootstrapped` on its first channel. -/
theorem handleCommand_refusal_providers :
    ∃ n', (Node.init ⟨⟨false, true, true, true, true⟩, false, false,
        ⟨false, false, false, ⟨0⟩⟩⟩).handleCommand 0 .providers = some n' ∧
      n'.sent = [(0, .result (.error .notBootstrapped))] :=
  ⟨_, rfl, @handleCommand_refusal (Node.init ⟨⟨false, true, true, true, true⟩, false, false,
    ⟨false, false, false, ⟨0⟩⟩⟩) _ ⟨_, .refl⟩ 0 .providers _ rfl rfl⟩

/-- The configuration of the failure: every protocol on but bitswap. -/
def noBitswapConfig : NetworkConfig :=
  ⟨⟨true, true, true, true, false⟩, true, true, ⟨false, false, false, ⟨0⟩⟩⟩

/-- With bitswap left out of the configuration, the swarm task panics on the first `Get` or
`Sync` it handles, which `Ipfs::fetch` and `Ipfs::sync` send for a missing block with providers
given. -/
theorem get_panics_without_bitswap :
    (Node.init noBitswapConfig).step 0 (.command .get) = none ∧
      (Node.init noBitswapConfig).step 0 (.command .sync) = none := by
  have hoff : (Node.init noBitswapConfig).protocols.bitswap = false := rfl
  refine ⟨Option.not_isSome_iff_eq_none.1 fun h => ?_, Option.not_isSome_iff_eq_none.1 fun h => ?_⟩
  · -- `Get` needs bitswap, which the node does not have
    have hon := ((Node.init noBitswapConfig).handleCommand_isSome_iff 0 .get).1 h rfl
    rw [hoff] at hon
    cases hon
  · have hon := ((Node.init noBitswapConfig).handleCommand_isSome_iff 0 .sync).1 h rfl
    rw [hoff] at hon
    cases hon

end IpfsEmbed
