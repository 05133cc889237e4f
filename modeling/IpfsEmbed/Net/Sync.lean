import IpfsEmbed.Net.Behaviour

/-!
# Syncing a DAG (`Ipfs::sync`)

`Ipfs::sync` asks the store for the blocks missing below the root and hands them to
`NetworkService::sync`.  That resolves at once when nothing is missing, or, when no provider
is given, with `BlockNotFound` for the first missing block; otherwise it sends `Sync` to the
swarm task and waits for the `SyncQuery` the task hands back.  Awaiting the `SyncQuery`
yields the result of the first `Complete` event on its receiver; progress events are
skipped.

The store and the swarm are arguments: what `missing_blocks` returns, whether the command
channel takes the command, and what the query's receiver gets (`SyncSwarm`).  The cid and the
providers are passed on to bitswap, which is not modelled; only whether providers were given
decides anything here.
-/

namespace IpfsEmbed

/-- The errors a sync resolves to (`anyhow::Error`), by where they come from. -/
inductive SyncError (C : Type)
  /-- `BlockNotFound(missing[0])`: no provider to ask for the block. -/
  | blockNotFound (cid : C)
  /-- `anyhow!("{}", err)`: the command channel did not take the command, for `reason`. -/
  | send (reason : String)
  /-- `oneshot::Canceled`: the swarm task dropped the reply sender. -/
  | canceled
  /-- The error bitswap completed the query with. -/
  | query (e : QueryError)
  deriving DecidableEq, Repr

/-- `SyncQuery`, by what its receiver gets. -/
inductive SyncQuery (C : Type)
  /-- `SyncQuery::ready(res)`: the receiver holds `Complete(res)` alone. -/
  | ready (res : Except (SyncError C) Unit)
  /-- The query the swarm task runs: the receiver gets the events the task sends on it. -/
  | running (events : List SyncEvent)
  deriving DecidableEq, Repr

/-- What the swarm side does with a `Sync` command. -/
structure SyncSwarm where
  /-- Why `cmd_shared` fails ("receiver went away", "channel is full"), if it does. -/
  sendFailure : Option String
  /-- The events the query's receiver gets, or `none` when the task drops the reply sender. -/
  reply : Option (List SyncEvent)
  deriving DecidableEq, Repr

/-- The result of the first `Complete` among the events. -/
def firstComplete : List SyncEvent → Option (Except QueryError Unit)
  | [] => none
  | .complete r :: _ => some r
  | .progress _ :: events => firstComplete events

variable {C ε : Type}

/-- `SyncQuery::poll`: the result of the first `Complete`; `none` while there is none. -/
def SyncQuery.poll : SyncQuery C → Option (Except (SyncError C) Unit)
  | .ready res => some res
  | .running events => (firstComplete events).map (Except.mapError .query)

/-- `NetworkService::sync`. -/
def NetworkService.sync (providers : List PeerId) (missing : List C) (swarm : SyncSwarm) :
    Except (SyncError C) (SyncQuery C) :=
  match missing with
  | [] => .ok (.ready (.ok ()))
  | m :: _ =>
    if providers.isEmpty then .ok (.ready (.error (.blockNotFound m)))
    else
      match swarm.sendFailure with
      | some reason => .error (.send reason)
      | none =>
        -- `rx.await?`
        match swarm.reply with
        | none => .error .canceled
        | some events => .ok (.running events)

/-- `Ipfs::sync`: `missing_blocks(cid).ok().unwrap_or_default()`, then `NetworkService::sync`. -/
def Ipfs.sync (missingBlocks : Except ε (List C)) (providers : List PeerId) (swarm : SyncSwarm) :
    Except (SyncError C) (SyncQuery C) :=
  let missing := missingBlocks.toOption.getD []
  NetworkService.sync providers missing swarm

/-- `.await?.await` on a sync: its error, or what its query resolves to; `none` while it has
not resolved. -/
def awaitSync : Except (SyncError C) (SyncQuery C) → Option (Except (SyncError C) Unit)
  | .error e => some (.error e)
  | .ok q => q.poll

/-- `ipfs.sync(cid, providers).await?.await`. -/
def Ipfs.syncResult (missingBlocks : Except ε (List C)) (providers : List PeerId)
    (swarm : SyncSwarm) : Option (Except (SyncError C) Unit) :=
  awaitSync (Ipfs.sync missingBlocks providers swarm)

end IpfsEmbed
