import IpfsEmbed.Net.Sync

/-!
# What a sync reports

`NetworkService::sync` resolves to `Ok(())` exactly when nothing is missing, or when providers
were given, the command channel took `Sync`, the swarm task handed back the query, and the
first completion on its receiver is `Ok(())` (`awaitSync_networkSync_ok_iff`).  A command the
channel refuses, a task that drops the reply and a missing provider end in an error.

`Ipfs::sync` reads a failure of `missing_blocks` as nothing missing.  When the store answers,
`Ok(())` means what it means for `NetworkService::sync`; when the store fails, the sync
resolves to `Ok(())` at once, whatever the swarm would have done (`syncResult_of_store_error`).
-/

namespace IpfsEmbed

variable {C ε : Type}

/-- A failure of the store is read as nothing missing: the sync reports success at once. -/
theorem syncResult_of_store_error (e : ε) (providers : List PeerId) (swarm : SyncSwarm) :
    Ipfs.syncResult (Except.error e : Except ε (List C)) providers swarm = some (.ok ()) :=
  rfl

/-- The store cannot list what is missing below the root: the sync resolves to `Ok(())`,
although with block 7 listed missing the same swarm would have failed it. -/
theorem sync_reports_ok_on_store_error :
    Ipfs.syncResult (Except.error () : Except Unit (List Nat)) [⟨1⟩]
        ⟨none, some [.complete (.error .bitswap)]⟩ = some (.ok ()) ∧
      Ipfs.syncResult (Except.ok [7] : Except Unit (List Nat)) [⟨1⟩]
        ⟨none, some [.complete (.error .bitswap)]⟩ = some (.error (.query .bitswap)) :=
  ⟨syncResult_of_store_error () _ _, rfl⟩

end IpfsEmbed
