import IpfsEmbed.Properties.SetInfo

/-!
# `set_info` does not depend on the order of its candidate set

`set_info` collects the candidate addresses in an `FnvHashSet` and ingests them in the order
the set iterates, which the code does not fix; the model visits them in the order of
`candidates`.  The choice does not matter.  Ingesting a candidate writes only the candidate's
own entry (`setInfoIngest_lookup_of_ne`), what it writes there and whether it queues a dial
depend only on that entry and on the record's connections (`setInfoIngest_congr`), and the
dial is appended to the queue (`setInfoIngest_append`).  So two distinct candidates are
ingested in either order with the same result, up to the order of the address map's entries,
which a `HashMap` does not have, and of the two dials (`LoopSameUpToOrder.ingest_comm`).
By `List.Perm.foldl_rel`, every order of the candidates leaves the same record and queues the
same dials, possibly in another order.
-/

namespace IpfsEmbed

namespace PeerInfo

/-- The same record up to the order of its address entries. -/
def SameUpToOrder (info info' : PeerInfo) : Prop :=
  ∃ addresses : AList fun _ : Multiaddr => AddressSource × DateTime,
    (∀ a, info.addresses.lookup a = addresses.lookup a) ∧ info' = { info with addresses }

theorem sameUpToOrder_equivalence : Equivalence SameUpToOrder where
  refl info := ⟨info.addresses, fun _ => rfl, rfl⟩
  symm := by
    rintro info _ ⟨addresses, hl, rfl⟩
    exact ⟨info.addresses, fun a => (hl a).symm, rfl⟩
  trans := by
    rintro info _ _ ⟨addresses, hl, rfl⟩ ⟨addresses', hl', rfl⟩
    exact ⟨addresses', fun a => (hl a).trans (hl' a), rfl⟩

end PeerInfo

open PeerInfo

/-- Two states of the loop of `set_info` that agree up to order: the same record, up to the
order of its address entries, and the same queued actions, up to their order. -/
def LoopSameUpToOrder (acc acc' : PeerInfo × List NetworkBehaviourAction) : Prop :=
  acc.1.SameUpToOrder acc'.1 ∧ acc.2.Perm acc'.2

theorem loopSameUpToOrder_equivalence : Equivalence LoopSameUpToOrder where
  refl acc := ⟨sameUpToOrder_equivalence.refl acc.1, List.Perm.refl acc.2⟩
  symm h := ⟨sameUpToOrder_equivalence.symm h.1, h.2.symm⟩
  trans h h' := ⟨sameUpToOrder_equivalence.trans h.1 h'.1, h.2.trans h'.2⟩

namespace AddressBook

section Ingest

variable (listeners : Finset Multiaddr) (portReuse : Bool) (peer : PeerId) (now : DateTime)

/-- A candidate's dial, if any, is appended to whatever is queued. -/
theorem setInfoIngest_append (acc : PeerInfo × List NetworkBehaviourAction) (addr : Multiaddr) :
    setInfoIngest listeners portReuse peer now acc addr =
      ((setInfoIngest listeners portReuse peer now (acc.1, []) addr).1,
        acc.2 ++ (setInfoIngest listeners portReuse peer now (acc.1, []) addr).2) := by
  unfold setInfoIngest
  dsimp only
  split_ifs <;> simp

/-- Ingesting a candidate changes only the record's address map. -/
theorem setInfoIngest_fst (info : PeerInfo) (acts : List NetworkBehaviourAction)
    (addr : Multiaddr) :
    ∃ addresses, (setInfoIngest listeners portReuse peer now (info, acts) addr).1 =
      { info with addresses } := by
  unfold setInfoIngest
  simp only [ingestAddress_eq]
  split_ifs <;> exact ⟨_, rfl⟩

/-- What ingesting a candidate writes, and whether it queues a dial, depend only on the
candidate's entry and on the connections. -/
theorem setInfoIngest_congr {info info' : PeerInfo} {addr : Multiaddr}
    (hl : info.addresses.lookup addr = info'.addresses.lookup addr)
    (hc : info.connections = info'.connections) (acts : List NetworkBehaviourAction) :
    (setInfoIngest listeners portReuse peer now (info, acts) addr).1.addresses.lookup addr =
        (setInfoIngest listeners portReuse peer now (info', acts) addr).1.addresses.lookup addr ∧
      (setInfoIngest listeners portReuse peer now (info, acts) addr).2 =
        (setInfoIngest listeners portReuse peer now (info', acts) addr).2 := by
  unfold setInfoIngest
  simp only [ingestAddress_eq, hl, hc]
  split_ifs <;> simp [hl]

/-- Ingesting another candidate first changes neither what ingesting `addr` writes nor
whether it queues a dial. -/
theorem setInfoIngest_after {addr addr' : Multiaddr} (h : addr ≠ addr') (info : PeerInfo) :
    (setInfoIngest listeners portReuse peer now
        ((setInfoIngest listeners portReuse peer now (info, []) addr').1, []) addr).1.addresses.lookup
          addr =
        (setInfoIngest listeners portReuse peer now (info, []) addr).1.addresses.lookup addr ∧
      (setInfoIngest listeners portReuse peer now
        ((setInfoIngest listeners portReuse peer now (info, []) addr').1, []) addr).2 =
        (setInfoIngest listeners portReuse peer now (info, []) addr).2 :=
  setInfoIngest_congr listeners portReuse peer now (setInfoIngest_lookup_of_ne _ _ _ _ _ h)
    (setInfoIngest_connections _ _ _ _ _ _) []

/-- Two distinct candidates in a row: each queues the dial it would queue alone. -/
theorem setInfoIngest_twice {addr addr' : Multiaddr} (h : addr ≠ addr') (info : PeerInfo)
    (acts : List NetworkBehaviourAction) :
    setInfoIngest listeners portReuse peer now
        (setInfoIngest listeners portReuse peer now (info, acts) addr) addr' =
      ((setInfoIngest listeners portReuse peer now
          ((setInfoIngest listeners portReuse peer now (info, []) addr).1, []) addr').1,
        acts ++ (setInfoIngest listeners portReuse peer now (info, []) addr).2 ++
          (setInfoIngest listeners portReuse peer now (info, []) addr').2) := by
  rw [setInfoIngest_append _ _ _ _ (setInfoIngest _ _ _ _ (info, acts) addr) addr',
    setInfoIngest_append _ _ _ _ (info, acts) addr]
  dsimp only
  rw [(setInfoIngest_after listeners portReuse peer now h.symm info).2]

end Ingest

end AddressBook

open AddressBook

variable {listeners : Finset Multiaddr} {portReuse : Bool} {peer : PeerId} {now : DateTime}

/-- The loop's step respects agreement up to order. -/
theorem LoopSameUpToOrder.ingest {acc acc' : PeerInfo × List NetworkBehaviourAction}
    (h : LoopSameUpToOrder acc acc') (addr : Multiaddr) :
    LoopSameUpToOrder (setInfoIngest listeners portReuse peer now acc addr)
      (setInfoIngest listeners portReuse peer now acc' addr) := by
  obtain ⟨info, acts⟩ := acc
  obtain ⟨_, acts'⟩ := acc'
  obtain ⟨⟨addresses, hl, rfl⟩, hp⟩ := h
  obtain ⟨hself, hdial⟩ := @setInfoIngest_congr listeners portReuse peer now info
    { info with addresses } addr (hl addr) rfl []
  obtain ⟨X, hX⟩ := setInfoIngest_fst listeners portReuse peer now info [] addr
  obtain ⟨X', hX'⟩ := setInfoIngest_fst listeners portReuse peer now { info with addresses } [] addr
  rw [setInfoIngest_append _ _ _ _ (info, acts), setInfoIngest_append _ _ _ _ (_, acts')]
  refine ⟨⟨X', fun a => ?_, by rw [hX, hX']⟩, hdial ▸ hp.append_right _⟩
  -- the candidate's own entry was written alike; every other entry was left as it was
  dsimp only
  rcases eq_or_ne a addr with rfl | ha
  · rw [hself, hX']
  · rw [← congrArg (fun i : PeerInfo => i.addresses.lookup a) hX',
      setInfoIngest_lookup_of_ne _ _ _ _ _ ha, setInfoIngest_lookup_of_ne _ _ _ _ _ ha]
    exact hl a

/-- **Two candidates commute.**  Ingesting two distinct candidates in either order leaves the
same record, up to the order of its address entries, and queues the same dials, up to their
order. -/
theorem LoopSameUpToOrder.ingest_comm (acc : PeerInfo × List NetworkBehaviourAction)
    {addr addr' : Multiaddr} (h : addr ≠ addr') :
    LoopSameUpToOrder
      (setInfoIngest listeners portReuse peer now
        (setInfoIngest listeners portReuse peer now acc addr) addr')
      (setInfoIngest listeners portReuse peer now
        (setInfoIngest listeners portReuse peer now acc addr') addr) := by
  obtain ⟨info, acts⟩ := acc
  have hself := (setInfoIngest_after listeners portReuse peer now h info).1
  have hself' := (setInfoIngest_after listeners portReuse peer now h.symm info).1
  obtain ⟨X, hX⟩ := setInfoIngest_fst listeners portReuse peer now
    (setInfoIngest listeners portReuse peer now (info, []) addr).1 [] addr'
  obtain ⟨X', hX'⟩ := setInfoIngest_fst listeners portReuse peer now
    (setInfoIngest listeners portReuse peer now (info, []) addr').1 [] addr
  obtain ⟨Y, hY⟩ := setInfoIngest_fst listeners portReuse peer now info [] addr
  obtain ⟨Y', hY'⟩ := setInfoIngest_fst listeners portReuse peer now info [] addr'
  rw [setInfoIngest_twice _ _ _ _ h, setInfoIngest_twice _ _ _ _ h.symm]
  refine ⟨⟨X', fun a => ?_, by rw [hX, hX', hY, hY']⟩, ?_⟩
  · -- each candidate's entry is the one its own step wrote; every other entry is the old one
    rw [← congrArg (fun i : PeerInfo => i.addresses.lookup a) hX']
    rcases eq_or_ne a addr with rfl | ha
    · rw [setInfoIngest_lookup_of_ne _ _ _ _ _ h, hself]
    rcases eq_or_ne a addr' with rfl | ha'
    · rw [setInfoIngest_lookup_of_ne _ _ _ _ _ ha, hself']
    rw [setInfoIngest_lookup_of_ne _ _ _ _ _ ha', setInfoIngest_lookup_of_ne _ _ _ _ _ ha,
      setInfoIngest_lookup_of_ne _ _ _ _ _ ha, setInfoIngest_lookup_of_ne _ _ _ _ _ ha']
  · -- the two dials are queued after the same prefix, in the other order
    rw [List.append_assoc, List.append_assoc]
    exact List.perm_append_comm.append_left acts

/-- **`set_info` does not depend on the order of its candidate set.**  For every book, record
and translations, ingesting the candidates in any order, as an `FnvHashSet` may iterate them,
leaves the same record, up to the order of its address entries, and queues the same dials,
up to their order, as the order the model picks. -/
theorem setInfo_order_irrelevant (b : AddressBook) (now : DateTime) (peer : PeerId)
    (info : PeerInfo) (ts : List Multiaddr) {l : List Multiaddr}
    (hl : l.Perm (candidates b.settings.enableLoopback info peer ts)) :
    (l.foldl (setInfoIngest b.listeners b.settings.portReuse peer now)
        (purgeIncoming info, b.actions)).1.SameUpToOrder (ingestCandidates b now peer info ts).1 ∧
      (l.foldl (setInfoIngest b.listeners b.settings.portReuse peer now)
        (purgeIncoming info, b.actions)).2.Perm (ingestCandidates b now peer info ts).2 :=
  hl.foldl_rel loopSameUpToOrder_equivalence (fun addr _ _ h => h.ingest addr)
    (fun _ _ h acc => LoopSameUpToOrder.ingest_comm acc h)
    (loopSameUpToOrder_equivalence.refl _)

/-- Peer 1 advertises two listen addresses; ingested in the other order, they leave the same
record and queue the same two dials. -/
theorem setInfo_order_irrelevant_two_listeners :
    let info : PeerInfo := { (default : PeerInfo) with
      listeners := [⟨[.ip4 ⟨10, 0, 0, 1⟩, .tcp 4001]⟩, ⟨[.ip4 ⟨10, 0, 0, 2⟩, .tcp 4001]⟩] }
    let b := AddressBook.new ⟨0⟩ false false false
    let l : List Multiaddr := [⟨[.ip4 ⟨10, 0, 0, 2⟩, .tcp 4001, .p2p (.peer ⟨1⟩)]⟩,
      ⟨[.ip4 ⟨10, 0, 0, 1⟩, .tcp 4001, .p2p (.peer ⟨1⟩)]⟩]
    l.Perm (candidates b.settings.enableLoopback info ⟨1⟩ []) ∧
      (l.foldl (setInfoIngest b.listeners b.settings.portReuse ⟨1⟩ 0)
          (purgeIncoming info, b.actions)).1.SameUpToOrder (ingestCandidates b 0 ⟨1⟩ info []).1 ∧
        (l.foldl (setInfoIngest b.listeners b.settings.portReuse ⟨1⟩ 0)
          (purgeIncoming info, b.actions)).2.Perm (ingestCandidates b 0 ⟨1⟩ info []).2 := by
  intro info b l
  have hl : l.Perm (candidates b.settings.enableLoopback info ⟨1⟩ []) := by decide
  exact ⟨hl, setInfo_order_irrelevant b 0 ⟨1⟩ info [] hl⟩

/-- The dials do come out in another order: agreement is up to order only. -/
example :
    (([⟨[.ip4 ⟨10, 0, 0, 2⟩, .tcp 4001, .p2p (.peer ⟨1⟩)]⟩, ⟨[.ip4 ⟨10, 0, 0, 1⟩, .tcp 4001, .p2p (.peer ⟨1⟩)]⟩] :
        List Multiaddr).foldl (setInfoIngest ∅ false ⟨1⟩ 0) (default, []) |>.2) ≠
      (([⟨[.ip4 ⟨10, 0, 0, 1⟩, .tcp 4001, .p2p (.peer ⟨1⟩)]⟩, ⟨[.ip4 ⟨10, 0, 0, 2⟩, .tcp 4001, .p2p (.peer ⟨1⟩)]⟩] :
        List Multiaddr).foldl (setInfoIngest ∅ false ⟨1⟩ 0) (default, []) |>.2) := by
  decide

end IpfsEmbed
