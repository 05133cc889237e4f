import IpfsEmbed.Properties.Sources

/-!
# What a failed dial changes

`inject_dial_failure` touches one record, that of the peer the failure is booked against
(`handler.peer_id()`, else the swarm's peer).  In that record it prepends one failure per
reported address, keeping ten, and it forgets a reported address only when the failure
settles a probe of an address that was only to be probed, or when the dial reached another
peer.  Everything else in the book's records is left as it was.

The record update is described by two relations that compose along the transport loop:
`RemovesOnly P` (some addresses are forgotten, each satisfying `P`, the others are unchanged)
and `KeepsFields` (every field but the addresses and the failures is unchanged).  Each of
`push_failure`, `validationFailureRecord` and `transportFailureRecord` gets one lemma per
relation and one for its failure list, and the frame of a whole call is assembled from them.
-/

namespace IpfsEmbed

namespace PeerInfo

/-- `info'` has the addresses of `info`, except that some for which `P` held are gone. -/
def RemovesOnly (P : Multiaddr → AddressSource → Prop) (info info' : PeerInfo) : Prop :=
  ∀ a, info'.addresses.lookup a = info.addresses.lookup a ∨
    (info'.addresses.lookup a = none ∧ ∃ s t, info.addresses.lookup a = some (s, t) ∧ P a s)

/-- `info'` keeps every field of `info` other than the addresses and the failures. -/
def KeepsFields (info info' : PeerInfo) : Prop :=
  info'.protocolVersion = info.protocolVersion ∧ info'.agentVersion = info.agentVersion ∧
    info'.protocols = info.protocols ∧ info'.listeners = info.listeners ∧
    info'.connections = info.connections ∧ info'.rtt = info.rtt

variable {P Q : Multiaddr → AddressSource → Prop} {info info' info'' : PeerInfo}

theorem RemovesOnly.refl (info : PeerInfo) : info.RemovesOnly P info :=
  fun _ => .inl rfl

theorem RemovesOnly.mono (h : info.RemovesOnly P info') (hPQ : ∀ a s, P a s → Q a s) :
    info.RemovesOnly Q info' := by
  intro a
  rcases h a with h | ⟨hnone, s, t, hs, hp⟩
  · exact .inl h
  · exact .inr ⟨hnone, s, t, hs, hPQ a s hp⟩

/-- Removals compose: an address gone after the second step was either gone after the first
or removed by the second, and in both cases it had its original entry until then. -/
theorem RemovesOnly.trans (h₁ : info.RemovesOnly P info') (h₂ : info'.RemovesOnly P info'') :
    info.RemovesOnly P info'' := by
  intro a
  rcases h₁ a with h₁ | ⟨hnone₁, s, t, hs, hp⟩
  · rcases h₂ a with h₂ | ⟨hnone₂, s, t, hs, hp⟩
    · exact .inl (h₂.trans h₁)
    · exact .inr ⟨hnone₂, s, t, h₁ ▸ hs, hp⟩
  · have hnone₂ : info''.addresses.lookup a = none := by
      rcases h₂ a with h₂ | ⟨h₂, -⟩
      · rw [h₂, hnone₁]
      · exact h₂
    exact .inr ⟨hnone₂, s, t, hs, hp⟩

theorem KeepsFields.refl (info : PeerInfo) : info.KeepsFields info :=
  ⟨rfl, rfl, rfl, rfl, rfl, rfl⟩

theorem KeepsFields.trans (h₁ : info.KeepsFields info') (h₂ : info'.KeepsFields info'') :
    info.KeepsFields info'' := by
  obtain ⟨h₁a, h₁b, h₁c, h₁d, h₁e, h₁f⟩ := h₁
  obtain ⟨h₂a, h₂b, h₂c, h₂d, h₂e, h₂f⟩ := h₂
  exact ⟨h₂a.trans h₁a, h₂b.trans h₁b, h₂c.trans h₁c, h₂d.trans h₁d, h₂e.trans h₁e,
    h₂f.trans h₁f⟩

theorem pushFailure_removesOnly (info : PeerInfo) (addr : Multiaddr) (f : ConnectionFailure)
    (probeResult : Bool) :
    info.RemovesOnly (fun a s => a = addr ∧ probeResult = true ∧ s.isToProbe = true)
      (info.pushFailure addr f probeResult) := by
  intro a
  rw [pushFailure_lookup]
  split_ifs with h
  · obtain ⟨rfl, hp, hany⟩ := h
    obtain ⟨⟨s, t⟩, hv, hs⟩ := (Option.any_eq_true _ _).1 hany
    exact .inr ⟨rfl, s, t, hv, rfl, hp, hs⟩
  · exact .inl rfl

theorem pushFailure_keepsFields (info : PeerInfo) (addr : Multiaddr) (f : ConnectionFailure)
    (probeResult : Bool) : info.KeepsFields (info.pushFailure addr f probeResult) :=
  ⟨rfl, rfl, rfl, rfl, rfl, rfl⟩

theorem erase_removesOnly (info : PeerInfo) (addr : Multiaddr) :
    info.RemovesOnly (fun a _ => a = addr)
      { info with addresses := info.addresses.erase addr } := by
  intro a
  simp only [AList.lookup_erase_eq_ite]
  split_ifs with h
  · cases ha : info.addresses.lookup a with
    | none => exact .inl rfl
    | some v => exact .inr ⟨rfl, v.1, v.2, rfl, h⟩
  · exact .inl rfl

/-- Pushing failures and trimming to ten at each push keeps the ten most recent. -/
theorem take_append_take (l m : List ConnectionFailure) (n : Nat) :
    (l ++ m.take n).take n = (l ++ m).take n := by
  rw [List.take_append, List.take_append, List.take_take]
  congr 2
  omega

end PeerInfo

namespace AddressBook

open PeerInfo

/-! ## The two record updates -/

/-- Whether a failure with `error` may forget a reported address filed under `s`: a wrong
peer forgets any address, a transport or connection I/O error one that was only to be
probed. -/
def forgets (error : DialError) (s : AddressSource) : Bool :=
  error.isWrongPeerId || ((error.isTransport || error.isConnectionIo) && s.isToProbe)

section Records

variable (now : DateTime) (info : PeerInfo)

theorem validationFailureRecord_removesOnly (addr : Multiaddr) (error : DialError) :
    info.RemovesOnly (fun a s => a = addr ∧ forgets error s = true)
      (validationFailureRecord info now addr error) := by
  -- `push_failure` settles a probe exactly when `forgets` may be true
  have hpush : ∀ a s, (a = addr ∧ (error.isTransport || error.isWrongPeerId ||
      error.isConnectionIo) = true ∧ s.isToProbe = true) → a = addr ∧ forgets error s = true := by
    rintro a s ⟨rfl, hp, hs⟩
    refine ⟨rfl, ?_⟩
    simp only [forgets, hs, Bool.and_true]
    revert hp
    cases error.isTransport <;> cases error.isWrongPeerId <;> cases error.isConnectionIo <;> decide
  unfold validationFailureRecord
  dsimp only
  split_ifs with hw
  · refine ((pushFailure_removesOnly _ _ _ _).mono hpush).trans ((erase_removesOnly _ _).mono ?_)
    rintro a s rfl
    exact ⟨rfl, by simp [forgets, hw]⟩
  · exact (pushFailure_removesOnly _ _ _ _).mono hpush

theorem validationFailureRecord_keepsFields (addr : Multiaddr) (error : DialError) :
    info.KeepsFields (validationFailureRecord info now addr error) := by
  unfold validationFailureRecord
  dsimp only
  -- the erase of a wrong peer's address rewrites the addresses only
  split_ifs <;> exact ⟨rfl, rfl, rfl, rfl, rfl, rfl⟩

theorem validationFailureRecord_failures (addr : Multiaddr) (error : DialError) :
    (validationFailureRecord info now addr error).failures =
      (ConnectionFailure.dial (withoutPeerId addr) now :: info.failures).take 10 := by
  unfold validationFailureRecord
  dsimp only
  split_ifs <;>
    exact pushFailure_failures info addr (ConnectionFailure.dial (withoutPeerId addr) now)
      (error.isTransport || error.isWrongPeerId || error.isConnectionIo)

variable (q : PeerId)

theorem transportFailureRecord_cons (ae : Multiaddr × TransportError)
    (v : List (Multiaddr × TransportError)) :
    transportFailureRecord now q info (ae :: v) =
      transportFailureRecord now q (info.pushFailure (normalizeAddrRef ae.1 q)
        (ConnectionFailure.transport (withoutPeerId ae.1) now) true) v :=
  rfl

theorem transportFailureRecord_removesOnly (v : List (Multiaddr × TransportError)) :
    info.RemovesOnly (fun a s => a ∈ v.map (fun ae => normalizeAddrRef ae.1 q) ∧
      s.isToProbe = true) (transportFailureRecord now q info v) := by
  induction v generalizing info with
  | nil => exact RemovesOnly.refl info
  | cons ae v ih =>
    rw [transportFailureRecord_cons]
    refine ((pushFailure_removesOnly _ _ _ _).mono ?_).trans ((ih _).mono ?_)
    · rintro a s ⟨rfl, -, hs⟩
      exact ⟨List.mem_cons_self, hs⟩
    · rintro a s ⟨ha, hs⟩
      exact ⟨List.mem_cons_of_mem _ ha, hs⟩

theorem transportFailureRecord_keepsFields (v : List (Multiaddr × TransportError)) :
    info.KeepsFields (transportFailureRecord now q info v) := by
  induction v generalizing info with
  | nil => exact KeepsFields.refl info
  | cons ae v ih =>
    rw [transportFailureRecord_cons]
    exact (pushFailure_keepsFields _ _ _ _).trans (ih _)

/-- The transport loop prepends one failure per reported address, the last one first, and
keeps ten. -/
theorem transportFailureRecord_failures (v : List (Multiaddr × TransportError)) :
    (transportFailureRecord now q info v).failures =
      ((v.map fun ae => ConnectionFailure.transport (withoutPeerId ae.1) now).reverse ++
        info.failures).take 10 := by
  induction v generalizing info with
  | nil =>
    rw [List.map_nil, List.reverse_nil, List.nil_append,
      List.take_of_length_le info.failures_length_le]
    rfl
  | cons ae v ih =>
    rw [transportFailureRecord_cons, ih, pushFailure_failures, take_append_take, List.map_cons,
      List.reverse_cons, List.append_assoc, List.singleton_append]

end Records

/-! ## The whole call -/

/-- The addresses a failed dial reports for the peer `q` it is booked against: the validated
address of our own dial, else the addresses of a transport error, named with `q`. -/
def failedAddresses (handler : IntoAddressHandler) (q : PeerId) (error : DialError) :
    List Multiaddr :=
  match handler.ownDial, error with
  | some (addr, _), _ => [addr]
  | none, .transport v => v.map fun ae => normalizeAddrRef ae.1 q
  | none, _ => []

/-- The record a failed dial leaves for the peer `q` it is booked against. -/
def dialFailureRecord (now : DateTime) (q : PeerId) (info : PeerInfo)
    (handler : IntoAddressHandler) (error : DialError) : PeerInfo :=
  match handler.ownDial, error with
  | some (addr, _), _ => validationFailureRecord info now addr error
  | none, .transport v => transportFailureRecord now q info v
  | none, _ => info

section Call

variable (b : AddressBook) (now : DateTime) (peerId : Option PeerId)
  (handler : IntoAddressHandler) (error : DialError) (rand : Nat → UInt32)

/-- The record of a peer the failure is not booked against, or of an unknown peer, is
unchanged. -/
theorem injectDialFailure_lookup_of_ne {p : PeerId}
    (hp : handler.peerId.or peerId ≠ some p ∨ b.peers.lookup p = none) :
    (b.injectDialFailure now peerId handler error rand).peers.lookup p = b.peers.lookup p := by
  rw [injectDialFailure_peers]
  rcases hq : handler.peerId.or peerId with _ | q
  · rfl
  dsimp only
  rcases hl : b.peers.lookup q with _ | info
  · rfl
  dsimp only
  -- the booked peer is known, so it is not `p`
  have hqp : p ≠ q := by
    rintro rfl
    rcases hp with hp | hp
    · exact hp hq
    · rw [hp] at hl
      cases hl
  rcases handler.ownDial with _ | ⟨addr, retries⟩
  · cases error <;> simp [AList.lookup_insert_ne hqp]
  · simp [AList.lookup_insert_ne hqp]

/-- The record of the peer the failure is booked against is `dialFailureRecord`. -/
theorem injectDialFailure_lookup_self {q : PeerId} {info : PeerInfo}
    (hq : handler.peerId.or peerId = some q) (hl : b.peers.lookup q = some info) :
    (b.injectDialFailure now peerId handler error rand).peers.lookup q =
      some (dialFailureRecord now q info handler error) := by
  rw [injectDialFailure_peers, hq]
  dsimp only
  rw [hl]
  dsimp only
  rcases hd : handler.ownDial with _ | ⟨addr, retries⟩
  · cases error <;> simp [dialFailureRecord, hd, hl]
  · simp [dialFailureRecord, hd]

end Call

section Record

variable (now : DateTime) (q : PeerId) (info : PeerInfo) (handler : IntoAddressHandler)
  (error : DialError)

theorem dialFailureRecord_removesOnly :
    info.RemovesOnly (fun a s => a ∈ failedAddresses handler q error ∧ forgets error s = true)
      (dialFailureRecord now q info handler error) := by
  unfold dialFailureRecord failedAddresses
  rcases handler.ownDial with _ | ⟨addr, retries⟩
  · cases error with
    | transport v =>
      -- a transport error settles the probe of every reported address
      refine (transportFailureRecord_removesOnly now info q v).mono ?_
      rintro a s ⟨ha, hs⟩
      exact ⟨ha, by simp [forgets, DialError.isTransport, hs]⟩
    | _ => exact RemovesOnly.refl info
  · refine (validationFailureRecord_removesOnly now info addr error).mono ?_
    rintro a s ⟨rfl, hs⟩
    exact ⟨List.mem_singleton_self a, hs⟩

theorem dialFailureRecord_keepsFields :
    info.KeepsFields (dialFailureRecord now q info handler error) := by
  unfold dialFailureRecord
  rcases handler.ownDial with _ | ⟨addr, retries⟩
  · cases error with
    | transport v => exact transportFailureRecord_keepsFields now info q v
    | _ => exact KeepsFields.refl info
  · exact validationFailureRecord_keepsFields now info addr error

/-- One failure per reported address, the last one first, and ten kept. -/
theorem dialFailureRecord_failures :
    (dialFailureRecord now q info handler error).failures =
      ((failedAddresses handler q error).reverse.map
        (fun a => ConnectionFailure.dial (withoutPeerId a) now) ++ info.failures).take 10 := by
  unfold dialFailureRecord failedAddresses
  rcases handler.ownDial with _ | ⟨addr, retries⟩
  · cases error with
    | transport v =>
      rw [transportFailureRecord_failures, List.map_reverse, List.map_map]
      -- the failure of a transport error strips the peer of the address as reported
      congr 4
      funext ae
      simp [ConnectionFailure.transport, ConnectionFailure.dial, withoutPeerId_normalizeAddrRef]
    | _ => exact (List.take_of_length_le info.failures_length_le).symm
  · exact validationFailureRecord_failures now info addr error

end Record

/-! ## What a failed dial queues -/

section Queues

variable (b : AddressBook)

theorem foldl_notify (es : List Event) : es.foldl notify b = { b with events := b.events ++ es } := by
  induction es generalizing b with
  | nil => simp
  | cons e es ih =>
    rw [List.foldl_cons, ih]
    simp [notify]

theorem foldl_deferAction_deferred (d : NetworkBehaviourAction × Nat → Duration)
    (l : List (NetworkBehaviourAction × Nat)) :
    (l.foldl (fun b ai => b.deferAction (d ai) ai.1) b).deferred =
      b.deferred ++ l.map fun ai => (d ai, ai.1) := by
  induction l generalizing b with
  | nil => simp
  | cons ai l ih =>
    rw [List.foldl_cons, ih]
    simp [deferAction]

theorem foldl_deferAction_actions (d : NetworkBehaviourAction × Nat → Duration)
    (l : List (NetworkBehaviourAction × Nat)) :
    (l.foldl (fun b ai => b.deferAction (d ai) ai.1) b).actions = b.actions := by
  induction l generalizing b with
  | nil => rfl
  | cons ai l ih =>
    rw [List.foldl_cons, ih]
    rfl

/-- The transport loop defers a redial of a reported address only, and only of one that failed
with a simultaneous open. -/
theorem mem_foldl_transportFailureStep_simOpen (keepAlive : Bool) (now : DateTime) (q : PeerId)
    (v : List (Multiaddr × TransportError)) (info : PeerInfo) (es : List Event)
    (ds : List NetworkBehaviourAction) {a : NetworkBehaviourAction}
    (ha : a ∈ (v.foldl (transportFailureStep keepAlive now q) (info, es, ds)).2.2) :
    a ∈ ds ∨ ∃ ae ∈ v, isSimOpen ae.2 = true ∧
      a = .dial ⟨q, .disconnected, [ae.1]⟩ ⟨some (ae.1, simOpenRetries), keepAlive⟩ := by
  induction v generalizing info es ds with
  | nil => exact .inl ha
  | cons ae v ih =>
    rcases ih _ _ _ ha with ha | ⟨x, hx, hs, rfl⟩
    · simp only at ha
      split_ifs at ha with hs
      · rcases List.mem_append.1 ha with ha | ha
        · exact .inl ha
        · exact .inr ⟨ae, List.mem_cons_self, hs, List.mem_singleton.1 ha⟩
      · exact .inl ha
    · exact .inr ⟨x, List.mem_cons_of_mem ae hx, hs, rfl⟩

theorem mem_foldl_transportFailureStep_deferred (keepAlive : Bool) (now : DateTime) (q : PeerId)
    (v : List (Multiaddr × TransportError)) (info : PeerInfo) (es : List Event)
    (ds : List NetworkBehaviourAction) {a : NetworkBehaviourAction}
    (ha : a ∈ (v.foldl (transportFailureStep keepAlive now q) (info, es, ds)).2.2) :
    a ∈ ds ∨ ∃ ae ∈ v, a = .dial ⟨q, .disconnected, [ae.1]⟩ ⟨some (ae.1, simOpenRetries), keepAlive⟩ :=
  (mem_foldl_transportFailureStep_simOpen keepAlive now q v info es ds ha).imp_right
    fun ⟨ae, hae, _, h⟩ => ⟨ae, hae, h⟩

/-- `inject_dial_failure` on our own validation dial defers at most the one redial. -/
theorem validationDialFailure_deferred (now : DateTime) (q : PeerId) (info : PeerInfo) (addr : Multiaddr)
    (retries : UInt8) (keepAlive : Bool) (error : DialError) (r : UInt32) :
    (b.validationDialFailure now q info addr retries keepAlive error r).deferred =
      b.deferred ++ if error.anySimOpen && retries > 0 then
        [(redialDelay r, .dial ⟨q, .disconnected, [addr]⟩ ⟨some (addr, retries - 1), keepAlive⟩)]
      else [] := by
  simp only [validationDialFailure, notify_deferred]
  split_ifs <;> simp [deferAction]

/-- `inject_dial_failure` on a transport error defers the redials of the loop, each after its
own delay. -/
theorem transportDialFailure_deferred (now : DateTime) (q : PeerId) (info : PeerInfo)
    (v : List (Multiaddr × TransportError)) (rand : Nat → UInt32) :
    (b.transportDialFailure now q info v rand).deferred =
      b.deferred ++ (v.foldl (transportFailureStep b.settings.keepAlive now q) (info, [], [])).2.2.zipIdx.map
        fun ai => (redialDelay (rand ai.2), ai.1) := by
  simp only [transportDialFailure, notify_deferred, foldl_deferAction_deferred]
  split_ifs <;> simp [foldl_notify]

theorem injectDialFailure_actions (now : DateTime) (peerId : Option PeerId)
    (handler : IntoAddressHandler) (error : DialError) (rand : Nat → UInt32) :
    (b.injectDialFailure now peerId handler error rand).actions = b.actions := by
  unfold injectDialFailure
  split
  · rfl
  split
  · rfl
  split
  · simp only [validationDialFailure]
    split_ifs <;> rfl
  · split
    · simp only [transportDialFailure, notify_actions]
      split_ifs <;> simp [foldl_deferAction_actions, foldl_notify]
    all_goals rfl

/-- **What a failed dial defers**: a redial of the validated address, for the booked peer,
with one retry fewer, or a redial of a reported address after a simultaneous open. -/
theorem mem_injectDialFailure_deferred (now : DateTime) (peerId : Option PeerId)
    (handler : IntoAddressHandler) (error : DialError) (rand : Nat → UInt32)
    {d : Duration × NetworkBehaviourAction}
    (hd : d ∈ (b.injectDialFailure now peerId handler error rand).deferred) :
    d ∈ b.deferred ∨ ∃ q, handler.peerId.or peerId = some q ∧
      ((∃ addr retries, handler.ownDial = some (addr, retries) ∧
        d.2 = .dial ⟨q, .disconnected, [addr]⟩ ⟨some (addr, retries - 1), handler.keepAlive⟩) ∨
      ∃ ae ∈ error.transportErrors, d.2 = .dial ⟨q, .disconnected, [ae.1]⟩
        ⟨some (ae.1, simOpenRetries), b.settings.keepAlive⟩) := by
  unfold injectDialFailure at hd
  rcases hq : handler.peerId.or peerId with _ | q
  · rw [hq] at hd
    exact .inl hd
  rw [hq] at hd
  dsimp only at hd
  rcases hl : b.peers.lookup q with _ | info
  · rw [hl] at hd
    exact .inl hd
  rw [hl] at hd
  dsimp only at hd
  rcases hown : handler.ownDial with _ | ⟨addr, retries⟩
  · rw [hown] at hd
    dsimp only at hd
    cases error with
    | transport v =>
      -- the redials of simultaneous opens, in the order the loop met them
      simp only [transportDialFailure, notify_deferred, foldl_deferAction_deferred] at hd
      split_ifs at hd <;> simp only [foldl_notify, notify_deferred, List.mem_append] at hd <;>
        rcases hd with hd | hd
      all_goals first
        | exact .inl hd
        | obtain ⟨ai, hai, rfl⟩ := List.mem_map.1 hd
          rcases mem_foldl_transportFailureStep_deferred _ _ _ _ _ _ _
            (List.fst_mem_of_mem_zipIdx hai) with h | ⟨ae, hae, hai⟩
          · cases h
          · exact .inr ⟨q, rfl, .inr ⟨ae, hae, hai⟩⟩
    | _ => all_goals first | exact .inl hd
  · rw [hown] at hd
    dsimp only at hd
    simp only [validationDialFailure, notify_deferred] at hd
    split_ifs at hd
    · rcases List.mem_append.1 hd with hd | hd
      · exact .inl hd
      · exact .inr ⟨q, rfl, .inl ⟨addr, retries, rfl, by rw [List.mem_singleton.1 hd]⟩⟩
    · exact .inl hd

end Queues

/-- **A failed dial changes one record, and only as reported.**  The book's record of every
peer other than the one the failure is booked against (`handler.peer_id()`, else the swarm's
peer) is unchanged, and so is an unknown peer's.  The booked peer's record keeps every field
but its addresses and failures; it gains one failure per reported address, the last one
first, ten kept; and it loses only reported addresses, each of them only when the error is a
wrong peer, or a transport or connection I/O error and the address was only to be probed. -/
theorem injectDialFailure_frame (b : AddressBook) (now : DateTime) (peerId : Option PeerId)
    (handler : IntoAddressHandler) (error : DialError) (rand : Nat → UInt32) :
    (∀ p, (handler.peerId.or peerId ≠ some p ∨ b.peers.lookup p = none) →
      (b.injectDialFailure now peerId handler error rand).peers.lookup p = b.peers.lookup p) ∧
    ∀ q info, handler.peerId.or peerId = some q → b.peers.lookup q = some info →
      ∃ info', (b.injectDialFailure now peerId handler error rand).peers.lookup q = some info' ∧
        info.KeepsFields info' ∧
        info'.failures = ((failedAddresses handler q error).reverse.map
          (fun a => ConnectionFailure.dial (withoutPeerId a) now) ++ info.failures).take 10 ∧
        info.RemovesOnly (fun a s => a ∈ failedAddresses handler q error ∧ forgets error s = true)
          info' := by
  refine ⟨fun p hp => injectDialFailure_lookup_of_ne b now peerId handler error rand hp, ?_⟩
  intro q info hq hl
  exact ⟨_, injectDialFailure_lookup_self b now peerId handler error rand hq hl,
    dialFailureRecord_keepsFields now q info handler error,
    dialFailureRecord_failures now q info handler error,
    dialFailureRecord_removesOnly now q info handler error⟩

/-- Peer `1` with a listen address whose dial by the swarm failed at the transport. -/
theorem injectDialFailure_frame_transport :
    ∃ info info', ((AddressBook.new ⟨0⟩ false false false).addAddress 0 ⟨1⟩
        ⟨[.ip4 ⟨1, 2, 3, 4⟩, .tcp 4001]⟩ .listen).peers.lookup ⟨1⟩ = some info ∧
      (((AddressBook.new ⟨0⟩ false false false).addAddress 0 ⟨1⟩
        ⟨[.ip4 ⟨1, 2, 3, 4⟩, .tcp 4001]⟩ .listen).injectDialFailure 5 (some ⟨1⟩) ⟨none, false⟩
          (.transport [(⟨[.ip4 ⟨1, 2, 3, 4⟩, .tcp 4001]⟩, .other .other)]) fun _ => 0).peers.lookup
        ⟨1⟩ = some info' ∧
      info.KeepsFields info' := by
  obtain ⟨info', h, hk, -, -⟩ := (injectDialFailure_frame
    ((AddressBook.new ⟨0⟩ false false false).addAddress 0 ⟨1⟩
      ⟨[.ip4 ⟨1, 2, 3, 4⟩, .tcp 4001]⟩ .listen) 5 (some ⟨1⟩) ⟨none, false⟩
    (.transport [(⟨[.ip4 ⟨1, 2, 3, 4⟩, .tcp 4001]⟩, .other .other)]) fun _ => 0).2 ⟨1⟩ _ rfl rfl
  exact ⟨_, info', rfl, h, hk⟩

/-- An address that was not only to be probed (`Dial`, `User` or `Incoming`) survives every
failed dial but one that reached another peer. -/
theorem injectDialFailure_keeps_unprobed (b : AddressBook) (now : DateTime)
    (peerId : Option PeerId) (handler : IntoAddressHandler) {error : DialError}
    (rand : Nat → UInt32) (hw : error.isWrongPeerId = false) {q : PeerId} {info : PeerInfo}
    (hl : b.peers.lookup q = some info) {a : Multiaddr} {s : AddressSource} {t : DateTime}
    (ha : info.addresses.lookup a = some (s, t)) (hs : s.isToProbe = false) :
    ∃ info', (b.injectDialFailure now peerId handler error rand).peers.lookup q = some info' ∧
      info'.addresses.lookup a = some (s, t) := by
  by_cases hq : handler.peerId.or peerId = some q
  · refine ⟨_, injectDialFailure_lookup_self b now peerId handler error rand hq hl, ?_⟩
    rcases dialFailureRecord_removesOnly now q info handler error a with h | ⟨-, s', t', hs', -, hf⟩
    · rw [h, ha]
    · -- the address could only go if the failure forgot it, and it forgets nothing here
      rw [ha, Option.some.injEq, Prod.mk.injEq] at hs'
      rw [← hs'.1] at hf
      simp [forgets, hw, hs] at hf
  · exact ⟨info, by rw [injectDialFailure_lookup_of_ne b now peerId handler error rand (.inl hq), hl], ha⟩

/-- Peer `1`'s user address survives a failed dial of it at the transport. -/
theorem injectDialFailure_keeps_unprobed_user :
    ∃ info', (((AddressBook.new ⟨0⟩ false false false).addAddress 0 ⟨1⟩
        ⟨[.ip4 ⟨1, 2, 3, 4⟩, .tcp 4001]⟩ .user).injectDialFailure 5 (some ⟨1⟩) ⟨none, false⟩
          (.transport [(⟨[.ip4 ⟨1, 2, 3, 4⟩, .tcp 4001, .p2p (.peer ⟨1⟩)]⟩, .other .other)])
          fun _ => 0).peers.lookup ⟨1⟩ = some info' ∧
      info'.addresses.lookup ⟨[.ip4 ⟨1, 2, 3, 4⟩, .tcp 4001, .p2p (.peer ⟨1⟩)]⟩ = some (.user, 0) :=
  injectDialFailure_keeps_unprobed _ 5 (some ⟨1⟩) ⟨none, false⟩ (fun _ => 0) rfl rfl rfl rfl

end AddressBook

end IpfsEmbed
