import IpfsEmbed.Properties.DialFailure

/-!
# What the book reports of a failed dial

`inject_dial_failure` tells the subscribers about a failure booked against a peer it knows.
Our own validation dial is reported with `DialFailure` for the validated address; a dial that
was not ours and failed in the transport, with one `DialFailure` per address the transport
tried, as reported.  `Unreachable` says that the book gives up on the peer: it is sent for a
dial that was not ours, unless the dial condition was false, the peer is banned or it is the
local peer, and only when no redial was scheduled; a transport failure with a simultaneous
open is redialled instead.

The result of this module states this for every call: the call only appends to the event log,
and appends nothing for a failure booked against no peer or an unknown one; its `DialFailure`
events are exactly those of the reported addresses; it sends `Unreachable` exactly when it gives
up; and a transport failure of a dial that was not ours defers one redial per address that
failed with a simultaneous open.
-/

namespace IpfsEmbed

/-- The errors `inject_dial_failure` passes over in silence when the dial was not ours: the dial
condition was false, the peer is banned, or it is the local peer. -/
def DialError.isQuiet : DialError → Bool
  | .dialPeerConditionFalse _ | .banned | .localPeerId => true
  | _ => false

/-- The addresses a failed dial reports to the subscribers: the validated address of our own
dial, else the addresses of a transport error, as the swarm gives them. -/
def reportedAddresses (handler : IntoAddressHandler) (error : DialError) : List Multiaddr :=
  match handler.ownDial with
  | some (addr, _) => [addr]
  | none => error.transportErrors.map (·.1)

namespace AddressBook

variable (b : AddressBook) (now : DateTime)

/-- The transport loop collects one `DialFailure` per address and one redial per simultaneous
open, in the order of the addresses. -/
theorem foldl_transportFailureStep_snd (keepAlive : Bool) (q : PeerId)
    (v : List (Multiaddr × TransportError)) (info : PeerInfo) (es : List Event)
    (ds : List NetworkBehaviourAction) :
    (v.foldl (transportFailureStep keepAlive now q) (info, es, ds)).2 =
      (es ++ v.map (fun ae => .dialFailure q ae.1),
        ds ++ (v.filter fun ae => isSimOpen ae.2).map fun ae =>
          .dial ⟨q, .disconnected, [ae.1]⟩ ⟨some (ae.1, simOpenRetries), keepAlive⟩) := by
  induction v generalizing info es ds with
  | nil => simp
  | cons ae v ih =>
    rw [List.foldl_cons, transportFailureStep, ih]
    -- the address's redial is queued exactly when it failed with a simultaneous open
    by_cases hs : isSimOpen ae.2 = true <;> simp [hs]

theorem foldl_deferAction_events (d : NetworkBehaviourAction × Nat → Duration)
    (l : List (NetworkBehaviourAction × Nat)) :
    (l.foldl (fun b ai => b.deferAction (d ai) ai.1) b).events = b.events := by
  induction l generalizing b with
  | nil => rfl
  | cons ai l ih =>
    rw [List.foldl_cons, ih]
    rfl

/-- Our own validation dial is reported with its address, then with the new record. -/
theorem validationDialFailure_events (q : PeerId) (info : PeerInfo) (addr : Multiaddr)
    (retries : UInt8) (keepAlive : Bool) (error : DialError) (r : UInt32) :
    (b.validationDialFailure now q info addr retries keepAlive error r).events =
      b.events ++ [.dialFailure q addr, .newInfo q] := by
  simp only [validationDialFailure, notify_events]
  split_ifs <;> simp [deferAction]

/-- A transport failure is reported address by address, then with `Unreachable` when no
address failed with a simultaneous open, then with the new record. -/
theorem transportDialFailure_events (q : PeerId) (info : PeerInfo)
    (v : List (Multiaddr × TransportError)) (rand : Nat → UInt32) :
    (b.transportDialFailure now q info v rand).events =
      b.events ++ (v.map (fun ae => .dialFailure q ae.1) ++
        (if v.any (fun ae => isSimOpen ae.2) then [] else [.unreachable q]) ++ [.newInfo q]) := by
  simp only [transportDialFailure, notify_events, foldl_deferAction_events,
    foldl_transportFailureStep_snd]
  -- no redial is due exactly when no address failed with a simultaneous open
  by_cases hs : v.any (fun ae => isSimOpen ae.2) = true
  · have hne : (v.filter fun ae => isSimOpen ae.2) ≠ [] := by
      obtain ⟨ae, hae, hs⟩ := List.any_eq_true.1 hs
      exact List.ne_nil_of_mem (List.mem_filter.2 ⟨hae, hs⟩)
    simp [hs, hne, foldl_notify]
  · have hnil : (v.filter fun ae => isSimOpen ae.2) = [] :=
      List.filter_eq_nil_iff.2 fun ae hae hs' => hs (List.any_eq_true.2 ⟨ae, hae, hs'⟩)
    simp [hs, hnil, foldl_notify]

/-- A transport failure defers nothing exactly when no address failed with a simultaneous
open. -/
theorem transportDialFailure_deferred_eq_iff (q : PeerId) (info : PeerInfo)
    (v : List (Multiaddr × TransportError)) (rand : Nat → UInt32) :
    (b.transportDialFailure now q info v rand).deferred = b.deferred ↔
      v.any (fun ae => isSimOpen ae.2) = false := by
  rw [transportDialFailure_deferred, foldl_transportFailureStep_snd]
  simp only [List.nil_append, List.append_right_eq_self, List.map_eq_nil_iff,
    List.zipIdx_eq_nil_iff, List.filter_eq_nil_iff, List.any_eq_false]

/-- A condition on `p` that asks for the known peer `q` the failure is booked against asks
that `p = q`. -/
theorem booked_iff {q p : PeerId} {info : PeerInfo} (hl : b.peers.lookup q = some info) (R : Prop) :
    (some q = some p ∧ (b.peers.lookup p).isSome = true ∧ R) ↔ (p = q ∧ R) := by
  constructor
  · rintro ⟨hqp, -, hr⟩
    exact ⟨(Option.some.inj hqp).symm, hr⟩
  · rintro ⟨rfl, hr⟩
    exact ⟨rfl, by simp [hl], hr⟩

end AddressBook

open AddressBook

/-- **What a failed dial reports.**  For every book and every failure, `inject_dial_failure`
only appends to the event log, and appends nothing for a failure booked against no peer or an
unknown one.  It sends `DialFailure(p, a)` exactly when the failure is booked against `p`, `p`
is known, and `a` is a reported address: the one our validation dial validated, or one the
transport tried.  It sends `Unreachable(p)` exactly when the failure is booked against a known
`p`, the dial was not ours, the error is not one it passes over, and no redial was scheduled.
A transport failure of a dial that was not ours defers one redial of the peer per address that
failed with a simultaneous open, in the order of the addresses. -/
theorem dial_failure_reported (b : AddressBook) (now : DateTime) (peerId : Option PeerId)
    (handler : IntoAddressHandler) (error : DialError) (rand : Nat → UInt32) :
    ∃ new, (b.injectDialFailure now peerId handler error rand).events = b.events ++ new ∧
      ((∀ q, handler.peerId.or peerId = some q → b.peers.lookup q = none) → new = []) ∧
      (∀ p a, Event.dialFailure p a ∈ new ↔ handler.peerId.or peerId = some p ∧
        (b.peers.lookup p).isSome ∧ a ∈ reportedAddresses handler error) ∧
      (∀ p, Event.unreachable p ∈ new ↔ handler.peerId.or peerId = some p ∧
        (b.peers.lookup p).isSome ∧ handler.ownDial = none ∧ error.isQuiet = false ∧
        (b.injectDialFailure now peerId handler error rand).deferred = b.deferred) ∧
      ∀ q v, handler.peerId.or peerId = some q → (b.peers.lookup q).isSome →
        handler.ownDial = none → error = .transport v →
        ∃ ds, (b.injectDialFailure now peerId handler error rand).deferred = b.deferred ++ ds ∧
          ds.map (·.2) = (v.filter fun ae => isSimOpen ae.2).map fun ae =>
            .dial ⟨q, .disconnected, [ae.1]⟩ ⟨some (ae.1, simOpenRetries), b.settings.keepAlive⟩ := by
  unfold injectDialFailure
  rcases hq : handler.peerId.or peerId with _ | q
  · -- booked against no peer: nothing happens
    exact ⟨[], by simp, fun _ => rfl, by simp, by simp, by simp⟩
  dsimp only
  rcases hl : b.peers.lookup q with _ | info
  · -- an unknown peer: nothing happens
    refine ⟨[], by simp, fun _ => rfl, fun p a => ?_, fun p => ?_, ?_⟩
    · simp only [List.not_mem_nil, false_iff, not_and]
      rintro ⟨⟩
      simp [hl]
    · simp only [List.not_mem_nil, false_iff, not_and]
      rintro ⟨⟩
      simp [hl]
    · rintro _ _ ⟨⟩
      simp [hl]
  dsimp only
  -- the failure is booked against the known peer `q`: every condition on `p` says `p = q`
  have hknown : (∀ q', some q = some q' → b.peers.lookup q' = none) → False :=
    fun h => absurd (h q rfl) (by simp [hl])
  simp only [booked_iff b hl]
  rcases hown : handler.ownDial with _ | ⟨addr, retries⟩
  · cases error with
    | transport v =>
      refine ⟨_, transportDialFailure_events b now q info v rand, fun h => absurd h hknown,
        fun p a => ?_, fun p => ?_, ?_⟩
      · rcases eq_or_ne p q with rfl | hp
        · simp [reportedAddresses, hown, DialError.transportErrors]
        · simp [hp, Ne.symm hp]
      · rw [transportDialFailure_deferred_eq_iff]
        rcases eq_or_ne p q with rfl | hp
        · by_cases hs : v.any (fun ae => isSimOpen ae.2) = true <;> simp [hs, DialError.isQuiet]
        · simp [hp]
      · -- one redial per address with a simultaneous open, each after its own delay
        rintro _ _ ⟨⟩ - - ⟨⟩
        refine ⟨_, transportDialFailure_deferred b now q info v rand, ?_⟩
        rw [foldl_transportFailureStep_snd, List.nil_append, List.map_map]
        -- the delays are paired with the redials; dropping them gives the redials back
        exact List.zipIdx_map_fst 0 _
    | dialPeerConditionFalse _ | banned | localPeerId =>
      exact ⟨[], by simp, fun _ => rfl, by simp [reportedAddresses, hown, DialError.transportErrors],
        by simp [DialError.isQuiet], by rintro _ _ ⟨⟩ - - ⟨⟩⟩
    | _ =>
      exact ⟨[.unreachable q], by simp, fun h => absurd h hknown,
        by simp [reportedAddresses, hown, DialError.transportErrors], by simp [DialError.isQuiet],
        by rintro _ _ ⟨⟩ - - ⟨⟩⟩
  · -- our own validation dial
    refine ⟨_, validationDialFailure_events b now q info addr retries _ error _,
      fun h => absurd h hknown, fun p a => ?_, fun p => ?_, by rintro _ _ ⟨⟩ - ⟨⟩⟩
    · simp [reportedAddresses, hown]
    · simp

/-- A dial of peer 1 that was not ours fails in the transport at two addresses, one of them with
a simultaneous open: both are reported, and the peer is not declared unreachable, as it is
redialled. -/
theorem dial_failure_reported_simOpen :
    let b := (AddressBook.new ⟨0⟩ false false false).addAddress 0 ⟨1⟩
      ⟨[.ip4 ⟨10, 0, 0, 1⟩, .tcp 4001]⟩ .user
    let v : List (Multiaddr × TransportError) := [(⟨[.ip4 ⟨10, 0, 0, 1⟩, .tcp 4001]⟩, .other .other),
      (⟨[.ip4 ⟨10, 0, 0, 2⟩, .tcp 4001]⟩, .other (.dnsTransport (.noiseIo .invalidData)))]
    ∃ new ds, (b.injectDialFailure 1 (some ⟨1⟩) ⟨none, false⟩ (.transport v) (fun _ => 0)).events =
        b.events ++ new ∧
      Event.dialFailure ⟨1⟩ ⟨[.ip4 ⟨10, 0, 0, 2⟩, .tcp 4001]⟩ ∈ new ∧ Event.unreachable ⟨1⟩ ∉ new ∧
      (b.injectDialFailure 1 (some ⟨1⟩) ⟨none, false⟩ (.transport v) (fun _ => 0)).deferred =
        b.deferred ++ ds ∧
      ds.map (·.2) = [.dial ⟨⟨1⟩, .disconnected, [⟨[.ip4 ⟨10, 0, 0, 2⟩, .tcp 4001]⟩]⟩
        ⟨some (⟨[.ip4 ⟨10, 0, 0, 2⟩, .tcp 4001]⟩, simOpenRetries), false⟩] := by
  intro b v
  obtain ⟨new, he, -, hd, hu, hr⟩ := dial_failure_reported b 1 (some ⟨1⟩) ⟨none, false⟩
    (.transport v) (fun _ => 0)
  obtain ⟨ds, hds, hmap⟩ := hr ⟨1⟩ v rfl rfl rfl rfl
  refine ⟨new, ds, he, (hd _ _).2 ⟨rfl, rfl, by decide⟩, fun h => ?_, hds, hmap.trans (by decide)⟩
  -- the simultaneous open was redialled
  have hdef := ((hu _).1 h).2.2.2.2
  exact absurd hdef (by decide)

end IpfsEmbed
