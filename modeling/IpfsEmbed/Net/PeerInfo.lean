import IpfsEmbed.Framework.FinMap
import IpfsEmbed.Net.Multiaddr
import Mathlib.Order.Basic
import Mathlib.Order.Lattice

/-!
# What the node knows about one peer (`src/net/peer_info.rs`)

A `PeerInfo` records a peer's Identify data, the addresses we know for it with the
`AddressSource` each came from, its open connections keyed by remote address, its ten most
recent connection failures and its round-trip statistics.

Time is a number of nanoseconds: `DateTime<Utc>` values come from `Utc::now()`, which every
operation takes as an argument, and a `Duration` is a length of time.  `diff_time` clamps a
negative difference to zero, which is truncated subtraction.

`AddressSource` derives `PartialOrd`/`Ord` in Rust, so sources are ordered by declaration:
`Incoming < Listen < Kad < Mdns < Candidate < User < Dial`.  The classification functions
`is_confirmed`, `is_to_probe` and `is_to_translate` are intervals of that order
(`isConfirmed_iff`, `isToProbe_iff`, `isToTranslate_iff`), which is what makes a source
that only rises keep an address confirmed.

The failure queue is a `VecDeque` that only `push_failure` writes: it drops the oldest entry
when nine or more are held, then pushes at the front.  The structure carries the bound of
ten that this maintains, so a record with more failures cannot be built.  The display and
debug texts of a failure, formatted from libp2p's error types, are not modelled; its kind,
address and time are.
-/

namespace IpfsEmbed

/-- `DateTime<Utc>`, in nanoseconds. -/
abbrev DateTime := Nat

/-- `std::time::Duration`, in nanoseconds. -/
abbrev Duration := Nat

/-- `Duration::from_secs`. -/
def Duration.fromSecs (s : Nat) : Duration :=
  s * 1000000000

/-- `diff_time(former, latter)`: the time from `former` to `latter`, or zero if negative. -/
def diffTime (former latter : DateTime) : Duration :=
  latter - former

/-! ## Address sources -/

/-- Where an address of a peer came from (`AddressSource`), in declaration order. -/
inductive AddressSource
  | incoming
  | listen
  | kad
  | mdns
  | candidate
  | user
  | dial
  deriving DecidableEq, Repr

namespace AddressSource

/-- The declaration index, which the derived `Ord` compares. -/
def rank : AddressSource → Nat
  | incoming => 0
  | listen => 1
  | kad => 2
  | mdns => 3
  | candidate => 4
  | user => 5
  | dial => 6

theorem rank_injective : Function.Injective rank := by
  intro a b h
  cases a <;> cases b <;> simp_all [rank]

instance : LinearOrder AddressSource :=
  LinearOrder.lift' rank rank_injective

/-- `AddressSource::is_confirmed`. -/
def isConfirmed : AddressSource → Bool
  | dial | user | candidate => true
  | _ => false

/-- `AddressSource::is_to_probe`. -/
def isToProbe : AddressSource → Bool
  | listen | kad | mdns | candidate => true
  | _ => false

/-- `AddressSource::is_to_translate`. -/
def isToTranslate : AddressSource → Bool
  | incoming => true
  | _ => false

theorem isConfirmed_iff (s : AddressSource) : s.isConfirmed = true ↔ candidate ≤ s := by
  cases s <;> decide

theorem isToProbe_iff (s : AddressSource) :
    s.isToProbe = true ↔ listen ≤ s ∧ s ≤ candidate := by
  cases s <;> decide

theorem isToTranslate_iff (s : AddressSource) : s.isToTranslate = true ↔ s = incoming := by
  cases s <;> decide

/-- Confirmed sources are closed upwards: raising a confirmed source keeps it confirmed. -/
theorem isConfirmed_mono {s t : AddressSource} (hst : s ≤ t) (hs : s.isConfirmed = true) :
    t.isConfirmed = true :=
  (isConfirmed_iff t).2 (le_trans ((isConfirmed_iff s).1 hs) hst)

theorem incoming_le (s : AddressSource) : incoming ≤ s := by
  cases s <;> decide

end AddressSource

/-- `Direction`, taken from the connected point (`From<&ConnectedPoint>`). -/
inductive Direction
  | inbound
  | outbound
  deriving DecidableEq, Repr

/-- `Direction::from`. -/
def Direction.ofConnectedPoint : ConnectedPoint → Direction
  | .dialer _ _ => .outbound
  | .listener _ _ => .inbound

/-! ## Connection failures -/

/-- `ConnectionFailureKind`. -/
inductive ConnectionFailureKind
  | dialError
  | peerDisconnected
  | weDisconnected
  deriving DecidableEq, Repr

/-- A connection failure as `PeerInfo` keeps it: its kind, address and time. -/
structure ConnectionFailure where
  kind : ConnectionFailureKind
  addr : Multiaddr
  time : DateTime
  deriving DecidableEq, Repr

/-- `without_peer` of `peer_info.rs`, the same function as `without_peer_id`. -/
def withoutPeer (a : Multiaddr) : Multiaddr :=
  withoutPeerId a

namespace ConnectionFailure

/-- `ConnectionFailure::dial`. -/
def dial (addr : Multiaddr) (now : DateTime) : ConnectionFailure :=
  ⟨.dialError, withoutPeer addr, now⟩

/-- `ConnectionFailure::transport`. -/
def transport (addr : Multiaddr) (now : DateTime) : ConnectionFailure :=
  ⟨.dialError, withoutPeer addr, now⟩

/-- `ConnectionFailure::us`. -/
def us (addr : Multiaddr) (now : DateTime) : ConnectionFailure :=
  ⟨.weDisconnected, addr, now⟩

/-- `ConnectionFailure::them`. -/
def them (addr : Multiaddr) (now : DateTime) : ConnectionFailure :=
  ⟨.peerDisconnected, addr, now⟩

end ConnectionFailure

/-! ## Round-trip statistics -/

/-- `Rtt`: the last sample, two moving averages and the failure statistics.  `failures` is the
`u32` of the source, whose `+= 1` wraps in a release build; `failure_rate`, also a `u32`, never
exceeds `1_000_000` (`Rtt.Bounded`), so its arithmetic never overflows and a `Nat` is exact. -/
structure Rtt where
  current : Duration
  decay3 : Duration
  decay10 : Duration
  failures : UInt32
  failureRate : Nat
  deriving DecidableEq, Repr

namespace Rtt

/-- `Rtt::new`. -/
def new (current : Duration) : Rtt :=
  ⟨current, current, current, 0, 0⟩

/-- `Rtt::register`. -/
def register (r : Rtt) (current : Duration) : Rtt :=
  { current
    decay3 := r.decay3 * 7 / 10 + current * 3 / 10
    decay10 := r.decay10 * 9 / 10 + current / 10
    failures := 0
    failureRate := r.failureRate * 99 / 100 }

/-- `Rtt::register_failure`. -/
def registerFailure (r : Rtt) : Rtt :=
  { r with
    failures := r.failures + 1
    failureRate := r.failureRate * 99 / 100 + 10000 }

end Rtt

/-! ## The record of a peer -/

/-- `PeerInfo`. -/
structure PeerInfo where
  protocolVersion : Option String
  agentVersion : Option String
  protocols : List String
  listeners : List Multiaddr
  addresses : AList (fun _ : Multiaddr => AddressSource × DateTime)
  connections : AList (fun _ : Multiaddr => DateTime × Direction)
  /-- Most recent first. -/
  failures : List ConnectionFailure
  failures_length_le : failures.length ≤ 10
  rtt : Option Rtt

/-- `PeerInfo::default()`. -/
instance : Inhabited PeerInfo :=
  ⟨{ protocolVersion := none, agentVersion := none, protocols := [], listeners := [],
     addresses := ∅, connections := ∅, failures := [], failures_length_le := by simp,
     rtt := none }⟩

namespace PeerInfo

@[simp] theorem default_connections : (default : PeerInfo).connections = ∅ := rfl

/-- `PeerInfo::set_rtt`: a sample updates the statistics, a failure is counted only once
there are statistics. -/
def setRtt (info : PeerInfo) (rtt : Option Duration) : PeerInfo :=
  match rtt, info.rtt with
  | some duration, some r => { info with rtt := some (r.register duration) }
  | some duration, none => { info with rtt := some (Rtt.new duration) }
  | none, some r => { info with rtt := some r.registerFailure }
  | none, none => info

@[simp] theorem setRtt_addresses (info : PeerInfo) (rtt : Option Duration) :
    (info.setRtt rtt).addresses = info.addresses := by
  unfold setRtt
  split <;> rfl

@[simp] theorem setRtt_connections (info : PeerInfo) (rtt : Option Duration) :
    (info.setRtt rtt).connections = info.connections := by
  unfold setRtt
  split <;> rfl

/-- A sample updates the statistics there are, or starts them. -/
theorem setRtt_some_rtt (info : PeerInfo) (d : Duration) :
    (info.setRtt (some d)).rtt = some ((info.rtt.map (·.register d)).getD (Rtt.new d)) := by
  unfold setRtt
  cases info.rtt <;> rfl

/-- A failure is counted only in statistics there are. -/
theorem setRtt_none_rtt (info : PeerInfo) : (info.setRtt none).rtt = info.rtt.map Rtt.registerFailure := by
  unfold setRtt
  cases h : info.rtt
  · exact h
  · rfl

/-- The queue before `push_failure` adds the new failure: the oldest entry is dropped when more
than nine are held. -/
def trimFailures (fs : List ConnectionFailure) : List ConnectionFailure :=
  if fs.length > 9 then fs.dropLast else fs

theorem trimFailures_length_le {fs : List ConnectionFailure} (h : fs.length ≤ 10) :
    (trimFailures fs).length ≤ 9 := by
  unfold trimFailures
  split
  · simp only [List.length_dropLast]
    omega
  · omega

/-- `PeerInfo::push_failure`: record `f` as the most recent failure, and when the failure
settles a probe (`probe_result`) forget `addr` if it was only to be probed. -/
def pushFailure (info : PeerInfo) (addr : Multiaddr) (f : ConnectionFailure)
    (probeResult : Bool) : PeerInfo :=
  { info with
    addresses :=
      if probeResult && (info.addresses.lookup addr).any (fun v => v.1.isToProbe) then
        info.addresses.erase addr
      else info.addresses
    failures := f :: trimFailures info.failures
    failures_length_le := by
      have := trimFailures_length_le info.failures_length_le
      simp only [List.length_cons]
      omega }

/-- `confirmed_addresses().next().is_some()`: some address has a confirmed source. -/
def hasConfirmed (info : PeerInfo) : Bool :=
  info.addresses.entries.any (fun e => e.2.1.isConfirmed)

/-- `PeerInfo::confirmed_addresses`. -/
def confirmedAddresses (info : PeerInfo) : List Multiaddr :=
  (info.addresses.entries.filter (fun e => e.2.1.isConfirmed)).map (·.1)

/-- `PeerInfo::addresses_to_translate`. -/
def addressesToTranslate (info : PeerInfo) : List Multiaddr :=
  (info.addresses.entries.filter (fun e => e.2.1.isToTranslate)).map (·.1)

/-- `PeerInfo::ingest_address`: file `addr` under `source`, raising an existing source but
never lowering it, and refresh its timestamp.  The result says whether the address is new
or newly raised to a source that calls for probing. -/
def ingestAddress (info : PeerInfo) (now : DateTime) (addr : Multiaddr)
    (source : AddressSource) : PeerInfo × Bool :=
  match info.addresses.lookup addr with
  | some (src, _) =>
    match compare source src with
    | .lt => ({ info with addresses := info.addresses.insert addr (src, now) }, false)
    | .eq => ({ info with addresses := info.addresses.insert addr (src, now) }, false)
    | .gt => ({ info with addresses := info.addresses.insert addr (source, now) },
        source.isToProbe)
  | none => ({ info with addresses := info.addresses.insert addr (source, now) },
      source.isToProbe)

/-! ## What `ingest_address` does -/

/-- The source `ingest_address` leaves on an address whose entry was `old`. -/
def ingestedSource (source : AddressSource) : Option (AddressSource × DateTime) → AddressSource
  | none => source
  | some (src, _) => max src source

/-- The result of `ingest_address` on an address whose entry was `old`. -/
def ingestResult (source : AddressSource) : Option (AddressSource × DateTime) → Bool
  | none => source.isToProbe
  | some (src, _) => decide (src < source) && source.isToProbe

/-- `ingest_address` writes one entry: the larger of the old and the new source, stamped
`now`. -/
theorem ingestAddress_eq (info : PeerInfo) (now : DateTime) (addr : Multiaddr)
    (source : AddressSource) :
    info.ingestAddress now addr source =
      ({ info with
          addresses := info.addresses.insert addr
            (ingestedSource source (info.addresses.lookup addr), now) },
        ingestResult source (info.addresses.lookup addr)) := by
  unfold ingestAddress
  cases h : info.addresses.lookup addr with
  | none => rfl
  | some v =>
    obtain ⟨src, t⟩ := v
    simp only [ingestedSource, ingestResult]
    rcases lt_trichotomy source src with hlt | heq | hgt
    · have hc : compare source src = .lt := compare_lt_iff_lt.2 hlt
      simp [hc, max_eq_left hlt.le, not_lt.2 hlt.le]
    · subst heq
      simp
    · have hc : compare source src = .gt := compare_gt_iff_gt.2 hgt
      simp [hc, max_eq_right hgt.le, hgt]

theorem source_le_ingestedSource (source : AddressSource)
    (old : Option (AddressSource × DateTime)) : source ≤ ingestedSource source old := by
  cases old with
  | none => exact le_refl _
  | some v => exact le_max_right _ _

theorem le_ingestedSource (source src : AddressSource) (t : DateTime) :
    src ≤ ingestedSource source (some (src, t)) :=
  le_max_left _ _

/-- Re-ingesting an address at a source no higher than the one it has changes no source
and asks for no probe. -/
theorem ingestResult_of_le {source src : AddressSource} {t : DateTime} (h : source ≤ src) :
    ingestResult source (some (src, t)) = false ∧ ingestedSource source (some (src, t)) = src := by
  simp [ingestResult, ingestedSource, not_lt.2 h, max_eq_left h]

/-! ## What `push_failure` does -/

theorem pushFailure_failures (info : PeerInfo) (addr : Multiaddr) (f : ConnectionFailure)
    (probeResult : Bool) :
    (info.pushFailure addr f probeResult).failures = (f :: info.failures).take 10 := by
  have hlen := info.failures_length_le
  simp only [pushFailure, trimFailures]
  split
  · rename_i h
    have h10 : info.failures.length = 10 := by omega
    rw [List.dropLast_eq_take, List.take_cons (by omega), h10]
  · rename_i h
    rw [List.take_of_length_le (by simp; omega)]

/-- `push_failure` removes at most `addr`, and only when it settles a probe of an address
that was to be probed. -/
theorem pushFailure_lookup (info : PeerInfo) (addr : Multiaddr) (f : ConnectionFailure)
    (probeResult : Bool) (a : Multiaddr) :
    (info.pushFailure addr f probeResult).addresses.lookup a =
      if a = addr ∧ probeResult = true ∧ (info.addresses.lookup addr).any (fun v => v.1.isToProbe)
      then none else info.addresses.lookup a := by
  simp only [pushFailure]
  by_cases hp : probeResult = true ∧ (info.addresses.lookup addr).any (fun v => v.1.isToProbe)
  · rw [if_pos (by simp [hp]), AList.lookup_erase_eq_ite]
    by_cases ha : a = addr <;> simp [ha, hp]
  · rw [if_neg (by simpa using hp)]
    have : ¬ (a = addr ∧ probeResult = true ∧
        (info.addresses.lookup addr).any (fun v => v.1.isToProbe) = true) :=
      fun h => hp ⟨h.2.1, h.2.2⟩
    rw [if_neg this]

@[simp] theorem pushFailure_connections (info : PeerInfo) (addr : Multiaddr)
    (f : ConnectionFailure) (probeResult : Bool) :
    (info.pushFailure addr f probeResult).connections = info.connections := rfl

@[simp] theorem pushFailure_listeners (info : PeerInfo) (addr : Multiaddr)
    (f : ConnectionFailure) (probeResult : Bool) :
    (info.pushFailure addr f probeResult).listeners = info.listeners := rfl

@[simp] theorem pushFailure_rtt (info : PeerInfo) (addr : Multiaddr)
    (f : ConnectionFailure) (probeResult : Bool) :
    (info.pushFailure addr f probeResult).rtt = info.rtt := rfl

end PeerInfo

end IpfsEmbed
