import IpfsEmbed.Net.PeerInfo

/-!
# The statistics of a peer stay within their machine types

`Rtt` keeps, besides the last sample, two moving averages of the round-trip samples of a peer
(`decay_3`, `decay_10`) and a failure rate in parts per million.  The model computes over
`Nat`; the code computes `decay_3 * 7`, `decay_10 * 9` and `current * 3` on `Duration`, whose
multiplication panics on overflow, and `failure_rate * 99` on `u32`.

Each update keeps the averages below any bound of the samples and the failure rate at most a
million (`Rtt.Bounded`, `Bounded.register`, `Bounded.registerFailure`): a truncated weighted
mean of two values below a bound stays below it, and `f * 99 / 100 + 10 000` stays at most a
million when `f` is.  So over every run of `set_rtt` from a peer without statistics, the
averages never exceed the largest sample, and when the samples are below `u64::MAX / 10`
seconds none of the products the next update computes overflows.  The same theorem states what `push_failure` does to the
failure queue over a run: it holds the ten most recent failures, most recent first.
-/

namespace IpfsEmbed

/-- `u32::MAX`. -/
def u32Max : Nat := 4294967295

/-- `u64::MAX`. -/
def u64Max : Nat := 18446744073709551615

/-- `Duration::MAX`, in nanoseconds: `u64::MAX` seconds and 999 999 999 nanoseconds. -/
def durationMax : Duration := Duration.fromSecs u64Max + 999999999

/-- The samples the bounds are for: below `u64::MAX / 10` seconds. -/
def sampleBound : Duration := Duration.fromSecs (u64Max / 10)

theorem sampleBound_eq : sampleBound = 1844674407370955161000000000 := rfl

theorem durationMax_eq : durationMax = 18446744073709551615999999999 := rfl

/-! ## The arithmetic of one update -/

/-- `decay_3 * 7 / 10 + current * 3 / 10`, truncated twice, is no larger than a bound of both. -/
theorem decay3_mean_le {a c m : Nat} (ha : a ≤ m) (hc : c ≤ m) : a * 7 / 10 + c * 3 / 10 ≤ m := by
  omega

/-- `decay_10 * 9 / 10 + current / 10`, truncated twice, is no larger than a bound of both. -/
theorem decay10_mean_le {a c m : Nat} (ha : a ≤ m) (hc : c ≤ m) : a * 9 / 10 + c / 10 ≤ m := by
  omega

/-- A value below the sample bound times at most ten fits a `Duration`. -/
theorem mul_le_durationMax {a k : Nat} (ha : a < sampleBound) (hk : k ≤ 10) :
    a * k ≤ durationMax := by
  rw [sampleBound_eq] at ha
  rw [durationMax_eq]
  have : a * k ≤ a * 10 := Nat.mul_le_mul_left a hk
  omega

namespace Rtt

/-- The averages are at most `m` and the failure rate at most a million. -/
structure Bounded (m : Duration) (r : Rtt) : Prop where
  decay3_le : r.decay3 ≤ m
  decay10_le : r.decay10 ≤ m
  failureRate_le : r.failureRate ≤ 1000000

variable {m : Duration} {r : Rtt}

theorem new_bounded {d : Duration} (hd : d ≤ m) : (Rtt.new d).Bounded m :=
  ⟨hd, hd, Nat.zero_le _⟩

/-- A sample no larger than `m` keeps the averages at most `m`, and a success only lowers the
failure rate. -/
theorem Bounded.register (h : r.Bounded m) {c : Duration} (hc : c ≤ m) :
    (r.register c).Bounded m where
  decay3_le := decay3_mean_le h.decay3_le hc
  decay10_le := decay10_mean_le h.decay10_le hc
  failureRate_le := by
    have := h.failureRate_le
    show r.failureRate * 99 / 100 ≤ 1000000
    omega

/-- A failure adds a hundredth of a million to a rate that loses a hundredth of itself. -/
theorem Bounded.registerFailure (h : r.Bounded m) : r.registerFailure.Bounded m where
  decay3_le := h.decay3_le
  decay10_le := h.decay10_le
  failureRate_le := by
    have := h.failureRate_le
    show r.failureRate * 99 / 100 + 10000 ≤ 1000000
    omega

/-- **No product of the next update overflows**: bounded statistics of samples below
`u64::MAX / 10` seconds. -/
theorem Bounded.products_le (h : r.Bounded m) (hm : m < sampleBound) :
    r.failureRate * 99 ≤ u32Max ∧ r.decay3 * 7 ≤ durationMax ∧ r.decay10 * 9 ≤ durationMax := by
  have hf := h.failureRate_le
  refine ⟨?_, mul_le_durationMax (lt_of_le_of_lt h.decay3_le hm) (by decide),
    mul_le_durationMax (lt_of_le_of_lt h.decay10_le hm) (by decide)⟩
  show r.failureRate * 99 ≤ 4294967295
  omega

end Rtt

namespace PeerInfo

variable {m : Duration} {info : PeerInfo}

/-- The statistics of the peer, if there are any, are bounded by `m`. -/
def RttBounded (m : Duration) (info : PeerInfo) : Prop :=
  ∀ r, info.rtt = some r → r.Bounded m

theorem rttBounded_of_rtt_none (h : info.rtt = none) : info.RttBounded m := by
  intro r hr
  rw [h] at hr
  cases hr

/-- One call of `set_rtt` with a sample no larger than `m`, or with a failure. -/
theorem RttBounded.setRtt (h : info.RttBounded m) {rtt : Option Duration}
    (hs : ∀ d, rtt = some d → d ≤ m) : (info.setRtt rtt).RttBounded m := by
  intro r' hr'
  cases rtt with
  | some d =>
    rw [setRtt_some_rtt, Option.some.injEq] at hr'
    subst hr'
    cases hr : info.rtt with
    | none => exact Rtt.new_bounded (hs d rfl)
    | some r => exact (h r hr).register (hs d rfl)
  | none =>
    rw [setRtt_none_rtt] at hr'
    obtain ⟨r, hr, rfl⟩ := Option.map_eq_some_iff.1 hr'
    exact (h r hr).registerFailure

/-- Over a run of `set_rtt` calls whose samples are at most `m`. -/
theorem RttBounded.foldl_setRtt (samples : List (Option Duration))
    (hs : ∀ d, some d ∈ samples → d ≤ m) (h : info.RttBounded m) :
    (samples.foldl PeerInfo.setRtt info).RttBounded m := by
  induction samples generalizing info with
  | nil => exact h
  | cons s samples ih =>
    rw [List.foldl_cons]
    refine ih (fun d hd => hs d (List.mem_cons_of_mem s hd)) (h.setRtt fun d hd => ?_)
    exact hs d (hd ▸ List.mem_cons_self)

/-- The failure queue after a run of `push_failure` calls: the failures pushed, most recent
first, then those held before, ten at most. -/
theorem foldl_pushFailure_failures (pushes : List (Multiaddr × ConnectionFailure × Bool))
    (info : PeerInfo) :
    (pushes.foldl (fun i p => i.pushFailure p.1 p.2.1 p.2.2) info).failures =
      ((pushes.map (·.2.1)).reverse ++ info.failures).take 10 := by
  induction pushes generalizing info with
  | nil => simp [List.take_of_length_le info.failures_length_le]
  | cons p pushes ih =>
    rw [List.foldl_cons, ih, pushFailure_failures]
    -- the front ten of what follows the later pushes are the front ten of the whole queue
    rw [List.map_cons, List.reverse_cons, List.append_assoc, List.singleton_append,
      List.take_append, List.take_append, List.take_take]
    congr 2
    omega

end PeerInfo

/-- The largest of the samples, zero if there are none. -/
def largestSample (samples : List (Option Duration)) : Duration :=
  samples.foldr (fun s m => max (s.getD 0) m) 0

theorem le_largestSample {samples : List (Option Duration)} {d : Duration}
    (hd : some d ∈ samples) : d ≤ largestSample samples := by
  induction samples with
  | nil => cases hd
  | cons s samples ih =>
    rcases List.mem_cons.1 hd with rfl | hd
    · exact le_max_left _ _
    · exact (ih hd).trans (le_max_right _ _)

theorem largestSample_lt {samples : List (Option Duration)} {b : Duration} (hb : 0 < b)
    (hs : ∀ d, some d ∈ samples → d < b) : largestSample samples < b := by
  induction samples with
  | nil => exact hb
  | cons s samples ih =>
    refine max_lt ?_ (ih fun d hd => hs d (List.mem_cons_of_mem s hd))
    cases s with
    | none => exact hb
    | some d => exact hs d List.mem_cons_self

/-- **The statistics of a peer stay bounded.**  Over every run of `set_rtt` from a peer without
statistics: the failure rate stays at most a million, so `failure_rate * 99` fits a `u32`; the
averages never exceed the largest sample, so with samples below `u64::MAX / 10` seconds the
products `decay_3 * 7` and `decay_10 * 9` fit a `Duration`.  Over every run of `push_failure`
the queue holds the ten most recent failures, most recent first. -/
theorem peerInfo_statistics_bounded :
    (∀ (info : PeerInfo) (samples : List (Option Duration)), info.rtt = none →
      (∀ d, some d ∈ samples → d < sampleBound) →
      ∀ r, (samples.foldl PeerInfo.setRtt info).rtt = some r →
        r.failureRate ≤ 1000000 ∧ r.failureRate * 99 ≤ u32Max ∧
        r.decay3 ≤ largestSample samples ∧ r.decay10 ≤ largestSample samples ∧
        r.decay3 * 7 ≤ durationMax ∧ r.decay10 * 9 ≤ durationMax) ∧
    ∀ (info : PeerInfo) (pushes : List (Multiaddr × ConnectionFailure × Bool)),
      (pushes.foldl (fun i p => i.pushFailure p.1 p.2.1 p.2.2) info).failures =
        ((pushes.map (·.2.1)).reverse ++ info.failures).take 10 ∧
      (pushes.foldl (fun i p => i.pushFailure p.1 p.2.1 p.2.2) info).failures.length ≤ 10 := by
  refine ⟨fun info samples hnone hs r hr => ?_, fun info pushes =>
    ⟨PeerInfo.foldl_pushFailure_failures pushes info, PeerInfo.failures_length_le _⟩⟩
  have hb : (samples.foldl PeerInfo.setRtt info).RttBounded (largestSample samples) :=
    PeerInfo.RttBounded.foldl_setRtt samples (fun d hd => le_largestSample hd)
      (PeerInfo.rttBounded_of_rtt_none hnone)
  have hr' := hb r hr
  have hlt : largestSample samples < sampleBound :=
    largestSample_lt (by decide) hs
  obtain ⟨h99, h7, h9⟩ := hr'.products_le hlt
  exact ⟨hr'.failureRate_le, h99, hr'.decay3_le, hr'.decay10_le, h7, h9⟩

/-- Two samples of a second and two failures, from a peer without statistics. -/
theorem peerInfo_statistics_bounded_samples :
    let samples := [some (Duration.fromSecs 1), none, some (Duration.fromSecs 1), none]
    ∀ r, (samples.foldl PeerInfo.setRtt default).rtt = some r →
      r.failureRate ≤ 1000000 ∧ r.failureRate * 99 ≤ u32Max ∧
      r.decay3 ≤ largestSample samples ∧ r.decay10 ≤ largestSample samples ∧
      r.decay3 * 7 ≤ durationMax ∧ r.decay10 * 9 ≤ durationMax :=
  peerInfo_statistics_bounded.1 default _ rfl (by
    intro d hd
    simp only [List.mem_cons, Option.some.injEq, reduceCtorEq, List.not_mem_nil, or_false,
      false_or] at hd
    rcases hd with rfl | rfl <;> decide)

end IpfsEmbed
