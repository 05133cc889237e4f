import IpfsEmbed.Net.Dials
import IpfsEmbed.Properties.Normalization
import IpfsEmbed.Properties.Rtt

/-!
# Redials after a simultaneous open end

A TCP simultaneous open makes both sides the initiator of the Noise handshake, which fails;
`inject_dial_failure` then defers a redial of the address, after a random delay.  The redial
is a validation dial whose handler carries the redials it has left.  A failed validation dial
with `retries` left defers one with `retries - 1`, and only when `retries > 0`; a failed dial
that was no validation defers each of its redials with `SIM_OPEN_RETRIES` (`mem_redials`,
`IsRedial`).

Counting one more than `SIM_OPEN_RETRIES` for a dial that is no validation, the redials left
fall along every redial (`RedialOf.redialsLeft_lt`).  So the relation "is a redial deferred by
a failure of" is well-founded, and a chain of redials is no longer than the count of its first
dial (`redials_length_le`), whatever the book and the failures.  In every run of the swarm
the book queues dials with no validation or with `SIM_OPEN_RETRIES + 1` or 4 retries, every
dial in flight has at most `SIM_OPEN_RETRIES + 1` redials left, and every deferred one at most
`SIM_OPEN_RETRIES`, after a delay of at most a second (`DialWorld.Bounded`).
-/

namespace IpfsEmbed

/-! ## The delay -/

/-- `Duration::from_secs(1) * r` does not overflow for any `r: u32`, and the delay is at most
a second. -/
theorem redialDelay_le (r : UInt32) :
    Duration.fromSecs 1 * r.toNat ≤ durationMax ∧ redialDelay r ≤ Duration.fromSecs 1 := by
  -- the bounds as facts of `Nat`, which `omega` reads through `Duration`
  have hbounds : ∀ n : Nat, n < 4294967296 →
      1 * 1000000000 * n ≤ 18446744073709551615999999999 ∧
        1 * 1000000000 * n / 4294967295 ≤ 1 * 1000000000 := by
    intro n hn
    omega
  rw [durationMax_eq]
  exact hbounds r.toNat r.toNat_lt

/-! ## The handlers -/

namespace IntoAddressHandler

/-- The redials after simultaneous opens that a chain from a dial with this handler can still
take: the retries of a validation dial, and one more than `SIM_OPEN_RETRIES` for another dial,
whose failure starts its chains at `SIM_OPEN_RETRIES`. -/
def redialsLeft (h : IntoAddressHandler) : Nat :=
  match h.ownDial with
  | some (_, retries) => retries.toNat
  | none => simOpenRetries.toNat + 1

/-- The handlers the book queues its dials with: no validation, or a validation with
`SIM_OPEN_RETRIES + 1` retries (`add_address`, `dial_address`) or with 4 (`set_info`). -/
def IsInitial (h : IntoAddressHandler) : Prop :=
  h.ownDial = none ∨ ∃ addr, h.ownDial = some (addr, simOpenRetries + 1) ∨ h.ownDial = some (addr, 4)

theorem redialsLeft_of_ownDial_some {h : IntoAddressHandler} {addr : Multiaddr} {retries : UInt8}
    (hown : h.ownDial = some (addr, retries)) : h.redialsLeft = retries.toNat := by
  simp [redialsLeft, hown]

theorem redialsLeft_of_ownDial_none {h : IntoAddressHandler} (hown : h.ownDial = none) :
    h.redialsLeft = simOpenRetries.toNat + 1 := by
  simp [redialsLeft, hown]

theorem IsInitial.redialsLeft_le {h : IntoAddressHandler} (hi : h.IsInitial) :
    h.redialsLeft ≤ simOpenRetries.toNat + 1 := by
  rcases hi with hown | ⟨addr, hown | hown⟩
  · exact (redialsLeft_of_ownDial_none hown).le
  · rw [redialsLeft_of_ownDial_some hown]
    decide
  · rw [redialsLeft_of_ownDial_some hown]
    decide

end IntoAddressHandler

/-- One retry fewer of a count that is not zero does not wrap around. -/
theorem toNat_sub_one_add_one {k : UInt8} (hk : 0 < k) : (k - 1).toNat + 1 = k.toNat := by
  have hk' : 0 < k.toNat := hk
  rw [UInt8.toNat_sub_of_le _ _ hk]
  simp only [UInt8.toNat_one]
  omega

/-! ## What a failed dial defers -/

open IntoAddressHandler

/-- A redial that a failed dial with `handler` can defer for the peer `q` of the failure:
of the validated address with one retry fewer, when the failure was a simultaneous open and
retries were left; or, after a dial that was no validation, of an address reported with a
simultaneous open, with `SIM_OPEN_RETRIES`.  `keepAlive` is the book's setting. -/
inductive IsRedial (keepAlive : Bool) (q : PeerId) (handler : IntoAddressHandler)
    (error : DialError) (rand : Nat → UInt32) : Duration × NetworkBehaviourAction → Prop
  | validation {addr : Multiaddr} {retries : UInt8} (hown : handler.ownDial = some (addr, retries))
      (hsim : error.anySimOpen = true) (hpos : 0 < retries) :
      IsRedial keepAlive q handler error rand
        (redialDelay (rand 0),
          .dial ⟨q, .disconnected, [addr]⟩ ⟨some (addr, retries - 1), handler.keepAlive⟩)
  | transport {ae : Multiaddr × TransportError} (hown : handler.ownDial = none)
      (hae : ae ∈ error.transportErrors) (hsim : isSimOpen ae.2 = true) (i : Nat) :
      IsRedial keepAlive q handler error rand
        (redialDelay (rand i),
          .dial ⟨q, .disconnected, [ae.1]⟩ ⟨some (ae.1, simOpenRetries), keepAlive⟩)

namespace IsRedial

variable {keepAlive : Bool} {q : PeerId} {handler : IntoAddressHandler} {error : DialError}
  {rand : Nat → UInt32} {d : Duration × NetworkBehaviourAction}

theorem delay_le (h : IsRedial keepAlive q handler error rand d) : d.1 ≤ Duration.fromSecs 1 := by
  cases h with
  | validation => exact (redialDelay_le _).2
  | transport => exact (redialDelay_le _).2

/-- The redial has one retry fewer than a validation dial that had some, and
`SIM_OPEN_RETRIES` after another dial. -/
theorem handler_cases (h : IsRedial keepAlive q handler error rand d) :
    (∃ addr k, handler.ownDial = some (addr, k) ∧ 0 < k ∧ d.2.handler.ownDial = some (addr, k - 1)) ∨
      (handler.ownDial = none ∧ ∃ addr, d.2.handler.ownDial = some (addr, simOpenRetries)) := by
  cases h with
  | validation hown _ hpos => exact .inl ⟨_, _, hown, hpos, rfl⟩
  | transport hown => exact .inr ⟨hown, _, rfl⟩

theorem redialsLeft_lt (h : IsRedial keepAlive q handler error rand d) :
    d.2.handler.redialsLeft < handler.redialsLeft := by
  rcases h.handler_cases with ⟨addr, k, hown, hpos, hown'⟩ | ⟨hown, addr, hown'⟩
  · rw [redialsLeft_of_ownDial_some hown, redialsLeft_of_ownDial_some hown']
    have := toNat_sub_one_add_one hpos
    omega
  · rw [redialsLeft_of_ownDial_none hown, redialsLeft_of_ownDial_some hown']
    exact Nat.lt_succ_self _

end IsRedial

namespace AddressBook

variable (b : AddressBook) (now : DateTime) (peerId : Option PeerId) (handler : IntoAddressHandler)
  (error : DialError) (rand : Nat → UInt32)

/-- The redials a failed dial defers: what `inject_dial_failure` adds to `deferred`. -/
def redials : List (Duration × NetworkBehaviourAction) :=
  (b.injectDialFailure now peerId handler error rand).deferred.drop b.deferred.length

/-- **Inversion of `inject_dial_failure` on the deferred set.**  The set grows, and only by
redials of the peer the failure is booked against. -/
theorem injectDialFailure_deferred_cases :
    ∃ new, (b.injectDialFailure now peerId handler error rand).deferred = b.deferred ++ new ∧
      ∀ d ∈ new, ∃ q, handler.peerId.or peerId = some q ∧
        IsRedial b.settings.keepAlive q handler error rand d := by
  have hnil : ∀ b' : AddressBook, b'.deferred = b.deferred → ∃ new, b'.deferred = b.deferred ++ new ∧
      ∀ d ∈ new, ∃ q, handler.peerId.or peerId = some q ∧
        IsRedial b.settings.keepAlive q handler error rand d :=
    fun b' h => ⟨[], by rw [h, List.append_nil], fun _ hd => absurd hd List.not_mem_nil⟩
  unfold injectDialFailure
  split
  · exact hnil b rfl
  next q hq =>
  split
  · exact hnil b rfl
  next info _ =>
  split
  next addr retries hown =>
    rw [validationDialFailure_deferred]
    refine ⟨_, rfl, fun d hd => ⟨q, hq, ?_⟩⟩
    split_ifs at hd with hs
    · rw [List.mem_singleton.1 hd]
      simp only [Bool.and_eq_true, decide_eq_true_eq] at hs
      exact .validation hown hs.1 hs.2
    · exact absurd hd List.not_mem_nil
  next hown =>
    split
    next v =>
      rw [transportDialFailure_deferred]
      refine ⟨_, rfl, fun d hd => ⟨q, hq, ?_⟩⟩
      obtain ⟨⟨a, i⟩, hai, rfl⟩ := List.mem_map.1 hd
      -- the loop defers only redials of reported addresses with a simultaneous open
      rcases mem_foldl_transportFailureStep_simOpen _ _ _ _ _ _ _
        (List.fst_mem_of_mem_zipIdx hai) with h | ⟨ae, hae, hs, rfl⟩
      · exact absurd h List.not_mem_nil
      · exact .transport hown hae hs i
    all_goals exact hnil b rfl

theorem injectDialFailure_deferred_eq :
    (b.injectDialFailure now peerId handler error rand).deferred =
      b.deferred ++ b.redials now peerId handler error rand := by
  obtain ⟨new, hnew, -⟩ := b.injectDialFailure_deferred_cases now peerId handler error rand
  rw [redials, hnew, List.drop_left]

/-- **What a failed dial defers**: redials, for the peer the failure is booked against. -/
theorem mem_redials {d : Duration × NetworkBehaviourAction}
    (hd : d ∈ b.redials now peerId handler error rand) :
    ∃ q, handler.peerId.or peerId = some q ∧ IsRedial b.settings.keepAlive q handler error rand d := by
  obtain ⟨new, hnew, hspec⟩ := b.injectDialFailure_deferred_cases now peerId handler error rand
  rw [redials, hnew, List.drop_left] at hd
  exact hspec d hd

end AddressBook

/-! ## Chains of redials -/

/-- The dial `a'` is a redial that a failure of the dial `a` defers, in some state of the
book. -/
def RedialOf (a' a : NetworkBehaviourAction) : Prop :=
  ∃ (b : AddressBook) (now : DateTime) (peerId : Option PeerId) (error : DialError)
    (rand : Nat → UInt32) (delay : Duration), (delay, a') ∈ b.redials now peerId a.handler error rand

namespace RedialOf

variable {a a' : NetworkBehaviourAction}

theorem isRedial (h : RedialOf a' a) : ∃ keepAlive q error rand delay,
    IsRedial keepAlive q a.handler error rand (delay, a') := by
  obtain ⟨b, now, peerId, error, rand, delay, hd⟩ := h
  obtain ⟨q, -, hr⟩ := b.mem_redials now peerId a.handler error rand hd
  exact ⟨_, q, error, rand, delay, hr⟩

/-- A redial has one retry fewer than the validation dial it follows, which had some left, or
`SIM_OPEN_RETRIES` after another dial. -/
theorem handler_cases (h : RedialOf a' a) :
    (∃ addr k, a.handler.ownDial = some (addr, k) ∧ 0 < k ∧
        a'.handler.ownDial = some (addr, k - 1) ∧ (k - 1).toNat + 1 = k.toNat) ∨
      (a.handler.ownDial = none ∧ ∃ addr, a'.handler.ownDial = some (addr, simOpenRetries)) := by
  obtain ⟨_, _, _, _, _, hr⟩ := h.isRedial
  rcases hr.handler_cases with ⟨addr, k, hown, hpos, hown'⟩ | h
  · exact .inl ⟨addr, k, hown, hpos, hown', toNat_sub_one_add_one hpos⟩
  · exact .inr h

/-- **The redials left fall along every redial.** -/
theorem redialsLeft_lt (h : RedialOf a' a) : a'.handler.redialsLeft < a.handler.redialsLeft := by
  obtain ⟨_, _, _, _, _, hr⟩ := h.isRedial
  exact hr.redialsLeft_lt

end RedialOf

/-- There is no infinite chain of redials, each deferred by a failure of the one before. -/
theorem redialOf_wellFounded : WellFounded RedialOf :=
  Subrelation.wf (fun h => RedialOf.redialsLeft_lt h)
    (InvImage.wf (fun a : NetworkBehaviourAction => a.handler.redialsLeft) wellFounded_lt)

/-- A chain of redials, each deferred by a failure of the one before, is no longer than the
redials its first dial has left. -/
theorem redials_length_le {a : NetworkBehaviourAction} {as : List NetworkBehaviourAction}
    (h : List.IsChain (fun x y => RedialOf y x) (a :: as)) : as.length ≤ a.handler.redialsLeft := by
  induction as generalizing a with
  | nil => exact Nat.zero_le _
  | cons a' as ih =>
    rw [List.isChain_cons_cons] at h
    have hrest := ih h.2
    have hlt := h.1.redialsLeft_lt
    rw [List.length_cons]
    omega

/-! ## What the calls queue -/

section Queues

open AddressBook

variable {b b' b'' : AddressBook} {now : DateTime}

/-- From `b` to `b'` the queue gains only dials with an initial handler, and nothing is
deferred. -/
structure QueuesInitial (b b' : AddressBook) : Prop where
  actions : ∀ a ∈ b'.actions, a ∈ b.actions ∨ a.handler.IsInitial
  deferred : b'.deferred = b.deferred

namespace QueuesInitial

theorem of_eq (h : b'.actions = b.actions ∧ b'.deferred = b.deferred) : QueuesInitial b b' :=
  ⟨fun _ ha => .inl (h.1 ▸ ha), h.2⟩

/-- A call that may queue one dial with an initial handler. -/
theorem push {a₀ : NetworkBehaviourAction} (h : b'.actions = b.actions ∨ b'.actions = b.actions ++ [a₀])
    (h₀ : a₀.handler.IsInitial) (hd : b'.deferred = b.deferred) : QueuesInitial b b' := by
  refine ⟨fun a ha => ?_, hd⟩
  rcases h with h | h <;> rw [h] at ha
  · exact .inl ha
  · rcases List.mem_append.1 ha with ha | ha
    · exact .inl ha
    · exact .inr (List.mem_singleton.1 ha ▸ h₀)

/-- A call whose queues are those of another call. -/
theorem congr (h : QueuesInitial b b') (heq : b''.actions = b'.actions ∧ b''.deferred = b'.deferred) :
    QueuesInitial b b'' :=
  ⟨fun a ha => h.actions a (heq.1 ▸ ha), heq.2.trans h.deferred⟩

theorem addAddress (peer : PeerId) (address : Multiaddr) (source : AddressSource) :
    QueuesInitial b (b.addAddress now peer address source) :=
  push (addAddress_actions b now peer address source) (.inr ⟨_, .inl rfl⟩)
    (addAddress_deferred b now peer address source)

end QueuesInitial

/-- **What a call queues**: dials with an initial handler; and only `inject_dial_failure`
defers a dial. -/
theorem BookOp.queuesInitial {op : BookOp} (hop : op.isSwarmDial = false)
    (he : op.exec b now = some b') : QueuesInitial b b' := by
  cases op with
  | addAddress peer address source =>
    cases he
    exact .addAddress peer address source
  | removeAddress peer address =>
    cases he
    exact .of_eq (removeAddress_queues b peer address)
  | dial peer =>
    cases he
    exact .push (dial_actions b peer) (.inl rfl) (dial_deferred b peer)
  | dialAddress peer addr =>
    cases he
    exact .push (dialAddress_actions b peer addr) (.inr ⟨_, .inl rfl⟩) (dialAddress_deferred b peer addr)
  | prunePeers minAge =>
    cases he
    exact .of_eq (prunePeers_queues b now minAge)
  | setRtt peer rtt =>
    cases he
    exact .of_eq (setRtt_queues b peer rtt)
  | setInfo peer identify =>
    rcases setInfo_eq_some he with ⟨-, rfl⟩ | ⟨info, ts, -, -, rfl⟩
    · exact .of_eq ⟨rfl, rfl⟩
    -- the candidates are dialled with 4 retries
    · refine ⟨fun a ha => ?_, rfl⟩
      have ha : a ∈ (ingestCandidates b now peer (withIdentify info identify) ts).2 := ha
      rcases mem_foldl_setInfoIngest_actions _ _ _ _ _ _ ha with ha | ⟨addr, -, rfl⟩
      · exact .inl ha
      · exact .inr (.inr ⟨addr, .inr rfl⟩)
  | connectionClosed peer conn n error =>
    cases he
    exact .of_eq (connectionClosed_queues b now peer conn n error)
  | injectConnectionEstablished peer conn n =>
    cases he
    exact (QueuesInitial.addAddress _ _ _).congr (injectConnectionEstablished_queues b now peer conn n)
  | injectAddressChange peer old new =>
    cases he
    exact (QueuesInitial.addAddress _ _ _).congr (injectAddressChange_queues b now peer old new)
  | injectNewListenAddr id addr =>
    cases he
    exact .of_eq ⟨rfl, rfl⟩
  | injectExpiredListenAddr id addr =>
    cases he
    exact .of_eq ⟨rfl, rfl⟩
  | injectDialFailure | poll => cases hop

end Queues

/-! ## Every run of the swarm -/

namespace DialWorld

/-- The bounds the dials of the swarm keep. -/
structure Bounded (w : DialWorld) : Prop where
  /-- The book queues dials with an initial handler. -/
  queued : ∀ a ∈ w.book.actions, a.handler.IsInitial
  dialing : ∀ a ∈ w.dialing, a.handler.redialsLeft ≤ simOpenRetries.toNat + 1
  /-- A deferred redial has one fewer at least, and waits a second at most. -/
  deferred : ∀ d ∈ w.book.deferred,
    d.2.handler.redialsLeft ≤ simOpenRetries.toNat ∧ d.1 ≤ Duration.fromSecs 1

variable {w w' : DialWorld} {now : DateTime}

theorem bounded_init (settings : Settings) : (init settings).Bounded :=
  ⟨fun _ h => absurd h List.not_mem_nil, fun _ h => absurd h List.not_mem_nil,
    fun _ h => absurd h List.not_mem_nil⟩

/-- A call of the book queues dials with initial handlers and defers nothing. -/
theorem Bounded.call (h : w.Bounded) {op : BookOp} (hop : op.isSwarmDial = false) {b' : AddressBook}
    (he : op.exec w.book now = some b') : (⟨b', w.dialing⟩ : DialWorld).Bounded where
  queued a ha := ((BookOp.queuesInitial hop he).actions a ha).elim (h.queued a) id
  dialing := h.dialing
  deferred d hd := h.deferred d ((BookOp.queuesInitial hop he).deferred ▸ hd)

/-- `poll` moves the front of the queue, or a deferred dial, into flight. -/
theorem Bounded.poll (h : w.Bounded) {ready : Nat} {a : NetworkBehaviourAction} {b' : AddressBook}
    (hp : w.book.pollAction ready = some (a, b')) : (⟨b', w.dialing ++ [a]⟩ : DialWorld).Bounded := by
  have hdialing : ∀ a', a' ∈ w.dialing ++ [a] ↔ a' ∈ w.dialing ∨ a' = a := by simp
  unfold AddressBook.pollAction at hp
  split at hp
  next a₀ rest hq =>
    cases hp
    refine ⟨fun x hx => h.queued x (List.mem_of_mem_drop (hx : x ∈ w.book.actions.drop 1)),
      fun x hx => ?_, h.deferred⟩
    · rcases (hdialing x).1 hx with hx | rfl
      · exact h.dialing x hx
      · exact (h.queued x (hq ▸ List.mem_cons_self)).redialsLeft_le
  next hq =>
    obtain ⟨d, hd, hp⟩ := Option.map_eq_some_iff.1 hp
    cases hp
    have hmem := List.mem_of_getElem? hd
    refine ⟨fun x hx => absurd (hq ▸ hx) List.not_mem_nil, fun x hx => ?_,
      fun d' hd' => h.deferred d' (List.mem_of_mem_eraseIdx hd')⟩
    rcases (hdialing x).1 hx with hx | rfl
    · exact h.dialing x hx
    · exact (h.deferred d hmem).1.trans (Nat.le_succ _)

/-- A failed dial whose handler had at most `SIM_OPEN_RETRIES + 1` redials left defers redials
with fewer, and takes no dial into flight. -/
theorem Bounded.injectDialFailure (h : w.Bounded) {handler : IntoAddressHandler}
    (hleft : handler.redialsLeft ≤ simOpenRetries.toNat + 1) {dialing : List NetworkBehaviourAction}
    (hdialing : ∀ a ∈ dialing, a ∈ w.dialing) (peerId : Option PeerId) (error : DialError)
    (rand : Nat → UInt32) :
    (⟨w.book.injectDialFailure now peerId handler error rand, dialing⟩ : DialWorld).Bounded := by
  refine ⟨fun x hx => h.queued x ?_, fun x hx => h.dialing x (hdialing x hx), fun d hd => ?_⟩
  · rwa [AddressBook.injectDialFailure_actions] at hx
  · rw [AddressBook.injectDialFailure_deferred_eq] at hd
    rcases List.mem_append.1 hd with hd | hd
    · exact h.deferred d hd
    · obtain ⟨q, -, hr⟩ := w.book.mem_redials now peerId handler error rand hd
      have hlt := hr.redialsLeft_lt
      exact ⟨by omega, hr.delay_le⟩

theorem Bounded.step (h : w.Bounded) {e : DialEvent} (he : w.step now e = some w') : w'.Bounded := by
  cases e with
  | call op =>
    simp only [DialWorld.step] at he
    split_ifs at he with hop
    obtain ⟨b', hb', rfl⟩ := Option.map_eq_some_iff.1 he
    exact h.call (Bool.eq_false_iff.2 hop) hb'
  | poll ready =>
    obtain ⟨⟨a, b'⟩, hp, rfl⟩ := Option.map_eq_some_iff.1 he
    exact h.poll hp
  | dialFailure i error rand =>
    obtain ⟨a, ha, rfl⟩ := Option.map_eq_some_iff.1 he
    exact h.injectDialFailure (h.dialing a (List.mem_of_getElem? ha))
      (fun _ hx => List.mem_of_mem_eraseIdx hx) _ error rand
  | dialSuccess i =>
    simp only [DialWorld.step] at he
    split_ifs at he
    cases he
    exact ⟨h.queued, fun a ha => h.dialing a (List.mem_of_mem_eraseIdx ha), h.deferred⟩
  | otherDialFailure peerId error rand =>
    -- the book's part of the handler is `new_handler`'s, which is no validation
    cases he
    exact h.injectDialFailure (redialsLeft_of_ownDial_none rfl).le (fun _ hx => hx) peerId error rand

theorem reachable_bounded (hw : DialWorldReachable w) : w.Bounded := by
  obtain ⟨settings, hr⟩ := hw
  refine Reach.Reachable.invariant (bounded_init settings) ?_ hr
  rintro s s' hs ⟨⟨now, e⟩, -, he⟩
  exact hs.step he

/-- Every dial of the world, queued, in flight or deferred, has at most
`SIM_OPEN_RETRIES + 1` redials left. -/
theorem Bounded.redialsLeft_le (h : w.Bounded) {a : NetworkBehaviourAction}
    (ha : a ∈ w.book.actions ∨ a ∈ w.dialing ∨ ∃ delay, (delay, a) ∈ w.book.deferred) :
    a.handler.redialsLeft ≤ simOpenRetries.toNat + 1 := by
  rcases ha with ha | ha | ⟨delay, ha⟩
  · exact (h.queued a ha).redialsLeft_le
  · exact h.dialing a ha
  · exact (h.deferred _ ha).1.trans (Nat.le_succ _)

end DialWorld

/-- **Redials after simultaneous opens end.**  There is no infinite chain of redials, each
deferred by a failure of the one before, in any state of the book.  A redial has one retry
fewer than the validation dial whose failure deferred it, which had at least one, so the count
does not wrap around; after a dial that was no validation it has `SIM_OPEN_RETRIES`.  In every
run of the swarm the book queues dials with no validation or with `SIM_OPEN_RETRIES + 1` or 4
retries, every redial waits at most a second, and a chain of redials from any dial of the
world has at most `SIM_OPEN_RETRIES + 1` of them.  The delay `Duration::from_secs(1) * r /
u32::MAX` never overflows and is at most a second. -/
theorem simOpen_redials_terminate :
    WellFounded RedialOf ∧
    (∀ a' a, RedialOf a' a →
      (∃ addr k, a.handler.ownDial = some (addr, k) ∧ 0 < k ∧
          a'.handler.ownDial = some (addr, k - 1) ∧ (k - 1).toNat + 1 = k.toNat) ∨
        (a.handler.ownDial = none ∧ ∃ addr, a'.handler.ownDial = some (addr, simOpenRetries))) ∧
    (∀ w, DialWorldReachable w →
      (∀ a ∈ w.book.actions, a.handler.IsInitial) ∧
      (∀ d ∈ w.book.deferred, d.1 ≤ Duration.fromSecs 1) ∧
      ∀ a as, (a ∈ w.book.actions ∨ a ∈ w.dialing ∨ ∃ delay, (delay, a) ∈ w.book.deferred) →
        List.IsChain (fun x y => RedialOf y x) (a :: as) → as.length ≤ simOpenRetries.toNat + 1) ∧
    ∀ r : UInt32, Duration.fromSecs 1 * r.toNat ≤ durationMax ∧ redialDelay r ≤ Duration.fromSecs 1 := by
  refine ⟨redialOf_wellFounded, fun a' a h => h.handler_cases, fun w hw => ?_, redialDelay_le⟩
  have hb := DialWorld.reachable_bounded hw
  refine ⟨hb.queued, fun d hd => (hb.deferred d hd).2, fun a as ha hc => ?_⟩
  exact (redials_length_le hc).trans (hb.redialsLeft_le ha)

/-- `dial_address` queues a validation dial of `/ip4/1.2.3.4/tcp/4001` for peer 1, the swarm
issues it, and it fails with a simultaneous open: the book defers one redial. -/
theorem simOpen_redials_terminate_redial :
    let b := (AddressBook.new ⟨0⟩ false false false).dialAddress ⟨1⟩ ⟨[.ip4 ⟨1, 2, 3, 4⟩, .tcp 4001]⟩
    let w : DialWorld := ⟨b.poll.injectDialFailure 0 (some ⟨1⟩)
      ⟨some (⟨[.ip4 ⟨1, 2, 3, 4⟩, .tcp 4001, .p2p (.peer ⟨1⟩)]⟩, simOpenRetries + 1), false⟩
      (.transport [(⟨[.ip4 ⟨1, 2, 3, 4⟩, .tcp 4001]⟩, .other (.dnsTransport (.noiseIo .invalidData)))])
      (fun _ => 0), []⟩
    DialWorldReachable w ∧ w.book.deferred.length = 1 ∧
      (∀ a ∈ w.book.actions, a.handler.IsInitial) ∧
      (∀ d ∈ w.book.deferred, d.1 ≤ Duration.fromSecs 1) ∧
      ∀ a as, (a ∈ w.book.actions ∨ a ∈ w.dialing ∨ ∃ delay, (delay, a) ∈ w.book.deferred) →
        List.IsChain (fun x y => RedialOf y x) (a :: as) → as.length ≤ simOpenRetries.toNat + 1 := by
  intro b w
  have hw : DialWorldReachable w :=
    ⟨⟨false, false, false, ⟨0⟩⟩, Reach.Reachable.refl
      |>.tail ⟨(0, .call (.dialAddress ⟨1⟩ ⟨[.ip4 ⟨1, 2, 3, 4⟩, .tcp 4001]⟩)), trivial, rfl⟩
      |>.tail ⟨(0, .poll 0), trivial, rfl⟩
      |>.tail ⟨(0, .dialFailure 0
        (.transport [(⟨[.ip4 ⟨1, 2, 3, 4⟩, .tcp 4001]⟩, .other (.dnsTransport (.noiseIo .invalidData)))])
        fun _ => 0), trivial, rfl⟩⟩
  exact ⟨hw, rfl, simOpen_redials_terminate.2.2.1 w hw⟩

end IpfsEmbed
