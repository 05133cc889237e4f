import IpfsEmbed.Properties.Sources

/-!
# What `set_info` guarantees

`set_info` is the one call of the address book that removes addresses it did not ingest
itself (the `Incoming` ones) and then ingests a whole list of candidates in one loop, so it is
the call whose effect on a peer's record is the least obvious.  This module describes that
effect completely and shows that a second call with the same Identify information is a no-op
for the sources and the dial queue.

* The two `replace(1, ..).unwrap()` calls never panic: `translateAddr` is only asked to
  translate addresses that `ip_port` accepts, and those have a component at index 1
  (`translations_eq_some`).  Every translation is the original address with another port, so
  it keeps the IP (`IsTranslation`).
* After the call the record has no `Incoming` address (`NoIncoming`), keeps every other
  address at a source at least as high, holds every advertised listen address that passed
  the loopback filter and is not one of our own listeners at `Listen` or above, and has no
  new address that is neither such a listen address nor a translation of a former
  `Incoming` one.
* Once `set_info` has run, every candidate of a second call with the same information is
  either one of our listeners or already at `Listen` or above, so `ingest_address` returns
  `false` for all of them: no `Dial` is queued and only timestamps move.

The proofs follow the code's loop: one lemma about `setInfoIngest`, then one about the fold
by induction on the candidate list with the accumulator free.
-/

namespace IpfsEmbed

namespace PeerInfo

/-! ## Records without `Incoming` addresses, and records with the same sources -/

/-- No address of the record is `Incoming`. -/
def NoIncoming (info : PeerInfo) : Prop :=
  ∀ a s t, info.addresses.lookup a = some (s, t) → s ≠ .incoming

/-- Both records file the same addresses under the same sources; only the timestamps may
differ. -/
def SameSources (info info' : PeerInfo) : Prop :=
  ∀ a, (info.addresses.lookup a).map (·.1) = (info'.addresses.lookup a).map (·.1)

variable {info info' info'' : PeerInfo}

theorem SameSources.refl (info : PeerInfo) : info.SameSources info :=
  fun _ => rfl

theorem SameSources.trans (h₁ : info.SameSources info') (h₂ : info'.SameSources info'') :
    info.SameSources info'' :=
  fun a => (h₁ a).trans (h₂ a)

theorem SameSources.lookup (h : info.SameSources info') {a : Multiaddr} {s : AddressSource}
    {t : DateTime} (ha : info.addresses.lookup a = some (s, t)) :
    ∃ t', info'.addresses.lookup a = some (s, t') := by
  have hs := h a
  rw [ha] at hs
  cases ha' : info'.addresses.lookup a with
  | none => rw [ha'] at hs; cases hs
  | some v =>
    obtain ⟨s', t'⟩ := v
    rw [ha', Option.map_some, Option.map_some, Option.some.injEq] at hs
    subst hs
    exact ⟨t', rfl⟩

theorem ingestAddress_lookup_self (info : PeerInfo) (now : DateTime) (addr : Multiaddr)
    (source : AddressSource) :
    (info.ingestAddress now addr source).1.addresses.lookup addr =
      some (ingestedSource source (info.addresses.lookup addr), now) := by
  rw [ingestAddress_eq]
  exact AList.lookup_insert _

theorem ingestAddress_lookup_of_ne {a addr : Multiaddr} (h : a ≠ addr) (now : DateTime)
    (source : AddressSource) :
    (info.ingestAddress now addr source).1.addresses.lookup a = info.addresses.lookup a := by
  rw [ingestAddress_eq]
  exact AList.lookup_insert_ne h

theorem ingestedSource_ne_incoming {source : AddressSource} (hs : source ≠ .incoming)
    (old : Option (AddressSource × DateTime)) : ingestedSource source old ≠ .incoming := by
  intro h
  have hle := source_le_ingestedSource source old
  rw [h] at hle
  exact hs (le_antisymm hle (AddressSource.incoming_le _))

/-- Ingesting at a source other than `Incoming` adds no `Incoming` address. -/
theorem ingestAddress_noIncoming (h : info.NoIncoming) {source : AddressSource}
    (hs : source ≠ .incoming) (now : DateTime) (addr : Multiaddr) :
    (info.ingestAddress now addr source).1.NoIncoming := by
  intro a s t ha
  by_cases hab : a = addr
  · subst hab
    rw [ingestAddress_lookup_self, Option.some.injEq, Prod.mk.injEq] at ha
    rw [← ha.1]
    exact ingestedSource_ne_incoming hs _
  · rw [ingestAddress_lookup_of_ne hab] at ha
    exact h a s t ha

/-- Re-ingesting an address at a source no higher than its own asks for no probe and changes
no source. -/
theorem ingestAddress_sameSources {addr : Multiaddr} {s source : AddressSource} {t : DateTime}
    (ha : info.addresses.lookup addr = some (s, t)) (hle : source ≤ s) (now : DateTime) :
    (info.ingestAddress now addr source).2 = false ∧
      info.SameSources (info.ingestAddress now addr source).1 := by
  obtain ⟨hr, hsrc⟩ := ingestResult_of_le (t := t) hle
  refine ⟨by rw [ingestAddress_eq, ha]; exact hr, fun a => ?_⟩
  by_cases hab : a = addr
  · subst hab
    rw [ingestAddress_lookup_self, ha, hsrc]
    rfl
  · rw [ingestAddress_lookup_of_ne hab]

end PeerInfo

namespace AddressBook

open PeerInfo

/-! ## The translations -/

/-- `a` is `x` with its port replaced, so it has the IP of `x`. -/
def IsTranslation (a x : Multiaddr) : Prop :=
  ∃ ip port port', ipPort x = some (ip, port) ∧ ipPort a = some (ip, port') ∧
    a = ⟨x.protocols.set 1 (.tcp port')⟩

theorem isTranslation_set {x : Multiaddr} {ip : IpAddr} {port : UInt16}
    (h : ipPort x = some (ip, port)) (port' : UInt16) :
    IsTranslation ⟨x.protocols.set 1 (.tcp port')⟩ x :=
  ⟨ip, port, port', h, ipPort_set_one h port', rfl⟩

/-- Replacing the port of an address `ip_port` accepts by each port of a list succeeds. -/
theorem mapM_replace_one {x : Multiaddr} {ip : IpAddr} {port : UInt16}
    (h : ipPort x = some (ip, port)) (ports : List UInt16) :
    ports.mapM (fun q => x.replace 1 fun _ => some (.tcp q)) =
      some (ports.map fun q => ⟨x.protocols.set 1 (.tcp q)⟩) := by
  induction ports with
  | nil => rfl
  | cons q ports ih =>
    simp only [replace_one_of_ipPort h] at ih ⊢
    simp [ih]

/-- **Translating one address does not panic**, and yields translations of it. -/
theorem translateAddr_eq_some (listenPort : List (IpAddr × UInt16)) (commonPort : List UInt16)
    (x : Multiaddr) :
    ∃ ts, translateAddr listenPort commonPort x = some ts ∧ ∀ a ∈ ts, IsTranslation a x := by
  cases hip : ipPort x with
  | none => exact ⟨[], by simp [translateAddr, hip], by simp⟩
  | some v =>
    obtain ⟨ip, port⟩ := v
    simp only [translateAddr, hip]
    split_ifs
    · rw [mapM_replace_one hip]
      refine ⟨_, rfl, fun a ha => ?_⟩
      obtain ⟨q, -, rfl⟩ := List.mem_map.1 ha
      exact isTranslation_set hip q
    · rw [mapM_replace_one hip]
      refine ⟨_, rfl, fun a ha => ?_⟩
      obtain ⟨q, -, rfl⟩ := List.mem_map.1 ha
      exact isTranslation_set hip q
    · -- no advertised port: the address is kept, which is its own translation
      refine ⟨[x], rfl, fun a ha => ?_⟩
      rw [List.mem_singleton.1 ha]
      have hx := isTranslation_set hip port
      rwa [set_one_of_ipPort hip] at hx

theorem mapM_translateAddr_eq_some (listenPort : List (IpAddr × UInt16))
    (commonPort : List UInt16) (xs : List Multiaddr) :
    ∃ tss, xs.mapM (translateAddr listenPort commonPort) = some tss ∧
      ∀ a ∈ tss.flatten, ∃ x ∈ xs, IsTranslation a x := by
  induction xs with
  | nil => exact ⟨[], rfl, by simp⟩
  | cons x xs ih =>
    obtain ⟨ts, hts, hts'⟩ := translateAddr_eq_some listenPort commonPort x
    obtain ⟨tss, htss, htss'⟩ := ih
    refine ⟨ts :: tss, by simp [hts, htss], fun a ha => ?_⟩
    rcases List.mem_append.1 (List.flatten_cons ▸ ha) with ha | ha
    · exact ⟨x, List.mem_cons_self, hts' a ha⟩
    · obtain ⟨y, hy, hay⟩ := htss' a ha
      exact ⟨y, List.mem_cons_of_mem x hy, hay⟩

theorem mem_addressesToTranslate {info : PeerInfo} {x : Multiaddr} :
    x ∈ info.addressesToTranslate ↔ ∃ t, info.addresses.lookup x = some (.incoming, t) := by
  simp only [PeerInfo.addressesToTranslate, List.mem_map, List.mem_filter,
    AddressSource.isToTranslate_iff]
  constructor
  · rintro ⟨⟨y, s, t⟩, ⟨hmem, hs⟩, rfl⟩
    simp only at hs
    subst hs
    exact ⟨t, AList.mem_lookup_iff.2 hmem⟩
  · rintro ⟨t, ht⟩
    exact ⟨⟨x, .incoming, t⟩, ⟨AList.mem_lookup_iff.1 ht, rfl⟩, rfl⟩

/-- **The translations never panic.**  Each translated address is a translation of an
address that was `Incoming`. -/
theorem translations_eq_some (info : PeerInfo) (listenPort : List (IpAddr × UInt16)) :
    ∃ ts, translations info listenPort = some ts ∧
      ∀ a ∈ ts, ∃ x t, info.addresses.lookup x = some (.incoming, t) ∧ IsTranslation a x := by
  obtain ⟨tss, htss, hmem⟩ :=
    mapM_translateAddr_eq_some listenPort (commonPort listenPort) info.addressesToTranslate
  refine ⟨tss.flatten, by simp [translations, htss], fun a ha => ?_⟩
  obtain ⟨x, hx, hax⟩ := hmem a ha
  obtain ⟨t, ht⟩ := mem_addressesToTranslate.1 hx
  exact ⟨x, t, ht, hax⟩

theorem purgeIncoming_noIncoming (info : PeerInfo) : (purgeIncoming info).NoIncoming := by
  intro a s t ha
  rw [purgeIncoming_lookup, Option.filter_eq_some_iff] at ha
  obtain ⟨-, hs⟩ := ha
  rw [Bool.not_eq_true', ← Bool.not_eq_true, AddressSource.isToTranslate_iff] at hs
  exact hs

/-- Purging a record that has no `Incoming` address changes nothing. -/
theorem purgeIncoming_addresses_of_noIncoming {info : PeerInfo} (h : info.NoIncoming) :
    (purgeIncoming info).addresses = info.addresses := by
  show info.addresses.retain (fun _ v => !v.1.isToTranslate) = info.addresses
  refine AList.retain_of_forall fun a v ha => ?_
  obtain ⟨s, t⟩ := v
  rw [Bool.not_eq_true', ← Bool.not_eq_true, AddressSource.isToTranslate_iff]
  exact h a s t ha

/-- A record without `Incoming` addresses has nothing to translate. -/
theorem translations_of_noIncoming {info : PeerInfo} (h : info.NoIncoming)
    (listenPort : List (IpAddr × UInt16)) : translations info listenPort = some [] := by
  have hnil : info.addressesToTranslate = [] := by
    apply List.eq_nil_iff_forall_not_mem.2
    intro x hx
    obtain ⟨t, ht⟩ := mem_addressesToTranslate.1 hx
    exact h x _ t ht rfl
  simp [translations, hnil]

/-! ## The candidates -/

theorem mem_candidates {enableLoopback : Bool} {info : PeerInfo} {peer : PeerId}
    {ts : List Multiaddr} {a : Multiaddr} :
    a ∈ candidates enableLoopback info peer ts ↔
      a ∈ ts ∨ ∃ l ∈ info.listeners, (enableLoopback || !l.isLoopback) = true ∧
        normalizeAddrRef l peer = a := by
  simp only [candidates, List.mem_dedup, List.mem_append, listenCandidates, List.mem_map,
    List.mem_filter, purgeIncoming_listeners, and_assoc]

/-! ## One candidate

`setInfoIngest` writes at most the entry of the address it is given, never adds an
`Incoming` one, leaves the address at `Listen` or above unless it is one of our listeners,
and on an address already at `Listen` or above does nothing but refresh the timestamp. -/

section Ingest

variable (listeners : Finset Multiaddr) (portReuse : Bool) (peer : PeerId) (now : DateTime)

theorem setInfoIngest_lookup_of_ne (acc : PeerInfo × List NetworkBehaviourAction)
    {a addr : Multiaddr} (h : a ≠ addr) :
    (setInfoIngest listeners portReuse peer now acc addr).1.addresses.lookup a =
      acc.1.addresses.lookup a := by
  unfold setInfoIngest
  dsimp only
  split_ifs <;> simp only [ingestAddress_lookup_of_ne h]

theorem setInfoIngest_noIncoming {acc : PeerInfo × List NetworkBehaviourAction}
    (h : acc.1.NoIncoming) (addr : Multiaddr) :
    (setInfoIngest listeners portReuse peer now acc addr).1.NoIncoming := by
  have hlisten : AddressSource.listen ≠ .incoming := by decide
  unfold setInfoIngest
  dsimp only
  split_ifs
  · exact h
  · exact ingestAddress_noIncoming (ingestAddress_noIncoming h hlisten _ _) (by decide) _ _
  · exact ingestAddress_noIncoming h hlisten _ _
  · exact ingestAddress_noIncoming h hlisten _ _

theorem setInfoIngest_listen (acc : PeerInfo × List NetworkBehaviourAction) {addr : Multiaddr}
    (h : addr.pop ∉ listeners) :
    ∃ s t, (setInfoIngest listeners portReuse peer now acc addr).1.addresses.lookup addr =
      some (s, t) ∧ .listen ≤ s := by
  -- ingesting at `Listen` leaves the address at `Listen` or above ...
  have hr : ∃ s t, (acc.1.ingestAddress now addr .listen).1.addresses.lookup addr = some (s, t) ∧
      .listen ≤ s :=
    ⟨_, _, ingestAddress_lookup_self _ _ _ _, source_le_ingestedSource _ _⟩
  unfold setInfoIngest
  dsimp only
  rw [if_neg h]
  split_ifs
  · -- ... and raising it to `Candidate` keeps it there
    obtain ⟨s, t, hs, hle⟩ := hr
    obtain ⟨s', t', hs', hle'⟩ := ingestAddress_rises _ now addr .candidate addr s t hs
    exact ⟨s', t', hs', hle.trans hle'⟩
  · exact hr
  · exact hr

theorem setInfoIngest_stable {acc : PeerInfo × List NetworkBehaviourAction} {addr : Multiaddr}
    (h : addr.pop ∈ listeners ∨
      ∃ s t, acc.1.addresses.lookup addr = some (s, t) ∧ .listen ≤ s) :
    (setInfoIngest listeners portReuse peer now acc addr).2 = acc.2 ∧
      acc.1.SameSources (setInfoIngest listeners portReuse peer now acc addr).1 := by
  by_cases hpop : addr.pop ∈ listeners
  · rw [setInfoIngest_of_listener hpop]
    exact ⟨rfl, SameSources.refl _⟩
  · obtain ⟨s, t, hs, hle⟩ := h.resolve_left hpop
    obtain ⟨hr, hsame⟩ := ingestAddress_sameSources hs hle now
    unfold setInfoIngest
    simp only [if_neg hpop, hr, Bool.false_eq_true, if_false, true_and]
    exact hsame

theorem setInfoIngest_connections (acc : PeerInfo × List NetworkBehaviourAction)
    (addr : Multiaddr) :
    (setInfoIngest listeners portReuse peer now acc addr).1.connections = acc.1.connections := by
  unfold setInfoIngest
  dsimp only
  split_ifs <;> simp [ingestAddress_eq]

/-- A candidate queues at most one dial, of itself, for the peer. -/
theorem setInfoIngest_actions (acc : PeerInfo × List NetworkBehaviourAction) (addr : Multiaddr) :
    (setInfoIngest listeners portReuse peer now acc addr).2 = acc.2 ∨
      (setInfoIngest listeners portReuse peer now acc addr).2 =
        acc.2 ++ [.dial ⟨peer, .always, [addr.pop]⟩ ⟨some (addr, 4), false⟩] := by
  unfold setInfoIngest
  dsimp only
  split_ifs <;> simp

/-! ## The loop over the candidates -/

/-- The loop queues dials of candidates only. -/
theorem mem_foldl_setInfoIngest_actions (l : List Multiaddr)
    (acc : PeerInfo × List NetworkBehaviourAction) {a : NetworkBehaviourAction}
    (ha : a ∈ (l.foldl (setInfoIngest listeners portReuse peer now) acc).2) :
    a ∈ acc.2 ∨ ∃ addr ∈ l, a = .dial ⟨peer, .always, [addr.pop]⟩ ⟨some (addr, 4), false⟩ := by
  induction l generalizing acc with
  | nil => exact .inl ha
  | cons addr l ih =>
    rcases ih _ ha with ha | ⟨x, hx, rfl⟩
    · rcases setInfoIngest_actions listeners portReuse peer now acc addr with h | h <;>
        rw [h] at ha
      · exact .inl ha
      · rcases List.mem_append.1 ha with ha | ha
        · exact .inl ha
        · exact .inr ⟨addr, List.mem_cons_self, List.mem_singleton.1 ha⟩
    · exact .inr ⟨x, List.mem_cons_of_mem addr hx, rfl⟩

theorem foldl_setInfoIngest_connections (l : List Multiaddr)
    (acc : PeerInfo × List NetworkBehaviourAction) :
    (l.foldl (setInfoIngest listeners portReuse peer now) acc).1.connections =
      acc.1.connections := by
  induction l generalizing acc with
  | nil => rfl
  | cons addr l ih => rw [List.foldl_cons, ih, setInfoIngest_connections]

theorem foldl_setInfoIngest_noIncoming (l : List Multiaddr)
    {acc : PeerInfo × List NetworkBehaviourAction} (h : acc.1.NoIncoming) :
    (l.foldl (setInfoIngest listeners portReuse peer now) acc).1.NoIncoming := by
  induction l generalizing acc with
  | nil => exact h
  | cons addr l ih => exact ih (setInfoIngest_noIncoming _ _ _ _ h addr)

/-- An address has an entry after the loop only if it had one before or is a candidate. -/
theorem foldl_setInfoIngest_lookup_ne_none (l : List Multiaddr)
    (acc : PeerInfo × List NetworkBehaviourAction) {a : Multiaddr}
    (h : (l.foldl (setInfoIngest listeners portReuse peer now) acc).1.addresses.lookup a ≠ none) :
    acc.1.addresses.lookup a ≠ none ∨ a ∈ l := by
  induction l generalizing acc with
  | nil => exact .inl h
  | cons addr l ih =>
    rcases ih _ h with h | h
    · by_cases hab : a = addr
      · exact .inr (hab ▸ List.mem_cons_self)
      · rw [setInfoIngest_lookup_of_ne _ _ _ _ _ hab] at h
        exact .inl h
    · exact .inr (List.mem_cons_of_mem addr h)

/-- Every candidate that is not one of our listeners ends the loop at `Listen` or above: the
step that ingests it puts it there and the later steps lower no source. -/
theorem foldl_setInfoIngest_listen (l : List Multiaddr)
    (acc : PeerInfo × List NetworkBehaviourAction) {addr : Multiaddr} (hmem : addr ∈ l)
    (hpop : addr.pop ∉ listeners) :
    ∃ s t, (l.foldl (setInfoIngest listeners portReuse peer now) acc).1.addresses.lookup addr =
      some (s, t) ∧ .listen ≤ s := by
  induction l generalizing acc with
  | nil => cases hmem
  | cons x l ih =>
    rcases List.mem_cons.1 hmem with rfl | hmem
    · obtain ⟨s, t, hs, hle⟩ := setInfoIngest_listen listeners portReuse peer now acc hpop
      obtain ⟨s', t', hs', hle'⟩ :=
        foldl_setInfoIngest_rises listeners portReuse peer now l _ addr s t hs
      exact ⟨s', t', hs', hle.trans hle'⟩
    · exact ih _ hmem

/-- A loop over candidates that are all our listeners or already at `Listen` or above queues
nothing and changes no source. -/
theorem foldl_setInfoIngest_stable (l : List Multiaddr)
    (acc : PeerInfo × List NetworkBehaviourAction)
    (h : ∀ x ∈ l, x.pop ∈ listeners ∨
      ∃ s t, acc.1.addresses.lookup x = some (s, t) ∧ .listen ≤ s) :
    (l.foldl (setInfoIngest listeners portReuse peer now) acc).2 = acc.2 ∧
      acc.1.SameSources (l.foldl (setInfoIngest listeners portReuse peer now) acc).1 := by
  induction l generalizing acc with
  | nil => exact ⟨rfl, SameSources.refl _⟩
  | cons x l ih =>
    obtain ⟨h2, hsame⟩ := setInfoIngest_stable listeners portReuse peer now (h x List.mem_cons_self)
    -- the hypothesis carries over to the next accumulator, which has the same sources
    have h' : ∀ y ∈ l, y.pop ∈ listeners ∨ ∃ s t,
        (setInfoIngest listeners portReuse peer now acc x).1.addresses.lookup y = some (s, t) ∧
          .listen ≤ s := by
      intro y hy
      rcases h y (List.mem_cons_of_mem x hy) with hpop | ⟨s, t, hs, hle⟩
      · exact .inl hpop
      · obtain ⟨t', ht'⟩ := hsame.lookup hs
        exact .inr ⟨s, t', ht', hle⟩
    obtain ⟨ih2, ihsame⟩ := ih _ h'
    exact ⟨ih2.trans h2, hsame.trans ihsame⟩

end Ingest

/-! ## The record `set_info` leaves -/

section Result

variable (b : AddressBook) (now : DateTime) (peer : PeerId) (info : PeerInfo)
  (ts : List Multiaddr)

theorem ingestCandidates_noIncoming : (ingestCandidates b now peer info ts).1.NoIncoming :=
  foldl_setInfoIngest_noIncoming _ _ _ _ _ (purgeIncoming_noIncoming info)

theorem ingestCandidates_rises :
    (purgeIncoming info).Rises (ingestCandidates b now peer info ts).1 :=
  foldl_setInfoIngest_rises _ _ _ _ _ (purgeIncoming info, b.actions)

theorem ingestCandidates_listen {l : Multiaddr} (hl : l ∈ info.listeners)
    (hf : (b.settings.enableLoopback || !l.isLoopback) = true)
    (hpop : (normalizeAddrRef l peer).pop ∉ b.listeners) :
    ∃ s t, (ingestCandidates b now peer info ts).1.addresses.lookup (normalizeAddrRef l peer) =
      some (s, t) ∧ .listen ≤ s :=
  foldl_setInfoIngest_listen _ _ _ _ _ _ (mem_candidates.2 (.inr ⟨l, hl, hf, rfl⟩)) hpop

theorem ingestCandidates_lookup_ne_none {a : Multiaddr}
    (h : (ingestCandidates b now peer info ts).1.addresses.lookup a ≠ none)
    (hnone : info.addresses.lookup a = none) :
    a ∈ ts ∨ ∃ l ∈ info.listeners, (b.settings.enableLoopback || !l.isLoopback) = true ∧
      normalizeAddrRef l peer = a := by
  rcases foldl_setInfoIngest_lookup_ne_none _ _ _ _ _ _ h with h | h
  · -- the purge adds no address
    rw [purgeIncoming_lookup, hnone, Option.filter_none] at h
    exact absurd rfl h
  · exact mem_candidates.1 h

end Result

/-- **`set_info` never panics, and what it leaves in the peer's record.**  On an unknown peer
it changes nothing.  On a known one it returns a book whose record for the peer
(a) has no `Incoming` address,
(b) keeps every address that was not `Incoming`, at a source at least as high,
(c) has every advertised listen address that passes the loopback filter, named with the
peer, at `Listen` or above, unless its transport part is one of our own listeners, and
(d) has no new address other than those listen addresses and translations of addresses that
were `Incoming`. -/
theorem setInfo_postcondition (b : AddressBook) (now : DateTime) (peer : PeerId)
    (identify : IdentifyInfo) :
    (b.peers.lookup peer = none → b.setInfo now peer identify = some b) ∧
    ∀ info, b.peers.lookup peer = some info →
      ∃ b' info', b.setInfo now peer identify = some b' ∧ b'.peers.lookup peer = some info' ∧
        info'.NoIncoming ∧
        (∀ a s t, info.addresses.lookup a = some (s, t) → s ≠ .incoming →
          ∃ s' t', info'.addresses.lookup a = some (s', t') ∧ s ≤ s') ∧
        (∀ l ∈ identify.listenAddrs, (b.settings.enableLoopback || !l.isLoopback) = true →
          (normalizeAddrRef l peer).pop ∉ b.listeners →
          ∃ s t, info'.addresses.lookup (normalizeAddrRef l peer) = some (s, t) ∧ .listen ≤ s) ∧
        (∀ a, info'.addresses.lookup a ≠ none → info.addresses.lookup a = none →
          (∃ l ∈ identify.listenAddrs, (b.settings.enableLoopback || !l.isLoopback) = true ∧
            normalizeAddrRef l peer = a) ∨
          ∃ x t, info.addresses.lookup x = some (.incoming, t) ∧ IsTranslation a x) := by
  refine ⟨fun hl => setInfo_of_lookup_none hl now identify, fun info hl => ?_⟩
  obtain ⟨ts, ht, hts⟩ :=
    translations_eq_some (withIdentify info identify) (listenPort (withIdentify info identify) peer)
  refine ⟨_, (ingestCandidates b now peer (withIdentify info identify) ts).1,
    setInfo_of_translations hl ht, by simp, ingestCandidates_noIncoming _ _ _ _ _, ?_, ?_, ?_⟩
  · -- (b): the purge keeps the address and the loop lowers no source
    intro a s t ha hs
    apply ingestCandidates_rises b now peer (withIdentify info identify) ts a s t
    rw [purgeIncoming_lookup, withIdentify_addresses, ha]
    simp [(AddressSource.isToTranslate_iff s).not.2 hs]
  · -- (c)
    intro l hl hf hpop
    exact ingestCandidates_listen b now peer (withIdentify info identify) ts hl hf hpop
  · -- (d): a new address is a candidate, so a translation or a listen address
    intro a ha hnone
    rcases ingestCandidates_lookup_ne_none b now peer _ ts ha hnone with h | ⟨l, hl, hf, rfl⟩
    · obtain ⟨x, t, hx, hax⟩ := hts a h
      exact .inr ⟨x, t, hx, hax⟩
    · exact .inl ⟨l, hl, hf, rfl⟩

/-- A peer known from an incoming connection on `1.2.3.4:5555` that then advertises
`1.2.3.4:4001`: `set_info` does not panic and leaves no `Incoming` address. -/
theorem setInfo_postcondition_incoming :
    ∃ b' info',
      ((AddressBook.new ⟨0⟩ false false false).addAddress 0 ⟨1⟩
          ⟨[.ip4 ⟨1, 2, 3, 4⟩, .tcp 5555]⟩ .incoming).setInfo 5 ⟨1⟩
        ⟨"ipfs/0.1.0", "ipfs-embed", [⟨[.ip4 ⟨1, 2, 3, 4⟩, .tcp 4001]⟩], []⟩ = some b' ∧
      b'.peers.lookup ⟨1⟩ = some info' ∧ info'.NoIncoming := by
  obtain ⟨b', info', h, hl, hno, -⟩ := (setInfo_postcondition
    ((AddressBook.new ⟨0⟩ false false false).addAddress 0 ⟨1⟩
      ⟨[.ip4 ⟨1, 2, 3, 4⟩, .tcp 5555]⟩ .incoming) 5 ⟨1⟩
    ⟨"ipfs/0.1.0", "ipfs-embed", [⟨[.ip4 ⟨1, 2, 3, 4⟩, .tcp 4001]⟩], []⟩).2 _ rfl
  exact ⟨b', info', h, hl, hno⟩

/-- The loopback filter of `set_info` is `isLoopback`, which counts every address that does
not start with `/ip4` as loopback: with `enable_loopback` off, an advertised listen address on
a global IPv6 address is not recorded. -/
theorem setInfo_drops_ip6_listen :
    Multiaddr.startsWithLoopbackIp ⟨[.ip6 ⟨0x20010db8000000000000000000000001⟩, .tcp 4001]⟩ = false ∧
    ∃ b' info',
      ((AddressBook.new ⟨0⟩ false false false).addAddress 0 ⟨1⟩
          ⟨[.ip4 ⟨1, 2, 3, 4⟩, .tcp 4001]⟩ .dial).setInfo 5 ⟨1⟩
        ⟨"ipfs/0.1.0", "ipfs-embed",
          [⟨[.ip6 ⟨0x20010db8000000000000000000000001⟩, .tcp 4001]⟩], []⟩ = some b' ∧
      b'.peers.lookup ⟨1⟩ = some info' ∧
      info'.addresses.lookup (normalizeAddrRef
        ⟨[.ip6 ⟨0x20010db8000000000000000000000001⟩, .tcp 4001]⟩ ⟨1⟩) = none :=
  ⟨by decide, _, _, rfl, rfl, by decide⟩

/-! ## A second call with the same information -/

/-- The source under which `b` files address `a` of peer `q`, if any. -/
def sourceOf (b : AddressBook) (q : PeerId) (a : Multiaddr) : Option AddressSource :=
  (b.peers.lookup q).bind fun info => (info.addresses.lookup a).map (·.1)

/-- A record without `Incoming` addresses that already holds every listen candidate at
`Listen` or above is left alone by `set_info`: no action is queued and no source moves. -/
theorem setInfo_of_settled {b : AddressBook} {peer : PeerId} {info : PeerInfo}
    {identify : IdentifyInfo} (hl : b.peers.lookup peer = some info) (hno : info.NoIncoming)
    (hlisten : ∀ l ∈ identify.listenAddrs, (b.settings.enableLoopback || !l.isLoopback) = true →
      (normalizeAddrRef l peer).pop ∉ b.listeners →
      ∃ s t, info.addresses.lookup (normalizeAddrRef l peer) = some (s, t) ∧ .listen ≤ s)
    (now : DateTime) :
    ∃ b', b.setInfo now peer identify = some b' ∧ b'.actions = b.actions ∧
      ∀ q a, b'.sourceOf q a = b.sourceOf q a := by
  have hno' : (withIdentify info identify).NoIncoming := hno
  have hpurge := purgeIncoming_addresses_of_noIncoming hno'
  -- nothing to translate, so the candidates are the listen candidates
  have ht := translations_of_noIncoming hno' (listenPort (withIdentify info identify) peer)
  refine ⟨_, setInfo_of_translations hl ht, ?_⟩
  have hcands : ∀ x ∈ candidates b.settings.enableLoopback (withIdentify info identify) peer [],
      x.pop ∈ b.listeners ∨ ∃ s t,
        (purgeIncoming (withIdentify info identify)).addresses.lookup x = some (s, t) ∧
          .listen ≤ s := by
    intro x hx
    rcases mem_candidates.1 hx with hx | ⟨l, hl, hf, rfl⟩
    · cases hx
    · by_cases hpop : (normalizeAddrRef l peer).pop ∈ b.listeners
      · exact .inl hpop
      · rw [hpurge]
        exact .inr (hlisten l hl hf hpop)
  obtain ⟨hact, hsame⟩ := foldl_setInfoIngest_stable b.listeners b.settings.portReuse peer now _
    (purgeIncoming (withIdentify info identify), b.actions) hcands
  refine ⟨hact, fun q a => ?_⟩
  simp only [sourceOf, notify_peers, setPeer_peers, AList.lookup_insert_eq_ite]
  split_ifs with hq
  · subst hq
    rw [hl, Option.bind_some, Option.bind_some]
    have ha := hsame a
    rw [hpurge] at ha
    exact ha.symm
  · rfl

/-- **`set_info` is idempotent.**  Once `set_info` has run, a second call with the same
Identify information does not panic, queues no action and changes no peer's address
sources; only timestamps move. -/
theorem setInfo_idempotent {b b₁ : AddressBook} {now : DateTime} {peer : PeerId}
    {identify : IdentifyInfo} (h₁ : b.setInfo now peer identify = some b₁) (now' : DateTime) :
    ∃ b₂, b₁.setInfo now' peer identify = some b₂ ∧ b₂.actions = b₁.actions ∧
      ∀ q a, b₂.sourceOf q a = b₁.sourceOf q a := by
  rcases setInfo_eq_some h₁ with ⟨hl, rfl⟩ | ⟨info, ts, hl, -, rfl⟩
  · -- an unknown peer: both calls change nothing
    exact ⟨_, setInfo_of_lookup_none hl now' identify, rfl, fun _ _ => rfl⟩
  · -- the first call leaves no `Incoming` address and every listen candidate in place
    refine setInfo_of_settled (AList.lookup_insert _) (ingestCandidates_noIncoming _ _ _ _ _) ?_ now'
    intro l hl hf hpop
    exact ingestCandidates_listen b now peer (withIdentify info identify) ts hl hf hpop

/-- A peer known from an incoming connection on `1.2.3.4:5555` advertises `1.2.3.4:4001`: the
first call translates the incoming address and queues dials, the second queues nothing. -/
theorem setInfo_idempotent_incoming :
    ∃ b₁, ((AddressBook.new ⟨0⟩ false false false).addAddress 0 ⟨1⟩
          ⟨[.ip4 ⟨1, 2, 3, 4⟩, .tcp 5555]⟩ .incoming).setInfo 5 ⟨1⟩
        ⟨"ipfs/0.1.0", "ipfs-embed", [⟨[.ip4 ⟨1, 2, 3, 4⟩, .tcp 4001]⟩], []⟩ = some b₁ ∧
      ∃ b₂, b₁.setInfo 9 ⟨1⟩
        ⟨"ipfs/0.1.0", "ipfs-embed", [⟨[.ip4 ⟨1, 2, 3, 4⟩, .tcp 4001]⟩], []⟩ = some b₂ ∧
      b₂.actions = b₁.actions := by
  obtain ⟨b₁, h₁⟩ : ∃ b₁, ((AddressBook.new ⟨0⟩ false false false).addAddress 0 ⟨1⟩
      ⟨[.ip4 ⟨1, 2, 3, 4⟩, .tcp 5555]⟩ .incoming).setInfo 5 ⟨1⟩
      ⟨"ipfs/0.1.0", "ipfs-embed", [⟨[.ip4 ⟨1, 2, 3, 4⟩, .tcp 4001]⟩], []⟩ = some b₁ := ⟨_, rfl⟩
  obtain ⟨b₂, h₂, hact, -⟩ := setInfo_idempotent h₁ 9
  exact ⟨b₁, h₁, b₂, h₂, hact⟩

end AddressBook

end IpfsEmbed
