import IpfsEmbed.Properties.Connections
import IpfsEmbed.Properties.Events
import Mathlib.Data.List.Chain

/-!
# The connection events against the swarm's connections

The book tells its subscribers about connections with five events: `ConnectionEstablished` and
`ConnectionClosed` for each connection, `AddressChanged` when one gets a new endpoint, and
`Connected` and `Disconnected` when a peer gets its first connection and loses its last.  The
harness waits on them (`Connected(id)`, `Disconnected(p)`) and the CLI prints them.

A subscriber that follows only these events (`ConnView`) rebuilds, for each peer, the endpoints
of the swarm's open connections to it and whether it has one.  In every run of the swarm, under
any interleaving of the book's other calls, the endpoints it holds are those of the open
connections, normalized as the book reports them, up to order; it was last told `Connected`
exactly when the swarm has a connection to the peer; and `Connected` and `Disconnected`
alternate, starting with `Connected`.

The book's other calls keep the settings and send no connection event (`BookOp.sends_quiet`),
so only the three callbacks the swarm makes move the subscriber's view, each by what it does to
the swarm's table.
-/

namespace IpfsEmbed

/-! ## The connection events and a subscriber that follows them -/

namespace Event

theorem not_isConnection_of_isRecord {e : Event} (h : e.isRecord) : e.isConnection = false := by
  cases e <;> simp_all [isRecord, isConnection]

theorem not_isConnection_of_isListen {e : Event} (h : e.isListen) : e.isConnection = false := by
  cases e <;> simp_all [isListen, isConnection]

/-- `Connected p` as `true` and `Disconnected p` as `false`. -/
def connFlag? (p : PeerId) : Event → Option Bool
  | .connected q => if q = p then some true else none
  | .disconnected q => if q = p then some false else none
  | _ => none

theorem connFlag?_of_not_isConnection {e : Event} (h : e.isConnection = false) (p : PeerId) :
    e.connFlag? p = none := by
  cases e <;> simp_all [isConnection, connFlag?]

end Event

/-- What a subscriber that follows the connection events knows of one peer. -/
structure ConnView where
  /-- The endpoints of the peer's open connections, as the events report them. -/
  endpoints : List ConnectedPoint
  /-- Whether the last of `Connected` and `Disconnected` was `Connected`. -/
  connected : Bool
  deriving DecidableEq, Repr

namespace ConnView

/-- One event, as the subscriber that follows `p` takes it. -/
def apply (p : PeerId) (v : ConnView) : Event → ConnView
  | .connectionEstablished q cp => if q = p then { v with endpoints := cp :: v.endpoints } else v
  | .connectionClosed q cp => if q = p then { v with endpoints := v.endpoints.erase cp } else v
  | .addressChanged q old new =>
    if q = p then { v with endpoints := new :: v.endpoints.erase old } else v
  | .connected q => if q = p then { v with connected := true } else v
  | .disconnected q => if q = p then { v with connected := false } else v
  | _ => v

theorem apply_of_not_isConnection (p : PeerId) (v : ConnView) {e : Event}
    (h : e.isConnection = false) : v.apply p e = v := by
  cases e <;> simp_all [Event.isConnection, apply]

/-- Only `Connected` and `Disconnected` move the flag. -/
theorem apply_connected (p : PeerId) (v : ConnView) (e : Event) :
    (v.apply p e).connected = (e.connFlag? p).getD v.connected := by
  cases e
  case connectionEstablished | connectionClosed | addressChanged | connected | disconnected =>
    simp only [apply, Event.connFlag?]
    split_ifs <;> rfl
  all_goals rfl

theorem foldl_apply_of_quiet (p : PeerId) (v : ConnView) {new : List Event}
    (h : ∀ e ∈ new, e.isConnection = false) : new.foldl (apply p) v = v := by
  induction new generalizing v with
  | nil => rfl
  | cons e new ih =>
    rw [List.foldl_cons, apply_of_not_isConnection p v (h e List.mem_cons_self)]
    exact ih v fun e' he' => h e' (List.mem_cons_of_mem e he')

end ConnView

/-- The view of `p` a subscriber builds from the events `es`, starting from nothing. -/
def connView (p : PeerId) (es : List Event) : ConnView :=
  es.foldl (ConnView.apply p) ⟨[], false⟩

/-- The `Connected` and `Disconnected` events of `p` among `es`, in order. -/
def connFlags (p : PeerId) (es : List Event) : List Bool :=
  es.filterMap (Event.connFlag? p)

section View

variable (p : PeerId) (es : List Event) {new : List Event}

theorem connView_append (new : List Event) :
    connView p (es ++ new) = new.foldl (ConnView.apply p) (connView p es) :=
  List.foldl_append

theorem connView_append_quiet (h : ∀ e ∈ new, e.isConnection = false) :
    connView p (es ++ new) = connView p es := by
  rw [connView_append, ConnView.foldl_apply_of_quiet p _ h]

theorem connFlags_append (new : List Event) :
    connFlags p (es ++ new) = connFlags p es ++ connFlags p new :=
  List.filterMap_append

theorem connFlags_of_quiet (h : ∀ e ∈ new, e.isConnection = false) : connFlags p new = [] :=
  List.filterMap_eq_nil_iff.2 fun e he => Event.connFlag?_of_not_isConnection (h e he) p

/-- The subscriber's flag is the last flag sent, `false` before the first. -/
theorem connView_connected : (connView p es).connected = (connFlags p es).getLastD false := by
  induction es using List.reverseRecOn with
  | nil => rfl
  | append_singleton es e ih =>
    rw [connView_append, List.foldl_cons, List.foldl_nil, ConnView.apply_connected, ih,
      connFlags_append]
    simp only [connFlags, List.filterMap_cons, List.filterMap_nil]
    cases e.connFlag? p <;> simp

end View

/-- A flag that differs from the last one keeps the flags alternating. -/
theorem isChain_ne_append {flags : List Bool} (h : List.IsChain (· ≠ ·) (false :: flags))
    {b : Bool} (hb : flags.getLastD false ≠ b) : List.IsChain (· ≠ ·) (false :: (flags ++ [b])) := by
  rw [← List.cons_append]
  refine h.append (List.isChain_singleton b) fun x hx y hy => ?_
  rw [List.getLastD_eq_getLast?] at hb
  rw [List.getLast?_cons, Option.mem_some_iff] at hx
  rw [List.head?_cons, Option.mem_some_iff] at hy
  rw [← hx, ← hy]
  exact hb

/-! ## What a subscriber sees of each call -/

/-- The calls other than the connection callbacks send no connection event. -/
theorem BookOp.sends_quiet {b b' : AddressBook} {now : DateTime} {op : BookOp}
    (hop : op.isConnectionCallback = false) (he : op.exec b now = some b') :
    AddressBook.Sends (fun e => e.isConnection = false) b b' :=
  (BookOp.sends he).mono fun _ h => by
    rcases h with h | ⟨-, h⟩ | ⟨h, -⟩
    · exact Event.not_isConnection_of_isRecord h
    · exact Event.not_isConnection_of_isListen h
    · rw [hop] at h
      exact absurd h Bool.false_ne_true

namespace AddressBook

namespace Sends

variable {b b₁ : AddressBook}

/-- After a stretch without connection events, the subscriber's view moves only by what
follows. -/
theorem connView_append (h : Sends (fun e => e.isConnection = false) b b₁) (p : PeerId)
    (tail : List Event) :
    connView p (b₁.events ++ tail) = tail.foldl (ConnView.apply p) (connView p b.events) := by
  obtain ⟨new, hn, hq⟩ := h.events
  rw [hn, IpfsEmbed.connView_append, connView_append_quiet p _ hq]

theorem connFlags_append (h : Sends (fun e => e.isConnection = false) b b₁) (p : PeerId)
    (tail : List Event) :
    connFlags p (b₁.events ++ tail) = connFlags p b.events ++ connFlags p tail := by
  obtain ⟨new, hn, hq⟩ := h.events
  rw [hn, IpfsEmbed.connFlags_append, IpfsEmbed.connFlags_append, connFlags_of_quiet p hq,
    List.append_nil]

theorem connView_eq (h : Sends (fun e => e.isConnection = false) b b₁) (p : PeerId) :
    connView p b₁.events = connView p b.events := by
  simpa using h.connView_append p []

theorem connFlags_eq (h : Sends (fun e => e.isConnection = false) b b₁) (p : PeerId) :
    connFlags p b₁.events = connFlags p b.events := by
  simpa [connFlags] using h.connFlags_append p []

end Sends

section Callbacks

variable (b : AddressBook) (now : DateTime) (peer q : PeerId)

/-- `add_address`, which each callback makes first, sends no connection event. -/
theorem sends_quiet_addAddress (address : Multiaddr) (source : AddressSource) :
    Sends (fun e => e.isConnection = false) b (b.addAddress now peer address source) :=
  (sends_addAddress b now peer address source).mono fun _ => Event.not_isConnection_of_isRecord

theorem connView_injectConnectionEstablished (conn : ConnectedPoint) (n : Nat) :
    connView q (b.injectConnectionEstablished now peer conn n).events =
      if peer = q then
        ⟨normalizeConnectedPoint conn b.settings.localPeerId peer :: (connView q b.events).endpoints,
          decide (n = 0) || (connView q b.events).connected⟩
      else connView q b.events := by
  rw [injectConnectionEstablished_events, Sends.connView_append (sends_quiet_addAddress _ _ _ _ _)]
  split_ifs with hq hn hn <;> simp [ConnView.apply, hq, hn]

theorem connFlags_injectConnectionEstablished (conn : ConnectedPoint) (n : Nat) :
    connFlags q (b.injectConnectionEstablished now peer conn n).events =
      connFlags q b.events ++ if peer = q ∧ n = 0 then [true] else [] := by
  rw [injectConnectionEstablished_events, Sends.connFlags_append (sends_quiet_addAddress _ _ _ _ _)]
  split_ifs with h h' h' <;> simp_all [connFlags, Event.connFlag?, List.filterMap_cons]

theorem connView_connectionClosed (conn : ConnectedPoint) (n : Nat) (error : Option ConnectionError) :
    connView q (b.connectionClosed now peer conn n error).events =
      if peer = q then
        ⟨(connView q b.events).endpoints.erase (normalizeConnectedPoint conn b.settings.localPeerId peer),
          !decide (n = 0) && (connView q b.events).connected⟩
      else connView q b.events := by
  rw [connectionClosed_events, connView_append_quiet q _ (by simp [Event.isConnection]),
    IpfsEmbed.connView_append]
  split_ifs with hq hn hn <;> simp [ConnView.apply, hq, hn]

theorem connFlags_connectionClosed (conn : ConnectedPoint) (n : Nat) (error : Option ConnectionError) :
    connFlags q (b.connectionClosed now peer conn n error).events =
      connFlags q b.events ++ if peer = q ∧ n = 0 then [false] else [] := by
  rw [connectionClosed_events, IpfsEmbed.connFlags_append, IpfsEmbed.connFlags_append]
  split_ifs with h h' h' <;> simp_all [connFlags, Event.connFlag?, List.filterMap_cons]

theorem connView_injectAddressChange (old new : ConnectedPoint) :
    connView q (b.injectAddressChange now peer old new).events =
      if peer = q then
        { connView q b.events with
          endpoints := normalizeConnectedPoint new b.settings.localPeerId peer ::
            (connView q b.events).endpoints.erase (normalizeConnectedPoint old b.settings.localPeerId peer) }
      else connView q b.events := by
  rw [injectAddressChange_events, Sends.connView_append (sends_quiet_addAddress _ _ _ _ _)]
  split_ifs with hq <;> simp [ConnView.apply, hq]

theorem connFlags_injectAddressChange (old new : ConnectedPoint) :
    connFlags q (b.injectAddressChange now peer old new).events = connFlags q b.events := by
  rw [injectAddressChange_events, Sends.connFlags_append (sends_quiet_addAddress _ _ _ _ _)]
  simp [connFlags, Event.connFlag?]

end Callbacks

end AddressBook


/-! ## The subscriber against a list of open connections -/

namespace ConnView

/-- The view `v` of a peer, sent the flags `flags`, agrees with `endpoints`, the endpoints of
the peer's open connections: the same endpoints up to order, the flag set exactly when there
is one, the flag the last one sent, and the flags alternating from `Connected`. -/
structure Agrees (v : ConnView) (flags : List Bool) (endpoints : List ConnectedPoint) : Prop where
  perm : v.endpoints.Perm endpoints
  connected : v.connected = !endpoints.isEmpty
  last : flags.getLastD false = v.connected
  alternate : List.IsChain (· ≠ ·) (false :: flags)

namespace Agrees

variable {v : ConnView} {flags : List Bool} {endpoints : List ConnectedPoint}

theorem nil : Agrees ⟨[], false⟩ [] [] :=
  ⟨List.Perm.refl _, rfl, rfl, List.isChain_singleton false⟩

theorem perm_right (h : v.Agrees flags endpoints) {endpoints' : List ConnectedPoint}
    (he : endpoints.Perm endpoints') : v.Agrees flags endpoints' :=
  ⟨h.perm.trans he, by rw [h.connected, he.isEmpty_eq], h.last, h.alternate⟩

/-- A new connection: its endpoint joins, and `Connected` comes when it is the first. -/
theorem «open» (h : v.Agrees flags endpoints) (cp : ConnectedPoint) {n : Nat}
    (hn : n = endpoints.length) :
    Agrees ⟨cp :: v.endpoints, decide (n = 0) || v.connected⟩
      (flags ++ if n = 0 then [true] else []) (cp :: endpoints) := by
  subst hn
  cases endpoints with
  | nil =>
    -- the first connection: the last flag was `Disconnected`, or none was sent
    have hoff : v.connected = false := h.connected
    refine ⟨h.perm.cons cp, rfl, ?_, ?_⟩
    · rw [if_pos List.length_nil, List.getLastD_concat]
      rfl
    · exact isChain_ne_append h.alternate (by rw [h.last, hoff]; decide)
  | cons e endpoints =>
    have hon : v.connected = true := h.connected
    have hlen : (e :: endpoints).length ≠ 0 := List.cons_ne_nil e endpoints ∘ List.eq_nil_of_length_eq_zero
    refine ⟨h.perm.cons cp, by simp [hon], ?_, ?_⟩
    · rw [if_neg hlen, List.append_nil, h.last, hon]
      rfl
    · rw [if_neg hlen, List.append_nil]
      exact h.alternate

/-- A closed connection: its endpoint leaves, and `Disconnected` comes when it was the last. -/
theorem close (h : v.Agrees flags (cp :: endpoints)) {n : Nat} (hn : n = endpoints.length) :
    Agrees ⟨v.endpoints.erase cp, !decide (n = 0) && v.connected⟩
      (flags ++ if n = 0 then [false] else []) endpoints := by
  subst hn
  have hon : v.connected = true := h.connected
  have hperm : (v.endpoints.erase cp).Perm endpoints := by
    have := h.perm.erase cp
    rwa [List.erase_cons_head] at this
  cases endpoints with
  | nil =>
    -- the last connection: `Disconnected` follows the `Connected` before it
    refine ⟨hperm, rfl, ?_, ?_⟩
    · rw [if_pos List.length_nil, List.getLastD_concat]
      rfl
    · exact isChain_ne_append h.alternate (by rw [h.last, hon]; decide)
  | cons e endpoints =>
    have hlen : (e :: endpoints).length ≠ 0 := List.cons_ne_nil e endpoints ∘ List.eq_nil_of_length_eq_zero
    refine ⟨hperm, by simp [hon], ?_, ?_⟩
    · rw [if_neg hlen, List.append_nil, h.last, hon]
      rfl
    · rw [if_neg hlen, List.append_nil]
      exact h.alternate

/-- A connection that moves: its endpoint is replaced, and no flag is sent. -/
theorem change (h : v.Agrees flags (old :: endpoints)) (new : ConnectedPoint) :
    Agrees { v with endpoints := new :: v.endpoints.erase old } flags (new :: endpoints) := by
  have hon : v.connected = true := h.connected
  have hperm : (v.endpoints.erase old).Perm endpoints := by
    have := h.perm.erase old
    rwa [List.erase_cons_head] at this
  exact ⟨hperm.cons new, by rw [hon]; rfl, h.last, h.alternate⟩

end Agrees

end ConnView


/-! ## The swarm's connections -/

namespace World

/-- The endpoints of the connections to `p` among the entries `l` of a connection table,
normalized with `localPeer` as the book reports them. -/
def endpointsIn (localPeer p : PeerId) (l : List (Σ _ : Nat, SwarmConnection)) :
    List ConnectedPoint :=
  (l.filter fun e => e.2.peer = p).map fun e => normalizeConnectedPoint e.2.endpoint localPeer p

/-- The endpoints of the swarm's open connections to `p`, as the book reports them. -/
def endpointsOf (w : World) (p : PeerId) : List ConnectedPoint :=
  endpointsIn w.book.settings.localPeerId p w.connections.entries

section Endpoints

variable {localPeer p : PeerId}

theorem endpointsIn_cons (e : Σ _ : Nat, SwarmConnection) (l : List (Σ _ : Nat, SwarmConnection)) :
    endpointsIn localPeer p (e :: l) =
      if e.2.peer = p then normalizeConnectedPoint e.2.endpoint localPeer p :: endpointsIn localPeer p l
      else endpointsIn localPeer p l := by
  unfold endpointsIn
  split_ifs with h <;> simp [h]

theorem endpointsIn_perm {l l' : List (Σ _ : Nat, SwarmConnection)} (h : l.Perm l') :
    (endpointsIn localPeer p l).Perm (endpointsIn localPeer p l') :=
  (h.filter _).map _

theorem length_endpointsIn (l : List (Σ _ : Nat, SwarmConnection)) :
    (endpointsIn localPeer p l).length = l.countP fun e => e.2.peer = p := by
  simp [endpointsIn, List.countP_eq_length_filter]

end Endpoints

variable {w w' : World} {now : DateTime} {e : SwarmEvent}

theorem established_eq_length (w : World) (p : PeerId) :
    w.established p = (w.endpointsOf p).length :=
  (length_endpointsIn _).symm

theorem endpointsOf_ne_nil_iff {p : PeerId} : w.endpointsOf p ≠ [] ↔ w.ConnectedTo p := by
  simp only [endpointsOf, endpointsIn, ne_eq, List.map_eq_nil_iff, List.filter_eq_nil_iff,
    decide_eq_true_eq, not_forall, not_not, exists_prop]
  constructor
  · rintro ⟨⟨id, c⟩, hm, hp⟩
    exact ⟨id, c, AList.mem_lookup_iff.2 hm, hp⟩
  · rintro ⟨id, c, hc, hp⟩
    exact ⟨⟨id, c⟩, AList.mem_lookup_iff.1 hc, hp⟩

/-- Up to order, the open connection `id` stands in front of the others. -/
theorem endpointsIn_perm_erase {id : Nat} {c : SwarmConnection}
    (hc : w.connections.lookup id = some c) (localPeer p : PeerId) :
    (endpointsIn localPeer p w.connections.entries).Perm
      (endpointsIn localPeer p (⟨id, c⟩ :: (w.connections.erase id).entries)) :=
  endpointsIn_perm (AList.entries_perm_cons_erase hc)

/-! ## Every run -/

/-- For every peer, a subscriber to the book's events agrees with the swarm's table. -/
def EventsAgree (w : World) : Prop :=
  ∀ p, (connView p w.book.events).Agrees (connFlags p w.book.events) (w.endpointsOf p)

/-- What every run keeps: fresh ids, and subscribers that agree with the table. -/
structure EventsTrack (w : World) : Prop where
  fresh : w.Fresh
  agree : w.EventsAgree

theorem init_eventsTrack (settings : Settings) : (init settings).EventsTrack :=
  ⟨init_fresh settings, fun _ => ConnView.Agrees.nil⟩

namespace EventsAgree

open AddressBook

variable (h : w.EventsAgree) (now : DateTime)
include h

/-- A new connection takes the next id, and the subscriber of its peer gets its endpoint. -/
theorem established (hf : w.Fresh) (peer : PeerId) (endpoint : ConnectedPoint) :
    EventsAgree ⟨w.book.injectConnectionEstablished now peer endpoint (w.established peer),
      w.connections.insert w.nextId ⟨peer, endpoint⟩, w.nextId + 1⟩ := by
  intro q
  have hnot : w.nextId ∉ w.connections := fun hm => Nat.lt_irrefl _ (hf _ hm)
  simp only [endpointsOf, injectConnectionEstablished_settings, connView_injectConnectionEstablished,
    connFlags_injectConnectionEstablished]
  rw [AList.entries_insert_of_notMem hnot, endpointsIn_cons]
  by_cases hq : peer = q
  · subst hq
    simp only [if_true, true_and]
    exact (h peer).open _ (established_eq_length w peer)
  · simp only [hq, if_false, false_and, List.append_nil]
    exact h q

/-- A closed connection leaves the table, and the subscriber of its peer drops its endpoint. -/
theorem closed {id : Nat} {c : SwarmConnection} (hc : w.connections.lookup id = some c)
    (error : Option ConnectionError) :
    EventsAgree ⟨w.book.connectionClosed now c.peer c.endpoint
        (({ w with connections := w.connections.erase id } : World).established c.peer) error,
      w.connections.erase id, w.nextId⟩ := by
  intro q
  have hagree := (h q).perm_right (endpointsIn_perm_erase hc _ q)
  rw [endpointsIn_cons] at hagree
  simp only [endpointsOf, connectionClosed_settings, connView_connectionClosed,
    connFlags_connectionClosed]
  by_cases hq : c.peer = q
  · subst hq
    rw [if_pos rfl] at hagree
    simp only [if_true, true_and]
    exact hagree.close (established_eq_length _ c.peer)
  · rw [if_neg hq] at hagree
    simp only [hq, if_false, false_and, List.append_nil]
    exact hagree

/-- A connection that moves keeps its id, and the subscriber of its peer moves its endpoint. -/
theorem addressChange {id : Nat} {c : SwarmConnection} (hc : w.connections.lookup id = some c)
    (new : ConnectedPoint) :
    EventsAgree ⟨w.book.injectAddressChange now c.peer c.endpoint new,
      w.connections.insert id ⟨c.peer, new⟩, w.nextId⟩ := by
  intro q
  have hagree := (h q).perm_right (endpointsIn_perm_erase hc _ q)
  rw [endpointsIn_cons] at hagree
  simp only [endpointsOf, injectAddressChange_settings, connView_injectAddressChange,
    connFlags_injectAddressChange]
  rw [AList.entries_insert, endpointsIn_cons]
  by_cases hq : c.peer = q
  · subst hq
    rw [if_pos rfl] at hagree
    simp only [if_true]
    exact hagree.change _
  · rw [if_neg hq] at hagree
    simp only [hq, if_false]
    exact hagree

/-- Any other call of the book leaves the table, and every subscriber, as they are. -/
theorem call {op : BookOp} {b' : AddressBook} (hop : op.isConnectionCallback = false)
    (he : op.exec w.book now = some b') : EventsAgree { w with book := b' } := by
  have hq := BookOp.sends_quiet hop he
  intro p
  simp only [endpointsOf, hq.settings, hq.connView_eq, hq.connFlags_eq]
  exact h p

end EventsAgree

theorem EventsTrack.step (h : w.EventsTrack) (he : w.step now e = some w') : w'.EventsTrack := by
  refine ⟨step_fresh h.fresh he, ?_⟩
  cases e with
  | established peer endpoint =>
    cases he
    exact h.agree.established now h.fresh peer endpoint
  | closed id error =>
    obtain ⟨c, hc, rfl⟩ := Option.map_eq_some_iff.1 he
    exact h.agree.closed now hc error
  | addressChange id new =>
    obtain ⟨c, hc, rfl⟩ := Option.map_eq_some_iff.1 he
    exact h.agree.addressChange now hc new
  | call op =>
    simp only [World.step] at he
    split_ifs at he with hop
    obtain ⟨b', hb', rfl⟩ := Option.map_eq_some_iff.1 he
    exact h.agree.call now (by simpa using hop) hb'

end World

open World

theorem reachable_eventsTrack {w : World} (hw : WorldReachable w) : w.EventsTrack := by
  obtain ⟨settings, hr⟩ := hw
  refine Reach.Reachable.invariant (init_eventsTrack settings) ?_ hr
  rintro s s' hs ⟨⟨now, e⟩, -, he⟩
  exact hs.step he

/-- **The connection events track the swarm.**  In every run, under any interleaving of the
book's calls with the swarm's connection events, a subscriber that follows `p`'s connection
events holds the endpoints of the swarm's open connections to `p`, as the book normalizes them,
up to order; it was last told `Connected` exactly when the swarm has a connection to `p`; and
`Connected` and `Disconnected` alternate, starting with `Connected`. -/
theorem connection_events_track_swarm {w : World} (hw : WorldReachable w) (p : PeerId) :
    (connView p w.book.events).endpoints.Perm (w.endpointsOf p) ∧
      ((connView p w.book.events).connected = true ↔ w.ConnectedTo p) ∧
      List.IsChain (· ≠ ·) (false :: connFlags p w.book.events) := by
  have h := (reachable_eventsTrack hw).agree p
  refine ⟨h.perm, ?_, h.alternate⟩
  rw [h.connected, ← endpointsOf_ne_nil_iff, Bool.not_eq_true', List.isEmpty_eq_false_iff]


/-- A peer opens two connections and closes the first: its subscriber was sent `Connected`
once and no `Disconnected`, and holds the endpoint of the connection left. -/
theorem connection_events_track_swarm_two_open :
    ∃ w, WorldReachable w ∧ connFlags ⟨1⟩ w.book.events = [true] ∧
      (connView ⟨1⟩ w.book.events).endpoints.length = 1 ∧
      ((connView ⟨1⟩ w.book.events).endpoints.Perm (w.endpointsOf ⟨1⟩) ∧
        ((connView ⟨1⟩ w.book.events).connected = true ↔ w.ConnectedTo ⟨1⟩) ∧
        List.IsChain (· ≠ ·) (false :: connFlags ⟨1⟩ w.book.events)) := by
  have hw : WorldReachable _ := ⟨⟨false, false, false, ⟨0⟩⟩,
    Reach.Reachable.tail (Reach.Reachable.tail (Reach.Reachable.tail Reach.Reachable.refl
      ⟨(0, .established ⟨1⟩ (.listener ⟨[.ip4 ⟨10, 0, 0, 1⟩, .tcp 4001]⟩
        ⟨[.ip4 ⟨1, 2, 3, 4⟩, .tcp 5000]⟩)), trivial, rfl⟩)
      ⟨(0, .established ⟨1⟩ (.dialer ⟨[.ip4 ⟨1, 2, 3, 4⟩, .tcp 4001]⟩ .dialer)), trivial, rfl⟩)
      ⟨(0, .closed 0 none), trivial, rfl⟩⟩
  exact ⟨_, hw, by decide, by decide, connection_events_track_swarm hw ⟨1⟩⟩

end IpfsEmbed
