import IpfsEmbed.Properties.Events

/-!
# The listen-address events against the book's listen addresses

The book keeps the addresses its listeners listen on, `listeners`, so as never to file one of
them as a peer's address, and it tells its subscribers of each change: `NewListenAddr` when a
listener starts listening on an address and `ExpiredListenAddr` when one stops.  Both come with
the listener's id, and two listeners may report one address; the book's set holds the address
once, and an expiry from either listener takes it out.

A subscriber that follows these events and nothing else (`listenView`) holds, in every run of
the book, exactly the book's listen addresses.  The two
listener callbacks change the set by the address their event names; every other call keeps
the set and sends no listen event (`BookOp.exec_listeners`, `BookOp.sends_unheard`).
-/

namespace IpfsEmbed

/-! ## A subscriber that follows the listen addresses -/

/-- One event, as a subscriber that follows the listen addresses takes it. -/
def listenApply (s : Finset Multiaddr) : Event → Finset Multiaddr
  | .newListenAddr _ addr => insert addr s
  | .expiredListenAddr _ addr => s.erase addr
  | _ => s

/-- The listen addresses a subscriber reads off the events `es`. -/
def listenView (es : List Event) : Finset Multiaddr :=
  es.foldl listenApply ∅

theorem listenApply_of_not_isListen (s : Finset Multiaddr) {e : Event} (h : e.isListen = false) :
    listenApply s e = s := by
  cases e <;> simp_all [Event.isListen, listenApply]

theorem listenView_append_quiet (es : List Event) {new : List Event}
    (h : ∀ e ∈ new, e.isListen = false) : listenView (es ++ new) = listenView es := by
  unfold listenView
  rw [List.foldl_append]
  -- the events after `es` leave every set alone
  generalize es.foldl listenApply ∅ = s
  induction new generalizing s with
  | nil => rfl
  | cons e new ih =>
    rw [List.foldl_cons, listenApply_of_not_isListen s (h e List.mem_cons_self)]
    exact ih (fun e' he' => h e' (List.mem_cons_of_mem e he')) s

theorem listenView_concat (es : List Event) (e : Event) :
    listenView (es ++ [e]) = listenApply (listenView es) e := by
  rw [listenView, List.foldl_append, List.foldl_cons, List.foldl_nil, listenView]

/-! ## The calls other than the listener callbacks -/

namespace AddressBook

/-- A loop whose steps keep the listen addresses keeps them. -/
theorem foldl_listeners {α : Type} (g : AddressBook → α → AddressBook)
    (hg : ∀ b x, (g b x).listeners = b.listeners) (l : List α) (b : AddressBook) :
    (l.foldl g b).listeners = b.listeners := by
  induction l generalizing b with
  | nil => rfl
  | cons x l ih => rw [List.foldl_cons, ih, hg]

section Listeners

variable (b : AddressBook) (now : DateTime) (peer : PeerId)

@[simp] theorem removeAddress_listeners (address : Multiaddr) :
    (b.removeAddress peer address).listeners = b.listeners := by
  unfold removeAddress
  split <;> rfl

@[simp] theorem dial_listeners : (b.dial peer).listeners = b.listeners := by
  unfold dial
  split_ifs <;> rfl

@[simp] theorem dialAddress_listeners (addr : Multiaddr) :
    (b.dialAddress peer addr).listeners = b.listeners := by
  unfold dialAddress
  split_ifs
  · rfl
  · dsimp only
    split_ifs <;> rfl

@[simp] theorem prunePeers_listeners (minAge : Duration) :
    (b.prunePeers now minAge).listeners = b.listeners := by
  unfold prunePeers
  refine foldl_listeners _ (fun _ _ => ?_) _ b
  rfl

@[simp] theorem setRtt_listeners (rtt : Option Duration) :
    (b.setRtt peer rtt).listeners = b.listeners := by
  unfold setRtt
  split <;> rfl

theorem setInfo_listeners {identify : IdentifyInfo} {b' : AddressBook}
    (he : b.setInfo now peer identify = some b') : b'.listeners = b.listeners := by
  rcases setInfo_eq_some he with ⟨-, rfl⟩ | ⟨info, ts, -, -, rfl⟩ <;> rfl

@[simp] theorem connectionClosed_listeners (conn : ConnectedPoint) (n : Nat)
    (error : Option ConnectionError) :
    (b.connectionClosed now peer conn n error).listeners = b.listeners := by
  unfold connectionClosed
  split_ifs <;> rfl

@[simp] theorem injectConnectionEstablished_listeners (conn : ConnectedPoint) (n : Nat) :
    (b.injectConnectionEstablished now peer conn n).listeners = b.listeners := by
  unfold injectConnectionEstablished
  split_ifs <;> simp

@[simp] theorem injectAddressChange_listeners (old new : ConnectedPoint) :
    (b.injectAddressChange now peer old new).listeners = b.listeners := by
  simp [injectAddressChange]

@[simp] theorem injectDialFailure_listeners (peerId : Option PeerId) (handler : IntoAddressHandler)
    (error : DialError) (rand : Nat → UInt32) :
    (b.injectDialFailure now peerId handler error rand).listeners = b.listeners := by
  unfold injectDialFailure
  split
  · rfl
  split
  · rfl
  split
  · unfold validationDialFailure
    split_ifs <;> rfl
  · split
    · -- the failures are sent and the redials deferred: neither touches the listen addresses
      unfold transportDialFailure
      dsimp only
      rw [notify_listeners]
      refine (foldl_listeners _ (fun _ _ => ?_) _ _).trans ?_
      · rfl
      · split_ifs <;> simp [foldl_notify]
    all_goals rfl

end Listeners

end AddressBook

open AddressBook

variable {b b' : AddressBook} {now : DateTime} {op : BookOp}

/-- Every call but the listener callbacks keeps the listen addresses. -/
theorem BookOp.exec_listeners (hl : op.isListenCallback = false) (he : op.exec b now = some b') :
    b'.listeners = b.listeners := by
  cases op with
  | setInfo peer identify => exact setInfo_listeners b now peer he
  | injectNewListenAddr | injectExpiredListenAddr => cases hl
  | poll => cases he; rfl
  | _ => cases he; simp

/-- Every call but the listener callbacks sends no listen event. -/
theorem BookOp.sends_unheard (hl : op.isListenCallback = false) (he : op.exec b now = some b') :
    Sends (fun e => e.isListen = false) b b' :=
  (BookOp.sends he).mono fun e h => by
    rcases h with h | ⟨h, -⟩ | ⟨-, h⟩
    · cases e <;> simp_all [Event.isRecord, Event.isListen]
    · rw [hl] at h
      exact absurd h Bool.false_ne_true
    · cases e <;> simp_all [Event.isConnection, Event.isListen]

/-! ## Every run -/

/-- The book's listen addresses are those its events report. -/
def ListensTracked (b : AddressBook) : Prop :=
  b.listeners = listenView b.events

theorem ListensTracked.step (h : ListensTracked b) (he : op.exec b now = some b') :
    ListensTracked b' := by
  cases hl : op.isListenCallback with
  | false =>
    -- the set stays, and so does the view
    obtain ⟨new, hn, hq⟩ := (BookOp.sends_unheard hl he).events
    rw [ListensTracked, BookOp.exec_listeners hl he, hn, listenView_append_quiet _ hq]
    exact h
  | true =>
    -- a listener callback changes the set as its one event says
    cases op <;> simp only [BookOp.isListenCallback, Bool.false_eq_true] at hl <;> cases he
    · rw [ListensTracked, injectNewListenAddr, notify_events, listenView_concat, ← h]
      rfl
    · rw [ListensTracked, injectExpiredListenAddr, notify_events, listenView_concat, ← h]
      rfl

/-- **The listen-address events track the book's listen addresses.**  In every run of the book,
under any calls, a subscriber that follows `NewListenAddr` and `ExpiredListenAddr` holds
exactly the addresses the book refuses to file as a peer's as its own. -/
theorem listen_events_track_listeners {b : AddressBook} (hb : BookReachable b) :
    b.listeners = listenView b.events := by
  obtain ⟨settings, hr⟩ := hb
  -- a new book has no listen address and has sent no event
  have h0 : ListensTracked (AddressBook.new settings.localPeerId settings.portReuse
      settings.enableLoopback settings.keepAlive) := rfl
  refine Reach.Reachable.invariant h0 ?_ hr
  rintro b₁ b₂ h ⟨⟨now, op⟩, -, he⟩
  exact h.step he

/-- Two listeners report one address and one of them stops listening there: the book forgets
the address, though the other listener still listens on it, and so does a subscriber. -/
theorem listen_events_track_listeners_shared :
    ∃ b, BookReachable b ∧ b.listeners = ∅ ∧ b.listeners = listenView b.events := by
  have hb : BookReachable _ := ⟨⟨false, false, false, ⟨0⟩⟩,
    Reach.Reachable.tail (Reach.Reachable.tail (Reach.Reachable.tail Reach.Reachable.refl
      ⟨(0, .injectNewListenAddr ⟨0⟩ ⟨[.ip4 ⟨10, 0, 0, 1⟩, .tcp 4001]⟩), trivial, rfl⟩)
      ⟨(0, .injectNewListenAddr ⟨1⟩ ⟨[.ip4 ⟨10, 0, 0, 1⟩, .tcp 4001]⟩), trivial, rfl⟩)
      ⟨(0, .injectExpiredListenAddr ⟨0⟩ ⟨[.ip4 ⟨10, 0, 0, 1⟩, .tcp 4001]⟩), trivial, rfl⟩⟩
  exact ⟨_, hb, by decide, listen_events_track_listeners hb⟩

end IpfsEmbed
