import IpfsEmbed.Cli.RoundTrip
import IpfsEmbed.Framework.Returns

/-!
# When the line parsers panic

`Command::from_str` and `Event::from_str` take the fields of a line with
`parts.next().unwrap()`.  Every other step of a branch is a `?` on a third-party parser, on the
hexadecimal decoder or on `Block::new`, which fails with an error and does not panic.  So what
decides whether a line panics is how many words follow its keyword.

A keyword's branch takes a fixed number of words with `unwrap` (`Command.arity`,
`Event.arity`; the `>alias` cid, the `<peer-info` payload and the `<dial-failure` error text are
read from what is left without `unwrap`).  A line with at least that many words after its
keyword, and any line without a known keyword, is parsed to a value or an error
(`Command.parse_returns`, `Event.parse_returns`).  A line that is a keyword alone whose branch
takes a word panics (`Command.parse_keyword_alone`, `Event.parse_keyword_alone`), and so does a
line that stops in the middle of its fields once the fields before the gap parse, as
`>dial` and `<dial-failure x` do.
-/

namespace IpfsEmbed

namespace Cli

open ExceptT

variable {P M C B I : Type} [Printed P] [Printed M] [Printed C] [BlockData B C] [Json I]

/-- How many words after its keyword the branch of `Command::from_str` takes with `unwrap`. -/
def Command.arity (w : List Char) : Nat :=
  if w = ">add-address".toList then 2
  else if w = ">dial".toList then 1
  else if w = ">prune-peers".toList then 0
  else if w = ">get".toList then 1
  else if w = ">insert".toList then 2
  else if w = ">alias".toList then 1
  else if w = ">flush".toList then 0
  else if w = ">sync".toList then 1
  else 0

/-- How many words after its keyword the branch of `Event::from_str` takes with `unwrap`. -/
def Event.arity (w : List Char) : Nat :=
  if w = "<new-listener".toList then 0
  else if w = "<new-listen-addr".toList then 1
  else if w = "<expired-listen-addr".toList then 1
  else if w = "<listener-closed".toList then 0
  else if w = "<new-external-addr".toList then 1
  else if w = "<expired-external-addr".toList then 1
  else if w = "<discovered".toList then 1
  else if w = "<unreachable".toList then 1
  else if w = "<connected".toList then 1
  else if w = "<disconnected".toList then 1
  else if w = "<subscribed".toList then 2
  else if w = "<unsubscribed".toList then 2
  else if w = "<block".toList then 2
  else if w = "<flushed".toList then 0
  else if w = "<synced".toList then 0
  else if w = "<bootstrapped".toList then 0
  else if w = "<peer-info".toList then 1
  else if w = "<peer-removed".toList then 1
  else if w = "<dial-failure".toList then 2
  else if w = "<connection-established".toList then 2
  else if w = "<connection-closed".toList then 2
  else 0

/-! ## The steps of a branch -/

theorem parseToken_returns {α : Type} [Printed α] (w : List Char) : (parseToken w : Parse α).Returns := by
  unfold parseToken
  split
  · exact returns_pure _
  · exact returns_throw _

/-- A field taken from a word that is there: the rest of the branch runs on the words after it. -/
theorem nextToken_bind_returns {α β : Type} [Printed α] {w : List Char} {ws : List (List Char)}
    {f : α × List (List Char) → Parse β} (hf : ∀ a, (f (a, ws)).Returns) :
    (nextToken (w :: ws) >>= f).Returns := by
  have h : (nextToken (w :: ws) >>= f) = (parseToken w >>= fun a => f (a, ws)) := by
    simp [nextToken]
  rw [h]
  exact (parseToken_returns w).bind fun a _ => hf a

theorem nextWord_bind_returns {β : Type} {w : List Char} {ws : List (List Char)}
    {f : List Char × List (List Char) → Parse β} (hf : (f (w, ws)).Returns) :
    (nextWord (w :: ws) >>= f).Returns := by
  rwa [nextWord_cons, pure_bind]

/-- A block with its two words: the cid and the data are read with `?`. -/
theorem parseBlock_returns (c d : List Char) (rest : List (List Char)) :
    (parseBlock (c :: d :: rest) : Parse B).Returns := by
  unfold parseBlock
  refine nextToken_bind_returns fun cid => nextWord_bind_returns ?_
  dsimp only
  split
  · -- the data decodes: `Block::new` checks it against the cid
    rw [pure_bind]
    split
    · exact returns_pure _
    · exact returns_throw _
  · exact returns_throw_bind _ _

theorem nextToken_nil_bind {α β : Type} [Printed α] (f : α × List (List Char) → Parse β) :
    (nextToken [] >>= f).run = none :=
  run_bind_of_run_eq_none (run_bind_of_run_eq_none rfl)

theorem nextWord_nil_bind {β : Type} (f : List Char × List (List Char) → Parse β) :
    (nextWord [] >>= f).run = none :=
  run_bind_of_run_eq_none rfl

theorem parseBlock_nil : (parseBlock [] : Parse B).run = none :=
  nextToken_nil_bind _

/-! ## Lines with enough words -/

/-- The words of a line with two words or more. -/
theorem exists_cons_cons_of_two_le {α : Type} {l : List α} (h : 2 ≤ l.length) :
    ∃ a b rest, l = a :: b :: rest := by
  rcases l with _ | ⟨a, _ | ⟨b, rest⟩⟩
  · simp at h
  · simp at h
  · exact ⟨a, b, rest, rfl⟩

/-- **A command line with enough words after its keyword does not panic.** -/
theorem Command.parse_returns {s w : List Char} {parts : List (List Char)}
    (hs : splitWhitespace s = w :: parts) (ha : Command.arity w ≤ parts.length) :
    (Command.parse s : Parse (Command P M C B)).Returns := by
  unfold Command.parse
  unfold Command.arity at ha
  rw [hs]
  dsimp only
  -- one keyword test after another, in the parser and in `arity` alike
  repeat' (refine returns_ite (fun h => ?_) (fun h => ?_) <;>
    first | rw [if_pos h] at ha | rw [if_neg h] at ha)
  · -- `>add-address`: a peer and an address
    obtain ⟨a, b, rest, rfl⟩ := exists_cons_cons_of_two_le ha
    exact nextToken_bind_returns fun _ => nextToken_bind_returns fun _ => returns_pure _
  · -- `>dial`
    obtain ⟨a, rest, rfl⟩ := List.exists_cons_of_length_pos ha
    exact nextToken_bind_returns fun _ => returns_pure _
  · exact returns_pure _
  · -- `>get`
    obtain ⟨a, rest, rfl⟩ := List.exists_cons_of_length_pos ha
    exact nextToken_bind_returns fun _ => returns_pure _
  · -- `>insert`: a cid and the data
    obtain ⟨a, b, rest, rfl⟩ := exists_cons_cons_of_two_le ha
    exact (parseBlock_returns a b rest).bind fun _ _ => returns_pure _
  · -- `>alias`: a name, then a cid if one is left
    obtain ⟨a, rest, rfl⟩ := List.exists_cons_of_length_pos ha
    exact nextWord_bind_returns ((returns_mapM parseToken_returns _).bind fun _ _ => returns_pure _)
  · exact returns_pure _
  · -- `>sync`
    obtain ⟨a, rest, rfl⟩ := List.exists_cons_of_length_pos ha
    exact nextToken_bind_returns fun _ => returns_pure _
  · exact returns_throw _

/-- **An event line with enough words after its keyword does not panic.** -/
theorem Event.parse_returns {s w : List Char} {parts : List (List Char)}
    (hs : splitWhitespace s = w :: parts) (ha : Event.arity w ≤ parts.length) :
    (Event.parse s : Parse (Event P M B I)).Returns := by
  unfold Event.parse
  unfold Event.arity at ha
  rw [hs]
  dsimp only
  repeat' (refine returns_ite (fun h => ?_) (fun h => ?_) <;>
    first | rw [if_pos h] at ha | rw [if_neg h] at ha)
  -- the branches that take no word, and the line without a keyword
  all_goals try exact returns_pure _
  all_goals try exact returns_throw _
  -- the branches that take one token and stop
  all_goals try
    obtain ⟨a, rest, rfl⟩ := List.exists_cons_of_length_pos ha
    exact nextToken_bind_returns fun _ => returns_pure _
  -- the branches that take two words
  all_goals try
    obtain ⟨a, b, rest, rfl⟩ := exists_cons_cons_of_two_le ha
    first
      | exact nextToken_bind_returns fun _ => nextToken_bind_returns fun _ => returns_pure _
      | exact nextToken_bind_returns fun _ => nextWord_bind_returns (returns_pure _)
      | exact (parseBlock_returns a b rest).bind fun _ _ => returns_pure _
  -- `<peer-info`: a peer, then the payload from the words left
  obtain ⟨a, rest, rfl⟩ := List.exists_cons_of_length_pos ha
  refine nextToken_bind_returns fun _ => ?_
  dsimp only
  split
  · exact returns_pure _
  · exact returns_throw _

/-! ## Lines that stop too early -/

/-- **A command keyword alone whose branch takes a word panics.** -/
theorem Command.parse_keyword_alone {s w : List Char} (hs : splitWhitespace s = [w])
    (ha : 0 < Command.arity w) : (Command.parse s : Parse (Command P M C B)).run = none := by
  unfold Command.parse
  unfold Command.arity at ha
  rw [hs]
  dsimp only
  repeat' (refine run_ite_eq_none (fun h => ?_) (fun h => ?_) <;>
    first | rw [if_pos h] at ha | rw [if_neg h] at ha)
  all_goals first
    | exact absurd ha (Nat.lt_irrefl 0)
    | exact nextToken_nil_bind _
    | exact nextWord_nil_bind _
    | exact run_bind_of_run_eq_none parseBlock_nil

/-- **An event keyword alone whose branch takes a word panics.** -/
theorem Event.parse_keyword_alone {s w : List Char} (hs : splitWhitespace s = [w])
    (ha : 0 < Event.arity w) : (Event.parse s : Parse (Event P M B I)).run = none := by
  unfold Event.parse
  unfold Event.arity at ha
  rw [hs]
  dsimp only
  repeat' (refine run_ite_eq_none (fun h => ?_) (fun h => ?_) <;>
    first | rw [if_pos h] at ha | rw [if_neg h] at ha)
  all_goals first
    | exact absurd ha (Nat.lt_irrefl 0)
    | exact nextToken_nil_bind _
    | exact run_bind_of_run_eq_none parseBlock_nil

/-- `>dial` has no peer after it, and `<dial-failure x` no address after its peer: both lines
panic on `parts.next().unwrap()`. -/
theorem parse_panics_on_truncated_line :
    (Command.parse ">dial".toList : Parse (Command Unit Unit Unit (List UInt8))).run = none ∧
    (Event.parse "<dial-failure x".toList : Parse (Event Unit Unit (List UInt8) Unit)).run =
      none := by
  refine ⟨Command.parse_keyword_alone (w := ">dial".toList) (by decide) (by decide), ?_⟩
  -- the peer `x` parses, then the address is missing
  have hs : splitWhitespace "<dial-failure x".toList = ["<dial-failure".toList, ['x']] := by
    decide
  unfold Event.parse
  rw [hs]
  simp [nextToken, parseToken, nextWord, Printed.parse]

end Cli

end IpfsEmbed
