import IpfsEmbed.Cli.Protocol

/-!
# When a line reads back as what was printed

A printed line is a keyword and fields, each after one space, so its words are the keyword and
the words of the fields (`splitWhitespace_line`).  A field that is one word comes back as it
is; a peer id, multiaddress or cid is one word and parses back.  So a command or event reads
back as itself when each of its free-form fields is what the parser expects there:

* the data of a block is not empty, so that it prints as one word of hexadecimal digits;
* an alias and a topic are one word each;
* an error text and a JSON payload are *spaced*: their words joined by single spaces give them
  back, which is what the parser rebuilds them as.

Otherwise the line reads back as something else or panics (`Command.parse_alias_nil`,
`Command.parse_insert_of_data_nil`, `Event.parse_dialFailure`): an empty alias
leaves `>alias` without the word that `parts.next().unwrap()` takes, and a run of two spaces in
an error text comes back as one.  The same goes for a multiaddress whose text is not one word,
which `AddrText` models.
-/

namespace IpfsEmbed

namespace Cli

open Words

variable {P M C B I : Type} [Token P] [Token M] [Token C] [BlockData B C] [Json I]

/-- A text that its words, joined by single spaces, give back. -/
def Spaced (s : List Char) : Prop :=
  joinSpace (splitWhitespace s) = s

instance (s : List Char) : Decidable (Spaced s) :=
  inferInstanceAs (Decidable (_ = _))

/-- The free-form fields of a command are what the parser expects: block data is not empty and
an alias is one word. -/
def Command.WellFormed : Command P M C B → Prop
  | .insert b => BlockData.data b ≠ []
  | .alias name _ => IsWord isWhitespace name
  | _ => True

/-- The free-form fields of an event are what the parser expects: block data is not empty, a
topic is one word, and an error text and a JSON payload are spaced. -/
def Event.WellFormed : Event P M B I → Prop
  | .subscribed _ topic => IsWord isWhitespace topic
  | .unsubscribed _ topic => IsWord isWhitespace topic
  | .block b => BlockData.data b ≠ []
  | .peerInfo _ info => Spaced (Json.toJson info)
  | .dialFailure _ _ error => Spaced error
  | _ => True

/-! ## The words of a printed line -/

theorem isWhitespace_space : isWhitespace ' ' = true := rfl

/-- Fields printed after a text, each after one space, add their words to the text's. -/
theorem splitWhitespace_append_fields (fields : List (List Char)) (l : List Char) :
    splitWhitespace (l ++ fields.flatMap fun f => ' ' :: f) =
      splitWhitespace l ++ fields.flatMap splitWhitespace := by
  induction fields generalizing l with
  | nil => simp
  | cons f fields ih =>
    rw [List.flatMap_cons, List.cons_append, splitWhitespace,
      words_append_cons _ _ isWhitespace_space, ← splitWhitespace, ← splitWhitespace, ih,
      List.flatMap_cons]

/-- **The words of a printed line** are its keyword and the words of its fields. -/
theorem splitWhitespace_line {keyword : String} (hk : IsWord isWhitespace keyword.toList)
    (fields : List (List Char)) :
    splitWhitespace (line keyword fields) = keyword.toList :: fields.flatMap splitWhitespace := by
  rw [line, splitWhitespace_append_fields, splitWhitespace, words_of_isWord hk]
  rfl

@[simp] theorem splitWhitespace_nil : splitWhitespace [] = [] :=
  words_nil

theorem splitWhitespace_of_isWord {w : List Char} (h : IsWord isWhitespace w) :
    splitWhitespace w = [w] :=
  words_of_isWord h

@[simp] theorem splitWhitespace_display {α : Type} [Token α] (a : α) :
    splitWhitespace (Printed.display a) = [Printed.display a] :=
  splitWhitespace_of_isWord (Token.display_isWord a)

theorem splitWhitespace_hexEncode {bs : List UInt8} (h : bs ≠ []) :
    splitWhitespace (Hex.hexEncode bs) = [Hex.hexEncode bs] := by
  refine words_of_isWord ⟨fun he => h (Hex.hexEncode_eq_nil.1 he), fun c hc => ?_⟩
  -- hexadecimal digits lie between `0` and `f`, where no character is whitespace
  have hr := Hex.mem_hexEncode hc
  simp only [isWhitespace, Bool.or_eq_false_iff, beq_eq_false_iff_ne, ne_eq,
    Bool.and_eq_false_iff, decide_eq_false_iff_not, Nat.not_le]
  omega

/-! ## The parser on the words of a printed line -/

@[simp] theorem nextWord_cons (w : List Char) (ws : List (List Char)) :
    nextWord (w :: ws) = pure (w, ws) := rfl

@[simp] theorem parseToken_display {α : Type} [Token α] (a : α) :
    (parseToken (Printed.display a) : Parse α) = pure a := by
  simp [parseToken, Token.parse_display]

@[simp] theorem nextToken_display {α : Type} [Token α] (a : α) (ws : List (List Char)) :
    (nextToken (Printed.display a :: ws) : Parse (α × List (List Char))) = pure (a, ws) := by
  simp [nextToken]

theorem parseBlock_fields (b : B) (h : BlockData.data b ≠ []) :
    (parseBlock ((blockFields b).flatMap splitWhitespace) : Parse B) = pure b := by
  simp [blockFields, splitWhitespace_hexEncode h, parseBlock, Hex.hexDecode_hexEncode,
    BlockData.new_self]

/-! ## Round trips -/

/-- A well-formed command reads back as itself. -/
theorem Command.parse_display (c : Command P M C B) (h : c.WellFormed) :
    (Command.parse c.display).run = some (.ok c) := by
  -- the words of the line are the keyword and the words of the fields
  cases c <;> rw [Command.display, Command.parse, splitWhitespace_line (by decide)]
  case insert b => simp [parseBlock_fields b h]
  case «alias» name cid => cases cid <;> simp [splitWhitespace_of_isWord h]
  all_goals simp

/-- A well-formed event reads back as itself. -/
theorem Event.parse_display (e : Event P M B I) (h : e.WellFormed) :
    (Event.parse e.display).run = some (.ok e) := by
  cases e <;> rw [Event.display, Event.parse, splitWhitespace_line (by decide)]
  case subscribed peer topic => simp [splitWhitespace_of_isWord h]
  case unsubscribed peer topic => simp [splitWhitespace_of_isWord h]
  case block b => simp [parseBlock_fields b h]
  case peerInfo peer info =>
    -- the payload is rebuilt from its words
    have hjoin : joinSpace (splitWhitespace (Json.toJson info)) = Json.toJson info := h
    simp [hjoin, Json.fromJson_toJson]
  case dialFailure peer addr error =>
    have hjoin : joinSpace (splitWhitespace error) = error := h
    simp [hjoin]
  all_goals simp

/-- A block without data prints as `>insert <cid> `, whose data word is missing: reading it
panics. -/
theorem Command.parse_insert_of_data_nil {b : B} (h : BlockData.data b = []) :
    (Command.parse (Command.insert b : Command P M C B).display : Parse (Command P M C B)).run =
      none := by
  rw [Command.display, Command.parse, splitWhitespace_line (by decide)]
  simp [blockFields, h, Hex.hexEncode, parseBlock, nextWord]

/-- An empty alias without a cid prints as `>alias `, whose name word is missing: reading it
panics on `parts.next().unwrap()`. -/
theorem Command.parse_alias_nil :
    (Command.parse (Command.alias [] none : Command P M C B).display :
      Parse (Command P M C B)).run = none := by
  rw [Command.display, Command.parse, splitWhitespace_line (by decide)]
  simp [nextWord]

/-- An error text reads back as its words joined by single spaces. -/
theorem Event.parse_dialFailure (peer : P) (addr : M) (error : List Char) :
    (Event.parse (Event.dialFailure peer addr error : Event P M B I).display :
      Parse (Event P M B I)).run =
      some (.ok (.dialFailure peer addr (joinSpace (splitWhitespace error)))) := by
  rw [Event.display, Event.parse, splitWhitespace_line (by decide)]
  simp

/-- **The line protocol reads back what it prints**, for commands and events whose free-form
fields are what the parser expects. -/
theorem line_protocol_round_trip :
    (∀ c : Command P M C B, c.WellFormed → (Command.parse c.display).run = some (.ok c)) ∧
    ∀ e : Event P M B I, e.WellFormed → (Event.parse e.display).run = some (.ok e) :=
  ⟨Command.parse_display, Event.parse_display⟩

/-! ## One concrete setting

Every third-party type has one value, printed `x`; a block is its data, under the one cid; the
one `PeerInfoIo` prints as `{}`. -/

instance : Token Unit where
  display _ := ['x']
  parse w := if w = ['x'] then some () else none
  display_isWord _ := by decide
  parse_display _ := by simp

instance : BlockData (List UInt8) Unit where
  cid _ := ()
  data bs := bs
  new _ bs := some bs
  new_self _ := rfl

instance : Json Unit where
  toJson _ := ['{', '}']
  fromJson w := if w = ['{', '}'] then some () else none
  fromJson_toJson _ := by simp

theorem line_protocol_round_trip_insert :
    (Command.parse (Command.insert ([0x68, 0x69] : List UInt8) :
        Command Unit Unit Unit (List UInt8)).display :
        Parse (Command Unit Unit Unit (List UInt8))).run =
        some (.ok (.insert ([0x68, 0x69] : List UInt8))) ∧
      (Event.parse (Event.dialFailure () () "no route".toList :
        Event Unit Unit (List UInt8) Unit).display : Parse (Event Unit Unit (List UInt8) Unit)).run =
        some (.ok (.dialFailure () () "no route".toList)) :=
  ⟨(line_protocol_round_trip (I := Unit)).1 _ (List.cons_ne_nil _ _),
    line_protocol_round_trip.2 _ (show Spaced "no route".toList by decide)⟩

/-- A multiaddress by the text its `Display` prints, which need not be one word: the empty
address prints as the empty text, and a `/dns4` name may hold a space.  `FromStr` is taken to
accept every text, as it does the ones used below. -/
structure AddrText where
  text : List Char

instance : Printed AddrText where
  display a := a.text
  parse w := some ⟨w⟩

/-- Reading a printed line can panic or give another value.  An empty alias or empty block data
leaves `>alias` or `>insert <cid>` without the word `parts.next().unwrap()` takes, and a run of
two spaces in an error text comes back as one.  A multiaddress that is not one word breaks
`>add-address`: the empty address leaves the line without its address word, and
`/dns4/a b/tcp/1` comes back as `/dns4/a`. -/
theorem round_trip_fails :
    (Command.parse (Command.alias [] none : Command Unit Unit Unit (List UInt8)).display :
      Parse (Command Unit Unit Unit (List UInt8))).run = none ∧
    (Command.parse (Command.insert ([] : List UInt8) : Command Unit Unit Unit (List UInt8)).display :
      Parse (Command Unit Unit Unit (List UInt8))).run = none ∧
    (Event.parse (Event.dialFailure () () "a  b".toList : Event Unit Unit (List UInt8) Unit).display :
      Parse (Event Unit Unit (List UInt8) Unit)).run =
      some (.ok (.dialFailure () () "a b".toList)) ∧
    (Command.parse (Command.addAddress () ⟨[]⟩ : Command Unit AddrText Unit (List UInt8)).display :
      Parse (Command Unit AddrText Unit (List UInt8))).run = none ∧
    (Command.parse (Command.addAddress () ⟨"/dns4/a b/tcp/1".toList⟩ :
        Command Unit AddrText Unit (List UInt8)).display :
      Parse (Command Unit AddrText Unit (List UInt8))).run =
      some (.ok (.addAddress () ⟨"/dns4/a".toList⟩)) := by
  refine ⟨Command.parse_alias_nil, Command.parse_insert_of_data_nil rfl, ?_, ?_, ?_⟩
  · -- the error text splits into `a` and `b`, joined again by one space
    have hjoin : joinSpace (splitWhitespace "a  b".toList) = "a b".toList := by decide
    rw [Event.parse_dialFailure, hjoin]
  · -- the empty address prints as nothing: the line ends after the peer
    have hs : splitWhitespace (Command.addAddress () ⟨[]⟩ :
        Command Unit AddrText Unit (List UInt8)).display = [">add-address".toList, ['x']] := by
      decide
    unfold Command.parse
    rw [hs]
    simp [nextToken, parseToken, nextWord, Printed.parse]
  · -- the space splits the address into two words, and only the first is read
    have hs : splitWhitespace (Command.addAddress () ⟨"/dns4/a b/tcp/1".toList⟩ :
        Command Unit AddrText Unit (List UInt8)).display =
        [">add-address".toList, ['x'], "/dns4/a".toList, "b/tcp/1".toList] := by
      decide
    unfold Command.parse
    rw [hs]
    simp [nextToken, parseToken, nextWord, Printed.parse]

end Cli

end IpfsEmbed
