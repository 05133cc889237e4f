import IpfsEmbed.Framework.Words
import IpfsEmbed.Framework.Hex

/-!
# The line protocol of `ipfs-embed-cli` (`cli/src/lib.rs`)

The test harness drives a node through its standard input and output, one `Command` or
`Event` a line.  `Display` prints a keyword and the fields, separated by spaces; `FromStr`
splits the line with `split_whitespace`, takes the fields in order with
`parts.next().unwrap()`, and joins the words that are left with single spaces for the error
text of `DialFailure` and the JSON payload of `PeerInfo`.

Peer ids, multiaddresses and cids are printed and parsed by third-party code, modelled by
`Printed` (their `Display` and `FromStr`).  `Token` adds what the round trip assumes of them:
the printed text is one word, and it parses back.  A multiaddress need not be one: the empty
address prints as nothing, and a `/dns4` name may hold a space.  `Block<DefaultParams>` is modelled by `BlockData`: its cid and data, and
`Block::new`, which accepts a block's own cid and data.  `serde_json` on `PeerInfoIo` is
modelled by `Json`, which reads back what it writes.  Texts are lists of characters.

A parse runs in `ExceptT ParseError Option`: `none` is a panic (`unwrap` on a missing word),
an error is a failed `?`.  The texts of the errors of third-party parsers are not modelled.
-/

namespace IpfsEmbed

namespace Cli

open Words

/-- `char::is_whitespace`: the Unicode `White_Space` property. -/
def isWhitespace (c : Char) : Bool :=
  let n := c.toNat
  (9 ≤ n && n ≤ 13) || n == 0x20 || n == 0x85 || n == 0xA0 || n == 0x1680 ||
    (0x2000 ≤ n && n ≤ 0x200A) || n == 0x2028 || n == 0x2029 || n == 0x202F || n == 0x205F ||
    n == 0x3000

/-- `str::split_whitespace`. -/
def splitWhitespace (s : List Char) : List (List Char) :=
  words isWhitespace s

/-- `join(" ")` of the words. -/
def joinSpace (ws : List (List Char)) : List Char :=
  unwords ' ' ws

/-- A third-party type as the line protocol prints and reads it: `Display` and `FromStr`. -/
class Printed (α : Type) where
  display : α → List Char
  parse : List Char → Option α

/-- A third-party type that `Display` prints as one word and `FromStr` reads back. -/
class Token (α : Type) extends Printed α where
  display_isWord : ∀ a, IsWord isWhitespace (display a)
  parse_display : ∀ a, parse (display a) = some a

/-- `Block<DefaultParams>`: its cid and data, and `Block::new`, which checks data against a
cid. -/
class BlockData (β : Type) (γ : outParam Type) where
  cid : β → γ
  data : β → List UInt8
  new : γ → List UInt8 → Option β
  new_self : ∀ b, new (cid b) (data b) = some b

/-- `serde_json::to_string` and `serde_json::from_str` on `PeerInfoIo`. -/
class Json (ι : Type) where
  toJson : ι → List Char
  fromJson : List Char → Option ι
  fromJson_toJson : ∀ i, fromJson (toJson i) = some i

/-- `Command`, over the peer id, multiaddress, cid and block types. -/
inductive Command (P M C B : Type)
  | addAddress (peer : P) (addr : M)
  | dial (peer : P)
  | prunePeers
  | get (cid : C)
  | insert (block : B)
  | «alias» (name : List Char) (cid : Option C)
  | flush
  | sync (cid : C)

/-- `Event`, over the peer id, multiaddress, block and `PeerInfoIo` types. -/
inductive Event (P M B I : Type)
  | newListener
  | newListenAddr (addr : M)
  | expiredListenAddr (addr : M)
  | listenerClosed
  | newExternalAddr (addr : M)
  | expiredExternalAddr (addr : M)
  | discovered (peer : P)
  | unreachable (peer : P)
  | connected (peer : P)
  | disconnected (peer : P)
  | subscribed (peer : P) (topic : List Char)
  | unsubscribed (peer : P) (topic : List Char)
  | block (block : B)
  | flushed
  | synced
  | bootstrapped
  | peerInfo (peer : P) (info : I)
  | peerRemoved (peer : P)
  | dialFailure (peer : P) (addr : M) (error : List Char)
  | connectionEstablished (peer : P) (addr : M)
  | connectionClosed (peer : P) (addr : M)

/-- Why a line does not parse. -/
inductive ParseError
  /-- ``invalid command `…` ``, with the line. -/
  | invalidCommand (s : List Char)
  /-- ``invalid event `…` ``, with the line. -/
  | invalidEvent (s : List Char)
  /-- The `FromStr` of a peer id, multiaddress or cid failed. -/
  | token
  /-- `from_utf8` or `from_str_radix` failed on a chunk of block data. -/
  | hex
  /-- `Block::new` refused the data. -/
  | block
  /-- `serde_json::from_str` failed. -/
  | json
  deriving DecidableEq, Repr

/-- A parse: `none` is a panic, an error is a failed `?`. -/
abbrev Parse := ExceptT ParseError Option

variable {P M C B I : Type} [Printed P] [Printed M] [Printed C] [BlockData B C] [Json I]

/-! ## Printing -/

/-- A keyword followed by fields, each after one space. -/
def line (keyword : String) (fields : List (List Char)) : List Char :=
  keyword.toList ++ fields.flatMap fun f => ' ' :: f

/-- `write!(f, "{} ", block.cid())` and the data byte by byte with `{:02x}`. -/
def blockFields (block : B) : List (List Char) :=
  [Printed.display (BlockData.cid block), Hex.hexEncode (BlockData.data block)]

/-- `impl Display for Command`. -/
def Command.display : Command P M C B → List Char
  | .addAddress peer addr => line ">add-address" [Printed.display peer, Printed.display addr]
  | .dial peer => line ">dial" [Printed.display peer]
  | .prunePeers => line ">prune-peers" []
  | .get cid => line ">get" [Printed.display cid]
  | .insert block => line ">insert" (blockFields block)
  | .alias name cid => line ">alias" (name :: cid.toList.map Printed.display)
  | .flush => line ">flush" []
  | .sync cid => line ">sync" [Printed.display cid]

/-- `impl Display for Event`. -/
def Event.display : Event P M B I → List Char
  | .newListener => line "<new-listener" []
  | .newListenAddr addr => line "<new-listen-addr" [Printed.display addr]
  | .expiredListenAddr addr => line "<expired-listen-addr" [Printed.display addr]
  | .listenerClosed => line "<listener-closed" []
  | .newExternalAddr addr => line "<new-external-addr" [Printed.display addr]
  | .expiredExternalAddr addr => line "<expired-external-addr" [Printed.display addr]
  | .discovered peer => line "<discovered" [Printed.display peer]
  | .unreachable peer => line "<unreachable" [Printed.display peer]
  | .connected peer => line "<connected" [Printed.display peer]
  | .disconnected peer => line "<disconnected" [Printed.display peer]
  | .subscribed peer topic => line "<subscribed" [Printed.display peer, topic]
  | .unsubscribed peer topic => line "<unsubscribed" [Printed.display peer, topic]
  | .block b => line "<block" (blockFields b)
  | .flushed => line "<flushed" []
  | .synced => line "<synced" []
  | .bootstrapped => line "<bootstrapped" []
  | .peerInfo peer info => line "<peer-info" [Printed.display peer, Json.toJson info]
  | .peerRemoved peer => line "<peer-removed" [Printed.display peer]
  | .dialFailure peer addr error =>
    line "<dial-failure" [Printed.display peer, Printed.display addr, error]
  | .connectionEstablished peer addr =>
    line "<connection-established" [Printed.display peer, Printed.display addr]
  | .connectionClosed peer addr => line "<connection-closed" [Printed.display peer, Printed.display addr]

/-! ## Parsing -/

/-- `parts.next().unwrap()`: the next word, and a panic when there is none. -/
def nextWord : List (List Char) → Parse (List Char × List (List Char))
  | [] => ExceptT.lift none
  | w :: ws => pure (w, ws)

/-- `.parse()?` of a token. -/
def parseToken {α : Type} [Printed α] (w : List Char) : Parse α :=
  match Printed.parse w with
  | some a => pure a
  | none => throw .token

/-- `parts.next().unwrap().parse()?`, with the words left. -/
def nextToken {α : Type} [Printed α] (parts : List (List Char)) : Parse (α × List (List Char)) := do
  let (w, parts) ← nextWord parts
  let a ← parseToken w
  pure (a, parts)

/-- The fields of `>insert` and `<block`: a cid, then a word of hexadecimal data read chunk by
chunk, then `Block::new(cid, data)?`. -/
def parseBlock (parts : List (List Char)) : Parse B := do
  let (cid, parts) ← nextToken parts
  let (strData, _) ← nextWord parts
  let data ← match Hex.hexDecode strData with
    | some data => pure data
    | none => throw .hex
  match BlockData.new cid data with
  | some block => pure block
  | none => throw .block

/-- `impl FromStr for Command`. -/
def Command.parse (s : List Char) : Parse (Command P M C B) :=
  match splitWhitespace s with
  | [] => throw (.invalidCommand s)
  | w :: parts =>
    if w = ">add-address".toList then do
      let (peer, parts) ← nextToken parts
      let (addr, _) ← nextToken parts
      pure (.addAddress peer addr)
    else if w = ">dial".toList then do
      let (peer, _) ← nextToken parts
      pure (.dial peer)
    else if w = ">prune-peers".toList then pure .prunePeers
    else if w = ">get".toList then do
      let (cid, _) ← nextToken parts
      pure (.get cid)
    else if w = ">insert".toList then do
      let b ← parseBlock parts
      pure (.insert b)
    else if w = ">alias".toList then do
      let (name, parts) ← nextWord parts
      -- `parts.next().map(|s| s.parse()).transpose()?`
      let cid ← parts.head?.mapM parseToken
      pure (.alias name cid)
    else if w = ">flush".toList then pure .flush
    else if w = ">sync".toList then do
      let (cid, _) ← nextToken parts
      pure (.sync cid)
    else throw (.invalidCommand s)

/-- `impl FromStr for Event`. -/
def Event.parse (s : List Char) : Parse (Event P M B I) :=
  match splitWhitespace s with
  | [] => throw (.invalidEvent s)
  | w :: parts =>
    if w = "<new-listener".toList then pure .newListener
    else if w = "<new-listen-addr".toList then do
      let (addr, _) ← nextToken parts
      pure (.newListenAddr addr)
    else if w = "<expired-listen-addr".toList then do
      let (addr, _) ← nextToken parts
      pure (.expiredListenAddr addr)
    else if w = "<listener-closed".toList then pure .listenerClosed
    else if w = "<new-external-addr".toList then do
      let (addr, _) ← nextToken parts
      pure (.newExternalAddr addr)
    else if w = "<expired-external-addr".toList then do
      let (addr, _) ← nextToken parts
      pure (.expiredExternalAddr addr)
    else if w = "<discovered".toList then do
      let (peer, _) ← nextToken parts
      pure (.discovered peer)
    else if w = "<unreachable".toList then do
      let (peer, _) ← nextToken parts
      pure (.unreachable peer)
    else if w = "<connected".toList then do
      let (peer, _) ← nextToken parts
      pure (.connected peer)
    else if w = "<disconnected".toList then do
      let (peer, _) ← nextToken parts
      pure (.disconnected peer)
    else if w = "<subscribed".toList then do
      let (peer, parts) ← nextToken parts
      let (topic, _) ← nextWord parts
      pure (.subscribed peer topic)
    else if w = "<unsubscribed".toList then do
      let (peer, parts) ← nextToken parts
      let (topic, _) ← nextWord parts
      pure (.unsubscribed peer topic)
    else if w = "<block".toList then do
      let b ← parseBlock parts
      pure (.block b)
    else if w = "<flushed".toList then pure .flushed
    else if w = "<synced".toList then pure .synced
    else if w = "<bootstrapped".toList then pure .bootstrapped
    else if w = "<peer-info".toList then do
      let (peer, parts) ← nextToken parts
      -- `parts.collect::<Vec<_>>().join(" ")`, then `serde_json::from_str(..)?`
      match Json.fromJson (joinSpace parts) with
      | some info => pure (.peerInfo peer info)
      | none => throw .json
    else if w = "<peer-removed".toList then do
      let (peer, _) ← nextToken parts
      pure (.peerRemoved peer)
    else if w = "<dial-failure".toList then do
      let (peer, parts) ← nextToken parts
      let (addr, parts) ← nextToken parts
      pure (.dialFailure peer addr (joinSpace parts))
    else if w = "<connection-established".toList then do
      let (peer, parts) ← nextToken parts
      let (addr, _) ← nextToken parts
      pure (.connectionEstablished peer addr)
    else if w = "<connection-closed".toList then do
      let (peer, parts) ← nextToken parts
      let (addr, _) ← nextToken parts
      pure (.connectionClosed peer addr)
    else throw (.invalidEvent s)

end Cli

end IpfsEmbed
