import TermStyle.Fault

/-!
The text of a document, as far as a file yields it. Bytes are decoded in chunks, and characters are handed
on in blocks. A chunk that is no text and a block with a character that no document may hold are faults
for whoever needs a character from there on; what stands before can still be used. -/

namespace TermStyle.Yaml

structure Source where
  text : List Char
  /-- Why the text breaks off, if it does before the end of the file. -/
  lack : Option Fault

namespace Source

def ofText (text : List Char) : Source := ⟨text, none⟩

def after (block : List Char) (source : Source) : Source := { source with text := block ++ source.text }

def isAllowed (c : Char) : Bool :=
  let n := c.toNat
  n == 9 || n == 10 || n == 13 || (0x20 ≤ n && n ≤ 0x7e) || n == 0x85 || (0xa0 ≤ n && n ≤ 0xfffd) || 0x10000 ≤ n

/-! ## From bytes to characters -/

/-- A character of which some bytes may be missing: how many, the bounds of the next one, and the value so far. -/
structure Partial where
  owed : Nat
  low : Nat
  high : Nat
  code : Nat
  deriving DecidableEq, Repr

namespace Partial

def none : Partial := ⟨0, 0x80, 0xbf, 0⟩

/-- What is owed behind the first byte of a longer character. Overlong forms and surrogates have no bytes. -/
def ofLead? (byte : Nat) : Option Partial :=
  if 0xc2 ≤ byte && byte ≤ 0xdf then some ⟨1, 0x80, 0xbf, byte - 0xc0⟩
  else if 0xe0 ≤ byte && byte ≤ 0xef then
    some ⟨2, if byte == 0xe0 then 0xa0 else 0x80, if byte == 0xed then 0x9f else 0xbf, byte - 0xe0⟩
  else if 0xf0 ≤ byte && byte ≤ 0xf4 then
    some ⟨3, if byte == 0xf0 then 0x90 else 0x80, if byte == 0xf4 then 0x8f else 0xbf, byte - 0xf0⟩
  else .none

/-- One byte further, with the character that it completes. Nothing is left where no text can go on so. -/
def step (pending : Partial) (byte : Nat) : Option (Partial × Option Char) :=
  if pending.owed = 0 then
    if byte < 0x80 then some (none, some (.ofNat byte)) else (ofLead? byte).map (·, .none)
  else if byte < pending.low || pending.high < byte then .none
  else
    let code := pending.code * 64 + (byte - 0x80)
    if pending.owed = 1 then some (none, some (.ofNat code)) else some (⟨pending.owed - 1, 0x80, 0xbf, code⟩, .none)

def decode (pending : Partial) : List UInt8 → Option (Partial × List Char)
  | [] => some (pending, [])
  | byte :: rest => do
    let (pending, found) ← pending.step byte.toNat
    let (pending, more) ← decode pending rest
    return (pending, found.toList ++ more)

end Partial

/-- Carriage returns, also before line feeds, become line feeds. -/
def withLineFeeds : List Char → List Char
  | '\r' :: '\n' :: rest => '\n' :: withLineFeeds rest
  | '\r' :: rest => '\n' :: withLineFeeds rest
  | c :: rest => c :: withLineFeeds rest
  | [] => []

/-! ## Chunks and blocks -/

structure Stream where
  bytes : List UInt8
  pending : Partial
  /-- Whether a carriage return at the end of a chunk waits for what follows. -/
  held : Bool
  ready : List Char
  /-- The bytes and characters of the last chunk, if it had characters. -/
  last : Nat × Nat

namespace Stream

def start (content : ByteArray) : Stream := ⟨content.toList, .none, false, [], (0, 0)⟩

def chunkSize : Nat := 8192
def blockSize : Nat := 4096

/-- The bytes to read for a number of characters, judged by the last chunk. -/
def chunk (stream : Stream) (count : Nat) : Nat := max chunkSize (count * stream.last.1 / max stream.last.2 1)

/-- Decodes bytes, of which there are none at the end of the file. -/
def take (stream : Stream) (bytes : List UInt8) : Except Fault Stream :=
  match stream.pending.decode bytes with
  | none => .error .undecodable
  | some (pending, found) =>
    if bytes.isEmpty && pending.owed != 0 then .error .undecodable
    else
      let settles := stream.held && (bytes.isEmpty || !found.isEmpty)
      let text := if settles then '\r' :: found else found
      let holds := !bytes.isEmpty && text.getLast? == some '\r'
      let image := withLineFeeds (if holds then text.dropLast else text)
      .ok {
        bytes := stream.bytes.drop bytes.length
        pending
        held := holds || (stream.held && !settles)
        ready := stream.ready ++ image
        last := if image.isEmpty then (0, 0) else (bytes.length, image.length) }

/-- Reads on until a block is ready or the file ends; `fuel` is more than the number of bytes. -/
def fill : Nat → Stream → Except Fault Stream
  | 0, stream => .ok stream
  | fuel + 1, stream => do
    if blockSize ≤ stream.ready.length then return stream
    let bytes := stream.bytes.take (stream.chunk (blockSize - stream.ready.length))
    let next ← stream.take bytes
    if bytes.isEmpty then return next else fill fuel next

def block (stream : Stream) : Except Fault (List Char × Stream) := do
  let stream ← fill (stream.bytes.length + 1) stream
  return (stream.ready.take blockSize, { stream with ready := stream.ready.drop blockSize })

/-- The text of all further blocks, up to the first fault; `fuel` is more than the number of blocks. -/
def blocks : Nat → Stream → Source
  | 0, _ => ofText []
  | fuel + 1, stream =>
    match stream.block with
    | .error fault => ⟨[], some fault⟩
    | .ok ([], _) => ofText []
    | .ok (text, stream) => if text.all isAllowed then (blocks fuel stream).after text else ⟨[], some .document⟩

end Stream

/-- The text of a file. Its first two blocks count as one. -/
def ofBytes (content : ByteArray) : Source :=
  let read := do
    let (first, stream) ← (Stream.start content).block
    let (second, stream) ← stream.block
    return (first ++ second, stream)
  match read with
  | .error fault => ⟨[], some fault⟩
  | .ok (text, stream) =>
    if text.all isAllowed then (stream.blocks (content.size + 1)).after text else ⟨[], some .document⟩

end Source
end TermStyle.Yaml
