import Wiretap.Network

/-!
# Responses on the wire

A machine that reads a response byte by byte: first the lines of the head, then
the body, whose length the head tells.  A body comes with a length, in chunks of
which each tells its own length, or goes on until the connection ends.

* `Wire.Reader.feed` takes bytes as they come in.
* `Wire.Reader.reply` says what has come when no more comes.
-/

namespace Wiretap
namespace Wire

/-- What the next byte belongs to. -/
inductive Phase where
  /-- A line of the head, after those that are complete; the last byte first. -/
  | head (line : Bytes) (lines : List Bytes)
  /-- A body of which a number of bytes are left. -/
  | sized (left : Nat)
  /-- A body that goes on until the connection ends. -/
  | unbounded
  /-- The line that tells the length of a chunk; the last byte first. -/
  | chunkLine (line : Bytes)
  /-- A chunk of which a number of bytes are left. -/
  | chunk (left : Nat)
  /-- The line end behind a chunk. -/
  | chunkEnd
  /-- A line behind the last chunk; the last byte first. -/
  | trailer (line : Bytes)
  /-- Nothing: the response is complete. -/
  | complete
  /-- Nothing: the response is malformed. -/
  | malformed
deriving DecidableEq

/-- The head of a response. -/
structure Opening where
  /-- The version of the protocol. -/
  version : Version
  /-- How the request went. -/
  status : Status
  /-- The headers. -/
  headers : Header.Map
deriving DecidableEq

/-- A response that is being read. -/
structure Reader where
  /-- Whether a body can follow the head at all. -/
  hasBody : Bool
  /-- What the next byte belongs to. -/
  phase : Phase
  /-- The head, when it is complete. -/
  opening : Option Opening
  /-- The pieces of the body, last one first. -/
  pieces : List Bytes
  /-- The piece of the body that is being read, last byte first. -/
  piece : Bytes

namespace Reader

/-- Reads the response to a request. -/
def start (request : Request) : Reader :=
  ⟨request.method ≠ .head, .head [] [], none, [], []⟩

/-- A line without a carriage return at its end, first byte first. -/
def finishLine (line : Bytes) : Bytes :=
  match line with
  | 13 :: rest => rest.reverse
  | _ => line.reverse

/-- The version that a first line starts with, and what follows it. -/
def version? (line : Bytes) : Option (Version × Bytes) :=
  if line.take 9 = Bytes.ofString "HTTP/1.1 " then some (.http11, line.drop 9)
  else if line.take 9 = Bytes.ofString "HTTP/1.0 " then some (.http10, line.drop 9)
  else none

/-- The number that digits denote. -/
def decimal? (digits : Bytes) : Option Nat :=
  if digits.isEmpty || !(digits.all fun b => 48 ≤ b && b ≤ 57) then none
  else some (digits.foldl (fun n b => n * 10 + (b.toNat - 48)) 0)

/-- The number that hexadecimal digits denote. -/
def hexadecimal? (digits : Bytes) : Option Nat :=
  if digits.isEmpty then none
  else digits.foldlM (fun n b => (Bytes.hexValue? b).map fun value => n * 16 + value) 0

/-- Reads the first line. -/
def statusLine? (line : Bytes) : Option (Version × Status) := do
  let (version, rest) ← version? line
  let code ← decimal? (rest.take 3)
  let status ← Status.ofNat? code
  match rest.drop 3 with
  | [] => some (version, status)
  | b :: _ => if b = 32 then some (version, status) else none

/-- Whether a byte may stand around a value. -/
def isPadding (b : UInt8) : Bool := b == 32 || b == 9

/-- Reads a header. -/
def field? (line : Bytes) : Option (Header.Name × Header.Value) := do
  let name ← Header.Name.ofBytes? (line.takeWhile (· != 58))
  match line.dropWhile (· != 58) with
  | _ :: rest =>
    let value := ((rest.dropWhile isPadding).reverse.dropWhile isPadding).reverse
    (Header.Value.ofBytes? value).map fun value => (name, value)
  | [] => none

/-- Reads a head. -/
def opening? (lines : List Bytes) : Option Opening :=
  match lines with
  | first :: rest => do
    let (version, status) ← statusLine? first
    let fields ← rest.mapM field?
    return ⟨version, status,
      fields.foldl (fun map field => map.append field.1 field.2) .empty⟩
  | [] => none

/-- Whether the last coding of the body cuts it into chunks. -/
def isChunked (headers : Header.Map) : Bool :=
  match (headers.getAll .transferEncoding).getLast? with
  | some value =>
    let last := (value.bytes.reverse.takeWhile (· != 44)).reverse
    (last.filter fun b => !isPadding b).map Bytes.toLower = Bytes.ofString "chunked"
  | none => false

/-- The lengths that the head tells. -/
def lengths (headers : Header.Map) : List (Option Nat) :=
  (headers.getAll .contentLength).map fun value => decimal? value.bytes

/-- What follows a head. -/
def bodyPhase (hasBody : Bool) (opening : Opening) : Phase :=
  if !hasBody || opening.status.code = 204 || opening.status.code = 304 then .complete
  else if isChunked opening.headers then .chunkLine []
  else if opening.headers.contains .transferEncoding then .unbounded
  else
    match lengths opening.headers with
    | [] => .unbounded
    -- Several lengths stand for one if they all agree.
    | some 0 :: rest => if rest.all (· == some 0) then .complete else .malformed
    | some n :: rest => if rest.all (· == some n) then .sized n else .malformed
    | none :: _ => .malformed

/-- Takes the empty line behind a head; an interim response is followed by another one. -/
def openBody (reader : Reader) (lines : List Bytes) : Reader :=
  match opening? lines with
  | none => { reader with phase := .malformed }
  | some opening =>
    -- An interim response has no body, and the headers in it count for nothing.
    if opening.status.code < 200 ∧ opening.status.code ≠ 101 then
      { reader with phase := .head [] [] }
    else
      match bodyPhase reader.hasBody opening with
      | .malformed => { reader with phase := .malformed }
      | phase => { reader with phase := phase, opening := some opening }

/-- Ends the piece of the body that is being read. -/
def endPiece (reader : Reader) : Reader :=
  if reader.piece.isEmpty then reader
  else { reader with pieces := reader.piece.reverse :: reader.pieces, piece := [] }

/-- Takes the line that tells the length of a chunk. -/
def openChunk (reader : Reader) (line : Bytes) : Reader :=
  let digits := (line.takeWhile (· != 59)).filter fun b => !isPadding b
  match hexadecimal? digits with
  | none => { reader with phase := .malformed }
  | some 0 => { reader with phase := .trailer [] }
  | some n => { reader with phase := .chunk n }

/-- Takes one byte. -/
def step (reader : Reader) (b : UInt8) : Reader :=
  match reader.phase with
  | .head line lines =>
    if b = 10 then
      let line := finishLine line
      if line.isEmpty then
        -- Empty lines in front of the first line are passed over.
        if lines.isEmpty then reader else reader.openBody lines.reverse
      else { reader with phase := .head [] (line :: lines) }
    else { reader with phase := .head (b :: line) lines }
  | .sized left =>
    { reader with
      phase := if left ≤ 1 then .complete else .sized (left - 1)
      piece := b :: reader.piece }
  | .unbounded => { reader with piece := b :: reader.piece }
  | .chunkLine line =>
    if b = 10 then reader.openChunk (finishLine line)
    else { reader with phase := .chunkLine (b :: line) }
  | .chunk left =>
    { reader with
      phase := if left ≤ 1 then .chunkEnd else .chunk (left - 1)
      piece := b :: reader.piece }
  | .chunkEnd =>
    if b = 13 then reader
    else if b = 10 then { reader.endPiece with phase := .chunkLine [] }
    else { reader with phase := .malformed }
  | .trailer line =>
    if b = 10 then
      { reader with phase := if (finishLine line).isEmpty then .complete else .trailer [] }
    else { reader with phase := .trailer (b :: line) }
  | .complete => reader
  | .malformed => reader

/-- Takes bytes as they come in. -/
def feed (reader : Reader) (bytes : Bytes) : Reader := (bytes.foldl step reader).endPiece

/-- Whether no more bytes are needed. -/
def isDone (reader : Reader) : Bool :=
  match reader.phase with
  | .complete => true
  | .malformed => true
  | _ => false

/-- How the body ends when no more comes, because the time is up or the connection has ended. -/
def ending (reader : Reader) (isLate : Bool) : Ending :=
  match reader.phase with
  | .complete => .complete
  | .malformed => .cut
  | .unbounded => if isLate then .stalled else .complete
  | _ => if isLate then .stalled else .cut

/-- What has come when no more comes. -/
def reply (reader : Reader) (isLate : Bool) : Reply :=
  match reader.opening, reader.phase with
  -- Once a head has come there is a response, however its body ends.
  | some opening, _ =>
    .answer ⟨opening.version, opening.status, opening.headers, reader.pieces.reverse,
      reader.ending isLate⟩
  | none, .malformed => .refused
  | none, _ => if isLate then .silent else .refused

end Reader
end Wire
end Wiretap
