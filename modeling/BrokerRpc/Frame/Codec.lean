import BrokerRpc.Frame.HeaderText
import BrokerRpc.Text.Blank

/-! # Frames on the wire

A frame is a block of lines, an empty line, a body and a terminator. The first line names the
command and each further line is a header. A declared content length delimits the body; without
one the body ends at the first terminator.

Reading works on the front of a buffer: it finds a frame, or wants more bytes, or rejects bytes
and says how many of them to drop.
-/
namespace BrokerRpc

/-- The longest content that a frame may declare. -/
def maxFrameSize : Nat := 16 * 1024 * 1024

/-- Bytes that form no frame, with the count of bytes to drop before reading on. -/
structure Rejected where
  reason : Malformed
  consumed : Nat
  deriving DecidableEq, Repr

def Malformed.message : Malformed → String
  | terminatedInHead => "frame terminated inside header block"
  | missingCommand => "missing command"
  | commandNotText => "command is not valid UTF-8"
  | headerNotText => "header is not valid UTF-8"
  | noColon line => "header without colon: " ++ line
  | emptyName => "empty header name"
  | badEscape c => "invalid escape sequence: \\" ++ c.toString
  | danglingEscape => "dangling escape at end of header"
  | duplicateHeader name => "duplicate header: " ++ name
  | badLength => "invalid content-length value"
  | lengthTooLarge n =>
    "content-length " ++ Text.decimal n ++ " exceeds " ++ Text.decimal maxFrameSize ++ " bytes"
  | lengthMismatch n => "content-length " ++ Text.decimal n ++ " does not match body"
  | unknownCommand name => "unknown command: " ++ name

def Rejected.text (r : Rejected) : String :=
  r.reason.message ++ " (" ++ Text.decimal r.consumed ++ " bytes skipped)"

namespace Frame

def lineFeed : UInt8 := 10

/-- Tolerated in front of a line feed. -/
def carriageReturn : UInt8 := 13

def terminator : UInt8 := 0

def colon : UInt8 := 58

/-! ## Writing -/

def headerLine (entry : String × String) : Bytes :=
  Bytes.ofText (HeaderText.escape entry.1) ++
    colon :: (Bytes.ofText (HeaderText.escape entry.2) ++ [lineFeed])

def encode (m : Message) : Bytes :=
  if m.isHeartbeat then [lineFeed]
  else
    Bytes.ofText m.command.wireName ++
      lineFeed :: (m.headers.flatMap headerLine ++ lineFeed :: (m.content ++ [terminator]))

/-! ## The block of lines -/

inductive Head where
  | unfinished
  /-- A line holds a terminator; the bytes from that line on. -/
  | broken (bytes : Bytes)
  /-- The lines before the empty one, and the bytes after it. -/
  | block (lines : List Bytes) (body : Bytes)
  deriving DecidableEq, Repr

def Head.cons (line : Bytes) : Head → Head
  | block lines body => block (line :: lines) body
  | other => other

def dropReturn (line : Bytes) : Bytes :=
  if line.getLast? = some carriageReturn then line.dropLast else line

def head (b : Bytes) : Head :=
  match _h : Bytes.cut? lineFeed b with
  | none => if terminator ∈ b then .broken b else .unfinished
  | some (raw, rest) =>
    if terminator ∈ raw then .broken b
    else if dropReturn raw = [] then .block [] rest
    else (head rest).cons (dropReturn raw)
termination_by b.length
decreasing_by exact Bytes.length_lt_of_cut? ‹_›

/-! ## Headers -/

def readHeader (line : Bytes) : Except Malformed (String × String) :=
  match Bytes.toText? line with
  | none => .error .headerNotText
  | some text =>
    match text.toList.dropWhile (· != ':') with
    | [] => .error (.noColon text)
    | _ :: written => do
      let name ← HeaderText.unescape (text.toList.takeWhile (· != ':'))
      if name = "" then throw .emptyName
      let value ← HeaderText.unescape written
      return (name, value)

/-- The headers read so far and the first fault met. A fault does not stop the reading, because
later headers still say where the frame ends. -/
structure Block where
  headers : Headers := []
  fault : Option Malformed := none
  deriving DecidableEq, Repr

def Block.fail (block : Block) (reason : Malformed) : Block :=
  { block with fault := block.fault.or (some reason) }

def Block.add (block : Block) (line : Bytes) : Block :=
  match readHeader line with
  | .error reason => block.fail reason
  | .ok (name, value) =>
    if name ∈ block.headers.keys then block.fail (.duplicateHeader name)
    else { block with headers := block.headers ++ [(name, value)] }

def readHeaders (lines : List Bytes) : Block := lines.foldl Block.add {}

/-! ## The body -/

inductive Extent where
  | unfinished
  | bad (reason : Malformed)
  | found (content rest : Bytes)
  deriving DecidableEq, Repr

/-- The content length that the headers declare: nothing, a number, or a value that is none. -/
def declaredLength (headers : Headers) : Option (Option Nat) :=
  (headers.get? HeaderName.contentLength.text).map fun value =>
    Text.below? Text.wordBound (Text.trim value)

def extent (declared : Option (Option Nat)) (body : Bytes) : Extent :=
  match declared with
  | some none => .bad .badLength
  | some (some length) =>
    if maxFrameSize < length then .bad (.lengthTooLarge length)
    else
      match body.drop length with
      | [] => .unfinished
      | last :: rest =>
        if last = terminator then .found (body.take length) rest
        else .bad (.lengthMismatch length)
  | none =>
    match Bytes.cut? terminator body with
    | none => .unfinished
    | some (content, rest) => .found content rest

/-! ## Reading -/

def afterTerminator (b : Bytes) : Bytes :=
  match Bytes.cut? terminator b with
  | none => []
  | some (_, rest) => rest

/-- Rejects a buffer whose unread part is `unread`. -/
def reject (reason : Malformed) (b unread : Bytes) : Except Rejected (Option (Message × Nat)) :=
  .error ⟨reason, b.length - unread.length⟩

def decodeBlock (b first : Bytes) (lines : List Bytes) (body : Bytes) :
    Except Rejected (Option (Message × Nat)) :=
  match Bytes.toText? first with
  | none => reject .commandNotText b (afterTerminator body)
  | some name =>
    let block := readHeaders lines
    match extent (declaredLength block.headers) body with
    | .unfinished => .ok none
    | .bad reason => reject reason b (afterTerminator body)
    | .found content rest =>
      match Command.ofWireName? name, block.fault with
      | none, _ => reject (.unknownCommand name) b rest
      | some _, some reason => reject reason b rest
      | some command, none =>
        .ok (some (⟨command, block.headers, content⟩, b.length - rest.length))

/-- Reads one frame from the front of a buffer that starts with no heartbeat. -/
def decodeFrame (b : Bytes) : Except Rejected (Option (Message × Nat)) :=
  match head b with
  | .unfinished => .ok none
  | .broken bytes => reject .terminatedInHead b (afterTerminator bytes)
  | .block [] body => reject .missingCommand b (afterTerminator body)
  | .block (first :: lines) body => decodeBlock b first lines body

/-- Reads one frame or heartbeat from the front of a buffer, with the count of bytes it takes.
`none` wants more bytes. -/
def decode (b : Bytes) : Except Rejected (Option (Message × Nat)) :=
  match b with
  | [] => .ok none
  | c :: rest =>
    if c = lineFeed then .ok (some (Message.heartbeat, 1))
    else if c = carriageReturn then
      match rest with
      | [] => .ok none
      | d :: _ => if d = lineFeed then .ok (some (Message.heartbeat, 2)) else decodeFrame b
    else decodeFrame b

end Frame
end BrokerRpc
