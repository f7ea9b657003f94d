import Mathlib.Data.List.Basic
import Mathlib.Algebra.Group.Nat.Basic

/-!
# Wire messages of the persistent control connection

The protobuf messages of the persistent control connection, which also travel
on the peer-to-peer streams of unary calls, the 16-byte call identifiers, and
the length-delimited framing that refuses a frame longer than its reader's
limit.  Payloads are opaque bytes.  The generated `pb` package is not part of
the sources; its messages follow the schema of the specification, and a
message's encoded length follows the protobuf wire format with one-byte field
tags.
-/

namespace P2pd

/-- A 16-byte call identifier, `uuid.UUID`. -/
structure Uuid where
  /-- The identifier's bytes, `callID[:]`. -/
  bytes : List UInt8
  /-- A UUID is exactly sixteen bytes. -/
  length_bytes : bytes.length = 16
  deriving DecidableEq

namespace Uuid

/-- `uuid.FromBytes`: only a sixteen-byte field parses. -/
def fromBytes (b : List UInt8) : Option Uuid :=
  if h : b.length = 16 then some ⟨b, h⟩ else none

/-- `uuid.Nil`, which `uuid.FromBytes` returns beside its error. -/
def nil : Uuid := ⟨List.replicate 16 0, rfl⟩

@[simp] theorem fromBytes_bytes (u : Uuid) : fromBytes u.bytes = some u := by
  simp [fromBytes, u.length_bytes]

/-- A field that parses is the bytes of the identifier it parses to. -/
theorem bytes_of_fromBytes {b : List UInt8} {u : Uuid} (parsed : fromBytes b = some u) :
    u.bytes = b := by
  unfold fromBytes at parsed
  split at parsed <;> cases parsed
  rfl

/-- `fmt.Sprintf("%d", callID)` on the byte array: its bytes in decimal,
separated by spaces, in brackets. -/
def formatDecimal (u : Uuid) : String :=
  "[" ++ " ".intercalate (u.bytes.map fun b => toString b.toNat) ++ "]"

end Uuid

/-- A peer identity, `peer.ID`, by its bytes. -/
abbrev PeerId := List UInt8

/-- The multihash check of `peer.IDFromBytes` for one-byte varints: an identity
(`0x00`) or SHA2-256 (`0x12`) code, the digest's length, and a digest of that
length.  Any other byte string is refused with the check's error. -/
def multihashPeerId : List UInt8 → Except String PeerId
  | code :: length :: digest =>
      if code ≠ 0x00 ∧ code ≠ 0x12 then .error "unknown multihash code"
      else if digest.length ≠ length.toNat then .error "multihash length inconsistent"
      else .ok (code :: length :: digest)
  | _ => .error "multihash too short. must be >= 2 bytes"

/-- `pb.CallUnaryRequest`. -/
structure CallUnaryRequest where
  /-- The callee on the client leg, the verified caller once an inbound handler
  has overwritten it. -/
  peer : PeerId
  /-- The application protocol of the call. -/
  proto : String
  /-- The opaque request payload. -/
  data : List UInt8
  deriving DecidableEq

/-- `pb.CallUnaryResponse`: the `result` oneof of a payload or an error text. -/
inductive CallUnaryResponse
  | response (data : List UInt8)
  | error (message : String)
  deriving DecidableEq

/-- The `message` oneof of `pb.PersistentConnectionRequest`. -/
inductive RequestMessage
  | addUnaryHandler (proto : String)
  | callUnary (call : CallUnaryRequest)
  | unaryResponse (response : CallUnaryResponse)
  | cancel
  deriving DecidableEq

/-- `pb.PersistentConnectionRequest`: an unset oneof is `none`. -/
structure Request where
  /-- The `call_id` field as received, not yet parsed. -/
  callId : List UInt8
  /-- The `message` oneof. -/
  message : Option RequestMessage
  deriving DecidableEq

/-- The `message` oneof of `pb.PersistentConnectionResponse`.  The inner
`CallUnaryResponse` is `none` where the code copies a nil pointer. -/
inductive ResponseMessage
  | callUnaryResponse (response : Option CallUnaryResponse)
  | requestHandling (call : CallUnaryRequest)
  | daemonError (message : String)
  | cancel
  deriving DecidableEq

/-- `pb.PersistentConnectionResponse`: an unset oneof is the bare `Ok`. -/
structure Response where
  /-- The `call_id` field. -/
  callId : List UInt8
  /-- The `message` oneof. -/
  message : Option ResponseMessage
  deriving DecidableEq

/-- `req.GetCallUnary()`: the call, or nil for any other variant. -/
def Request.getCallUnary (request : Request) : Option CallUnaryRequest :=
  match request.message with
  | some (.callUnary call) => some call
  | _ => none

/-- `req.GetUnaryResponse()`: the response, or nil for any other variant. -/
def Request.getUnaryResponse (request : Request) : Option CallUnaryResponse :=
  match request.message with
  | some (.unaryResponse response) => some response
  | _ => none

/-- A response whose oneof is `DaemonError`, as the `AddUnaryHandler` worker
tests with `resp.Message.(*pb.PersistentConnectionResponse_DaemonError)`. -/
def Response.isDaemonError (response : Response) : Bool :=
  match response.message with
  | some (.daemonError _) => true
  | _ => false

/-! ## Responses built by `persistent_stream.go` -/

/-- `okUnaryCallResponse`: the bare `Ok` for a call. -/
def okUnaryCallResponse (callID : Uuid) : Response :=
  ⟨callID.bytes, none⟩

/-- `errorUnaryCallString`: a `DaemonError` carrying a message. -/
def errorUnaryCallString (callID : Uuid) (errMsg : String) : Response :=
  ⟨callID.bytes, some (.daemonError errMsg)⟩

/-- `errorUnaryCall`: a `DaemonError` carrying `err.Error()`; a Go error is
represented by its text. -/
def errorUnaryCall (callID : Uuid) (err : String) : Response :=
  errorUnaryCallString callID err

/-- `okCancelled`: the `Cancel` response of a cancelled call. -/
def okCancelled (callID : Uuid) : Response :=
  ⟨callID.bytes, some .cancel⟩

/-- The text of `context.Canceled`, what a cancelled context's `Err` returns. -/
def contextCanceled : String := "context canceled"

/-! ## Framing -/

/-- Bytes of the base-128 varint encoding of a number below `2^70`. -/
def varintSize (n : Nat) : Nat :=
  ((List.range 9).filter fun i => 2 ^ (7 * (i + 1)) ≤ n).length + 1

/-- Bytes of a length-delimited field: tag, length varint, contents. -/
def lengthDelimited (length : Nat) : Nat :=
  1 + varintSize length + length

/-- Encoded length of a `pb.CallUnaryRequest`. -/
def CallUnaryRequest.encodedSize (call : CallUnaryRequest) : Nat :=
  lengthDelimited call.peer.length + lengthDelimited call.proto.utf8ByteSize +
    lengthDelimited call.data.length

/-- Encoded length of a `pb.CallUnaryResponse`. -/
def CallUnaryResponse.encodedSize : CallUnaryResponse → Nat
  | .response data => lengthDelimited data.length
  | .error message => lengthDelimited message.utf8ByteSize

/-- Encoded length of the `message` oneof, its own field included. -/
def RequestMessage.encodedSize : RequestMessage → Nat
  | .addUnaryHandler proto => lengthDelimited (lengthDelimited proto.utf8ByteSize)
  | .callUnary call => lengthDelimited call.encodedSize
  | .unaryResponse response => lengthDelimited response.encodedSize
  | .cancel => lengthDelimited 0

/-- Encoded length of a `pb.PersistentConnectionRequest`, the length a
delimited frame announces for it. -/
def Request.encodedSize (request : Request) : Nat :=
  lengthDelimited request.callId.length +
    (request.message.map RequestMessage.encodedSize).getD 0

/-- A length-delimited frame as a reader meets it: an encoded request, or an
announced length whose bytes do not decode, with the decoder's error. -/
inductive Frame
  | message (request : Request)
  | malformed (length : Nat) (error : String)
  deriving DecidableEq

/-- The text of `io.ErrShortBuffer`, the delimited reader's refusal of a frame
longer than its limit. -/
def errShortBuffer : String := "short buffer"

/-- `ggio.NewDelimitedReader(r, maxSize).ReadMsg` on one frame: a length over
`maxSize` is refused before anything is decoded. -/
def readMsg (maxSize : Nat) : Frame → Except String Request
  | .message request =>
      if maxSize < request.encodedSize then .error errShortBuffer else .ok request
  | .malformed length error =>
      if maxSize < length then .error errShortBuffer else .error error

/-- `network.MessageSizeMax`, the limit of the readers on peer-to-peer streams. -/
def messageSizeMax : Nat := 4194304

/-- A frame within the limit is read back as the request it encodes. -/
theorem readMsg_message {maxSize : Nat} {request : Request}
    (within : request.encodedSize ≤ maxSize) :
    readMsg maxSize (.message request) = .ok request := by
  simp [readMsg, Nat.not_lt.mpr within]

/-- A frame over the limit is refused with the buffer error, whatever it encodes. -/
theorem readMsg_oversized {maxSize : Nat} {request : Request}
    (over : maxSize < request.encodedSize) :
    readMsg maxSize (.message request) = .error errShortBuffer := by
  simp [readMsg, over]

end P2pd
