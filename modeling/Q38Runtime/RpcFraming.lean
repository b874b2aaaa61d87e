import Q38Runtime.ByteStreams
import Q38Runtime.ExecutorRpc

/-! The executor's socket: `Client.call` of `q38_rpc_client.py` at one end, `serve_rpc_client`
of `rpc.cc` at the other. Either end writes its headers by hand; the client packs numbers of
given widths, the server copies the words of a record. -/
namespace Q38.RpcFraming
open ByteStreams Contracts ExecutorRpc FixedCodec Imperative

/-! The client. Its numbers are Python's, so a field may not fit its format. -/

def packWord (width : Nat) (value : Int) : Option (List UInt8) :=
  if 0 ≤ value ∧ value < 256 ^ width then some (toBytes width value.toNat) else none

def packFields (fields : List (Nat × Int)) : Option (List UInt8) := do
  let words ← fields.mapM fun field => packWord field.1 field.2
  return words.flatten

def unpackFields : List Nat → List UInt8 → List Nat
  | [], _ => []
  | width :: widths, bytes =>
      ofBytes (bytes.take width) :: unpackFields widths (bytes.drop width)

/-- `TOKEN.pack`. -/
def packToken (token : Int) : Option (List UInt8) :=
  if -2 ^ 31 ≤ token ∧ token < 2 ^ 31 then some (Codec.i32.encode (Int32.ofInt token)) else none

/-- The arguments of one `call`, with the id and the session the client adds. -/
structure Call where
  requestId : Int
  sessionHash : Int
  opcode : Int
  tokens : List Int := []
  argument0 : Int := 0
  argument1 : Int := 0
  timeoutMs : Int := 0
  deriving DecidableEq, Repr

/-- What `call` sends; `none` where `struct.pack` raises. -/
def Call.frame (call : Call) : Option (List UInt8) := do
  let payload ← call.tokens.mapM packToken
  let header ← packFields [
    (4, kExecutorRpcMagic.toNat), (2, 1), (2, 56), (8, call.requestId), (8, call.sessionHash),
    (4, call.opcode), (4, if call.timeoutMs = 0 then 0 else 1), (4, call.tokens.length),
    (4, call.argument0), (4, call.argument1), (4, call.timeoutMs), (8, payload.flatten.length)]
  return header ++ payload.flatten

inductive ClientError where
  | eofError
  | osError
  | valueError (text : String)
  | unicodeDecodeError
  deriving DecidableEq, Repr

structure Response where
  requestId : Nat
  sessionHash : Nat
  status : Nat
  opcode : Nat
  tokens : List Int
  message : String
  frontiers : List Nat
  deriving DecidableEq, Repr

/-- `read_exact`. -/
def readExact (count : Nat) : Proc ClientError Incoming (List UInt8) := fun incoming =>
  match gather count incoming with
  | (.full bytes, rest) => (.ok bytes, rest)
  | (.ended _, rest) => (.error .eofError, rest)
  | (.failed, rest) => (.error .osError, rest)

/-- `bytes.decode("utf-8")`. -/
def decodeUtf8 (bytes : List UInt8) : Option String := String.fromUTF8? bytes.toByteArray

/-- What `call` makes of the answer to `call`. -/
def Call.receive (call : Call) : Proc ClientError Incoming Response := do
  let header ← readExact 96
  match unpackFields [4, 2, 2, 8, 8, 4, 4, 4, 4, 8, 8, 8, 8, 8, 8, 8] header with
  | [magic, version, headerBytes, requestId, sessionHash, status, opcode, tokenCount,
      messageBytes, payloadBytes, canonical, target, stage0, stage1, draft, epoch] =>
      Proc.ensure (magic = kExecutorRpcMagic.toNat ∧ version = 1 ∧ headerBytes = 96)
        (.valueError "invalid ExecutorRPC response header")
      Proc.ensure ((requestId : Int) = call.requestId ∧ (opcode : Int) = call.opcode)
        (.valueError "ExecutorRPC response does not match its request")
      Proc.ensure (payloadBytes = tokenCount * 4 + messageBytes)
        (.valueError "invalid ExecutorRPC response payload length")
      let payload ← readExact payloadBytes
      let tokens := (Codec.i32.decodeMany tokenCount payload).map Int32.toInt
      match decodeUtf8 (payload.drop (tokenCount * 4)) with
      | none => Proc.throwing .unicodeDecodeError
      | some message => return {
          requestId, sessionHash, status, opcode, tokens, message
          frontiers := [canonical, target, stage0, stage1, draft, epoch] }
  | _ => Proc.throwing (.valueError "")

/-! The server. -/

def opcodeOf (value : UInt32) : ExecutorRpcOpcodeV1 :=
  match value.toNat with
  | 0 => .invalid
  | 1 => .ping
  | 2 => .state
  | 3 => .append
  | 4 => .seed
  | 5 => .decode
  | 6 => .speculative
  | 7 => .stats
  | 8 => .cancel
  | 9 => .reset
  | 10 => .logits
  | _ => .unlisted value

def statusCode : ExecutorRpcStatusV1 → UInt32
  | .ok => 0
  | .badRequest => 1
  | .failedPrecondition => 2
  | .capacityExhausted => 3
  | .internal => 4
  | .poisoned => 5
  | .cancelled => 6
  | .deadlineExceeded => 7

/-- `ExecutorRpcRequestHeaderV1` in memory. -/
def requestWords : Codec (UInt32 × UInt16 × UInt16 × UInt64 × UInt64 × UInt32 × UInt32 ×
    UInt32 × UInt32 × UInt32 × UInt32 × UInt64) :=
  Codec.u32.pair <| Codec.u16.pair <| Codec.u16.pair <| Codec.u64.pair <| Codec.u64.pair <|
    Codec.u32.pair <| Codec.u32.pair <| Codec.u32.pair <| Codec.u32.pair <| Codec.u32.pair <|
    Codec.u32.pair Codec.u64

def readHeader (bytes : List UInt8) : ExecutorRpcRequestHeaderV1 :=
  match requestWords.decode bytes with
  | (magic, version, headerBytes, requestId, sessionHash, opcode, flags, tokenCount, argument0,
      argument1, timeoutMs, payloadBytes) =>
      { magic, version, headerBytes, requestId, sessionHash, opcode := opcodeOf opcode, flags,
        tokenCount, argument0, argument1, timeoutMs, payloadBytes }

/-- `ExecutorRpcResponseHeaderV1` in memory. -/
def responseWords : Codec (UInt32 × UInt16 × UInt16 × UInt64 × UInt64 × UInt32 × UInt32 ×
    UInt32 × UInt32 × UInt64 × UInt64 × UInt64 × UInt64 × UInt64 × UInt64 × UInt64) :=
  Codec.u32.pair <| Codec.u16.pair <| Codec.u16.pair <| Codec.u64.pair <| Codec.u64.pair <|
    Codec.u32.pair <| Codec.u32.pair <| Codec.u32.pair <| Codec.u32.pair <| Codec.u64.pair <|
    Codec.u64.pair <| Codec.u64.pair <| Codec.u64.pair <| Codec.u64.pair <| Codec.u64.pair
    Codec.u64

def headerBytes (header : ExecutorRpcResponseHeaderV1) : List UInt8 :=
  let frontiers := header.frontiers.toWords
  responseWords.encode (header.magic, header.version, header.headerBytes, header.requestId,
    header.sessionHash, statusCode header.status, header.opcode.code, header.tokenCount,
    header.messageBytes, header.payloadBytes, frontiers.canonical, frontiers.target,
    frontiers.stage0, frontiers.stage1, frontiers.draft, frontiers.epoch)

def messageBytes (message : String) : List UInt8 := message.toByteArray.data.toList

def responseBytes (response : ExecutorRpcResponseV1) : List UInt8 :=
  headerBytes response.header ++ Codec.i32.encodeAll response.tokens ++
    messageBytes response.message

/-- One connection; `handled` lists what the service was handed and what it answered. -/
structure Connection (σ₀ σ₁ : Type) where
  incoming : Incoming
  outgoing : Outgoing := {}
  service : Service σ₀ σ₁
  handled : List (ExecutorRpcRequestV1 × ExecutorRpcResponseV1) := []

section Serving
variable {σ₀ σ₁ : Type}

abbrev ServerCall (σ₀ σ₁ α : Type) := Proc Thrown (Connection σ₀ σ₁) α

/-- `read_exact_or_eof`; `none` at the end of the stream. -/
def readExactOrEof (wanted : Nat) : ServerCall σ₀ σ₁ (Option (List UInt8)) := fun connection =>
  let read := gather wanted connection.incoming
  let connection := { connection with incoming := read.2 }
  match read.1 with
  | .full bytes => (.ok (some bytes), connection)
  | .ended [] => (.ok none, connection)
  | .ended _ => (.error (.runtimeError "executor RPC frame ended early"), connection)
  | .failed => (.error (.systemError "read executor RPC"), connection)

/-- `write_exact`. -/
def writeExact (bytes : List UInt8) : ServerCall σ₀ σ₁ Unit := fun connection =>
  let written := deliver bytes connection.outgoing
  let connection := { connection with outgoing := written.2 }
  if written.1 then (.ok (), connection)
  else (.error (.systemError "write executor RPC"), connection)

def writeResponse (response : ExecutorRpcResponseV1) : ServerCall σ₀ σ₁ Unit := do
  writeExact (headerBytes response.header)
  Proc.whenever (response.tokens ≠ []) (writeExact (Codec.i32.encodeAll response.tokens))
  Proc.whenever (response.message ≠ "") (writeExact (messageBytes response.message))

/-- The payload of a frame, read into `request.tokens`. -/
def readTokens (count : Nat) : ServerCall σ₀ σ₁ (List Token) :=
  if count = 0 then pure []
  else do
    match ← readExactOrEof (count * 4) with
    | none => Proc.throwing (.runtimeError "executor RPC payload ended early")
    | some bytes => return Codec.i32.decodeMany count bytes

variable (setup : ServiceSetup σ₀ σ₁) (elsewhere : Nat → Service σ₀ σ₁ → Service σ₀ σ₁)

/-- `service->handle`; `elsewhere` is what other connections do to the service before. -/
def handleRequest (request : ExecutorRpcRequestV1) :
    ServerCall σ₀ σ₁ ExecutorRpcResponseV1 := fun connection =>
  let answered := handle setup request (elsewhere connection.handled.length connection.service)
  (.ok answered.1, { connection with
    service := answered.2, handled := connection.handled ++ [(request, answered.1)] })

/-- One turn of the loop of `serve_rpc_client`; `false` where it breaks. -/
def serveFrame : ServerCall σ₀ σ₁ Bool := do
  match ← readExactOrEof 56 with
  | none => return false
  | some bytes =>
      let header := readHeader bytes
      Proc.ensure (header.payloadBytes ≤ kExecutorRpcMaximumPayload ∧ header.payloadBytes % 4 = 0)
        (.runtimeError "executor RPC wire payload is invalid")
      let tokens ← readTokens (header.payloadBytes / 4).toNat
      let response ← handleRequest setup elsewhere { header, tokens }
      writeResponse response
      return true

end Serving

/-- A frame the server takes: a header, and all of the payload the header announces. -/
structure Frame where
  header : List UInt8
  payload : List UInt8
  headed : header.length = 56
  sized : payload.length = (readHeader header).payloadBytes.toNat
  allowed : (readHeader header).payloadBytes ≤ kExecutorRpcMaximumPayload
  aligned : (readHeader header).payloadBytes % 4 = 0

namespace Frame

def bytes (frame : Frame) : List UInt8 := frame.header ++ frame.payload

def request (frame : Frame) : ExecutorRpcRequestV1 where
  header := readHeader frame.header
  tokens := Codec.i32.decodeMany (frame.payload.length / 4) frame.payload

theorem long (frame : Frame) : 56 ≤ frame.bytes.length := by
  rw [bytes, List.length_append, frame.headed]
  omega

theorem words (frame : Frame) :
    ((readHeader frame.header).payloadBytes / 4).toNat = frame.payload.length / 4 := by
  rw [frame.sized, UInt64.toNat_div]
  rfl

theorem whole (frame : Frame) : frame.payload.length / 4 * 4 = frame.payload.length := by
  have aligned := congrArg UInt64.toNat frame.aligned
  rw [UInt64.toNat_mod, ← frame.sized] at aligned
  exact Nat.div_mul_cancel (Nat.dvd_of_mod_eq_zero aligned)

theorem unique {first second : Frame} {rest rest' : List UInt8}
    (same : first.bytes ++ rest = second.bytes ++ rest') : first = second ∧ rest = rest' := by
  rcases first with ⟨header, payload, headed, sized, allowed, aligned⟩
  rcases second with ⟨header', payload', headed', sized', allowed', aligned'⟩
  change (header ++ payload) ++ rest = (header' ++ payload') ++ rest' at same
  rw [List.append_assoc, List.append_assoc] at same
  obtain ⟨rfl, behind⟩ := List.append_inj same (headed.trans headed'.symm)
  obtain ⟨rfl, rfl⟩ := List.append_inj behind (sized.trans sized'.symm)
  exact ⟨rfl, rfl⟩

end Frame

/-- Bytes, and no frame the server takes at their head. -/
def Torn (bytes : List UInt8) : Prop :=
  bytes ≠ [] ∧ ∀ (frame : Frame) (rest), bytes ≠ frame.bytes ++ rest

section Reading
variable {σ₀ σ₁ : Type} {connection : Connection σ₀ σ₁}
  {throws : Thrown → Connection σ₀ σ₁ → Prop}

theorem read_ends {wanted : Nat} {returns : Option (List UInt8) → Connection σ₀ σ₁ → Prop}
    (full : ∀ got after, after.turns <:+ connection.incoming.turns → got.length = wanted →
      connection.incoming.bytes = got ++ after.bytes →
      returns (some got) { connection with incoming := after })
    (empty : ∀ after : Incoming, after.turns <:+ connection.incoming.turns →
      connection.incoming.bytes = [] → 0 < wanted →
      returns none { connection with incoming := after })
    (broken : ∀ thrown after, ¬ Lasting connection.incoming.turns ∨
      connection.incoming.bytes ≠ [] ∧ connection.incoming.bytes.length < wanted →
      throws thrown { connection with incoming := after }) :
    Ends (readExactOrEof wanted) returns throws connection := by
  have moved := gather_turns wanted connection.incoming.bytes connection.incoming.turns
  unfold Ends readExactOrEof gather
  revert moved
  generalize gatherTurns wanted connection.incoming.bytes connection.incoming.turns = read
  rcases read with ⟨found, after⟩
  rintro ⟨moved, behind⟩
  cases found with
  | full got => exact full got after behind moved.1 moved.2
  | ended got =>
      obtain ⟨short, same⟩ := moved
      cases got with
      | nil => exact empty after behind same short
      | cons byte rest => exact broken _ after (.inr (same ▸ ⟨List.cons_ne_nil _ _, short⟩))
  | failed => exact broken _ after (.inl fun lasting => lasting moved)

theorem tokens_end {count : Nat} {returns : List Token → Connection σ₀ σ₁ → Prop}
    (full : ∀ got after, after.turns <:+ connection.incoming.turns → got.length = count * 4 →
      connection.incoming.bytes = got ++ after.bytes →
      returns (Codec.i32.decodeMany count got) { connection with incoming := after })
    (broken : ∀ thrown after, ¬ Lasting connection.incoming.turns ∨
      connection.incoming.bytes.length < count * 4 →
      throws thrown { connection with incoming := after }) :
    Ends (readTokens count) returns throws connection := by
  unfold readTokens
  split
  case isTrue nothing =>
    subst nothing
    exact full [] connection.incoming (List.suffix_refl _) rfl rfl
  case isFalse =>
    rw [ends_bind]
    refine read_ends full ?_ fun thrown after reason =>
      broken thrown after (reason.imp_right And.right)
    intro after behind empty short
    refine broken _ after (.inr ?_)
    rw [empty]
    exact short

theorem write_ends {bytes : List UInt8} {returns : Unit → Connection σ₀ σ₁ → Prop}
    (finished : ∀ after : Outgoing, after.turns <:+ connection.outgoing.turns →
      after.sent = connection.outgoing.sent ++ bytes →
      returns () { connection with outgoing := after })
    (broken : ∀ thrown after, ¬ Lasting connection.outgoing.turns →
      throws thrown { connection with outgoing := after }) :
    Ends (writeExact bytes) returns throws connection := by
  obtain ⟨behind, all⟩ := deliver_ends bytes connection.outgoing
  unfold Ends writeExact
  dsimp only
  split at all
  case isTrue whole =>
    rw [if_pos whole]
    exact finished _ behind all
  case isFalse failed =>
    rw [if_neg failed]
    exact broken _ _ all

/-- A part of a response that is only written where it is not empty. -/
theorem part_ends {written : Prop} [Decidable written] {bytes : List UInt8}
    {returns : Unit → Connection σ₀ σ₁ → Prop} (absent : ¬ written → bytes = [])
    (finished : ∀ after : Outgoing, after.turns <:+ connection.outgoing.turns →
      after.sent = connection.outgoing.sent ++ bytes →
      returns () { connection with outgoing := after })
    (broken : ∀ thrown after, ¬ Lasting connection.outgoing.turns →
      throws thrown { connection with outgoing := after }) :
    Ends (Proc.whenever written (writeExact bytes)) returns throws connection := by
  rw [ends_whenever]
  constructor
  case left => exact fun _ => write_ends finished broken
  case right =>
    intro unwritten
    refine finished connection.outgoing (List.suffix_refl _) ?_
    rw [absent unwritten, List.append_nil]

theorem response_ends {response : ExecutorRpcResponseV1}
    {returns : Unit → Connection σ₀ σ₁ → Prop}
    (finished : ∀ after : Outgoing, after.turns <:+ connection.outgoing.turns →
      after.sent = connection.outgoing.sent ++ responseBytes response →
      returns () { connection with outgoing := after })
    (broken : ∀ thrown after, ¬ Lasting connection.outgoing.turns →
      throws thrown { connection with outgoing := after }) :
    Ends (writeResponse response) returns throws connection := by
  unfold writeResponse
  rw [ends_bind]
  refine write_ends ?_ broken
  intro headed first sentHeader
  have broken' : ∀ later : Outgoing, later.turns <:+ connection.outgoing.turns →
      ∀ thrown after, ¬ Lasting later.turns →
        throws thrown { connection with outgoing := after } :=
    fun later behind thrown after failed =>
      broken thrown after fun lasting => failed (lasting.suffix behind)
  rw [ends_bind]
  refine part_ends (fun unlisted => ?_) ?_ (broken' headed first)
  · rw [not_not.mp unlisted]
    rfl
  · intro listed second sentTokens
    refine part_ends (fun unspoken => ?_) ?_ (broken' listed (second.trans first))
    · rw [not_not.mp unspoken]
      rfl
    · intro spoken third sentMessage
      refine finished spoken (third.trans (second.trans first)) ?_
      change spoken.sent = listed.sent ++ _ at sentMessage
      change listed.sent = headed.sent ++ _ at sentTokens
      rw [sentMessage, sentTokens, sentHeader, responseBytes, List.append_assoc,
        List.append_assoc, List.append_assoc]

end Reading

section Serving
variable {σ₀ σ₁ : Type} (setup : ServiceSetup σ₀ σ₁)
  (elsewhere : Nat → Service σ₀ σ₁ → Service σ₀ σ₁)

/-- The schedules only get shorter. -/
def Onward (before after : Connection σ₀ σ₁) : Prop :=
  after.incoming.turns <:+ before.incoming.turns ∧ after.outgoing.turns <:+ before.outgoing.turns

/-- A whole frame was taken off the stream, and the service was handed its request. -/
def Took (before after : Connection σ₀ σ₁) (frame : Frame) (answer : ExecutorRpcResponseV1) :
    Prop :=
  before.incoming.bytes = frame.bytes ++ after.incoming.bytes ∧
    after.handled = before.handled ++ [(frame.request, answer)]

/-- Why a connection is given up. -/
def Broken (connection : Connection σ₀ σ₁) : Prop :=
  ¬ Lasting connection.incoming.turns ∨ ¬ Lasting connection.outgoing.turns ∨
    Torn connection.incoming.bytes

/-- What one turn of the loop leaves; `true` where another follows. -/
def Turned (before after : Connection σ₀ σ₁) : Bool → Prop
  | true => Onward before after ∧ ∃ frame answer, Took before after frame answer ∧
      after.outgoing.sent = before.outgoing.sent ++ responseBytes answer
  | false => before.incoming.bytes = [] ∧ after.handled = before.handled ∧
      after.outgoing = before.outgoing

def GaveUp (before after : Connection σ₀ σ₁) : Prop :=
  Broken before ∧ (after.handled = before.handled ∨ ∃ frame answer, Took before after frame answer)

theorem serve_frame_ends (connection : Connection σ₀ σ₁) :
    Ends (serveFrame setup elsewhere) (fun again after => Turned connection after again)
      (fun _ after => GaveUp connection after) connection := by
  unfold serveFrame
  rw [ends_bind]
  refine read_ends ?_ ?_ ?_
  case refine_2 => exact fun after _ empty _ => ⟨empty, rfl, rfl⟩
  case refine_3 =>
    rintro thrown after (failed | ⟨some_, short⟩)
    · exact ⟨.inl failed, .inl rfl⟩
    · refine ⟨.inr (.inr ⟨some_, fun frame rest same => ?_⟩), .inl rfl⟩
      have long := frame.long
      rw [same, List.length_append] at short
      omega
  intro header body first headed taken
  have some_ : connection.incoming.bytes ≠ [] := by
    intro empty
    have long := congrArg List.length taken
    rw [empty, List.length_append, headed, List.length_nil] at long
    omega
  dsimp only
  rw [ends_bind, ends_ensure]
  constructor
  case right =>
    intro invalid
    refine ⟨.inr (.inr ⟨some_, fun frame rest same => invalid ?_⟩), .inl rfl⟩
    rw [taken, Frame.bytes, List.append_assoc] at same
    rw [(List.append_inj same (headed.trans frame.headed.symm)).1]
    exact ⟨frame.allowed, frame.aligned⟩
  rintro ⟨allowed, aligned⟩
  have exact_ := congrArg UInt64.toNat aligned
  rw [UInt64.toNat_mod] at exact_
  have whole : ((readHeader header).payloadBytes / 4).toNat * 4 =
      (readHeader header).payloadBytes.toNat := by
    rw [UInt64.toNat_div]
    exact Nat.div_mul_cancel (Nat.dvd_of_mod_eq_zero exact_)
  rw [ends_bind]
  refine tokens_end ?_ ?_
  case refine_2 =>
    rintro thrown after (failed | short)
    · exact ⟨.inl fun lasting => failed (lasting.suffix first), .inl rfl⟩
    · refine ⟨.inr (.inr ⟨some_, fun frame rest same => ?_⟩), .inl rfl⟩
      rw [taken, Frame.bytes, List.append_assoc] at same
      obtain ⟨rfl, behind⟩ := List.append_inj same (headed.trans frame.headed.symm)
      rw [whole, ← frame.sized] at short
      change body.bytes.length < _ at short
      rw [behind, List.length_append] at short
      omega
  intro payload rest second paid drawn
  let frame : Frame := ⟨header, payload, headed, paid.trans whole, allowed, aligned⟩
  have took : connection.incoming.bytes = frame.bytes ++ rest.bytes := by
    change connection.incoming.bytes = (header ++ payload) ++ rest.bytes
    rw [List.append_assoc, ← drawn, taken]
  have read : (⟨readHeader header, Codec.i32.decodeMany
      ((readHeader header).payloadBytes / 4).toNat payload⟩ : ExecutorRpcRequestV1) =
      frame.request := by
    rw [frame.words]
    rfl
  rw [read, ends_bind]
  change Ends (writeResponse _ >>= fun _ => pure true) _ _ _
  rw [ends_bind]
  refine response_ends ?_ ?_
  · exact fun after third sent => ⟨⟨second.trans first, third⟩, frame, _, ⟨took, rfl⟩, sent⟩
  · exact fun _ after failed => ⟨.inr (.inl failed), .inr ⟨frame, _, took, rfl⟩⟩

theorem took_shorter {before after : Connection σ₀ σ₁} {frame : Frame}
    {answer : ExecutorRpcResponseV1} (took : Took before after frame answer) :
    after.incoming.bytes.length < before.incoming.bytes.length := by
  have long := frame.long
  rw [took.1, List.length_append]
  omega

/-- `serve_rpc_client`. The connection is closed when it returns, with an error or without. -/
def serveRpcClient (connection : Connection σ₀ σ₁) : Except Thrown Unit × Connection σ₀ σ₁ :=
  match _ran : serveFrame setup elsewhere connection with
  | (.ok true, after) => serveRpcClient after
  | (.ok false, after) => (.ok (), after)
  | (.error thrown, after) => (.error thrown, after)
termination_by connection.incoming.bytes.length
decreasing_by
  have turned := serve_frame_ends setup elsewhere connection
  rw [Ends, _ran] at turned
  obtain ⟨-, frame, answer, took, -⟩ := turned
  exact took_shorter took

/-- The frames a run took, what stood behind them, and why it ended there. -/
structure Served (before : Connection σ₀ σ₁) (outcome : Except Thrown Unit × Connection σ₀ σ₁)
    (taken : List (Frame × ExecutorRpcResponseV1)) (rest : List UInt8) : Prop where
  bytes : before.incoming.bytes = taken.flatMap (fun served => served.1.bytes) ++ rest
  handled : outcome.2.handled =
    before.handled ++ taken.map fun served => (served.1.request, served.2)
  closed : outcome.1 = .ok () → rest = [] ∧ outcome.2.outgoing.sent =
    before.outgoing.sent ++ taken.flatMap fun served => responseBytes served.2
  broken : outcome.1 ≠ .ok () → ¬ Lasting before.incoming.turns ∨
    ¬ Lasting before.outgoing.turns ∨ Torn rest

theorem serve_client (connection : Connection σ₀ σ₁) :
    ∃ taken rest, Served connection (serveRpcClient setup elsewhere connection) taken rest := by
  induction connection using serveRpcClient.induct setup elsewhere with
  | case1 connection after turn ih =>
      have turned := serve_frame_ends setup elsewhere connection
      rw [Ends, turn] at turned
      obtain ⟨onward, frame, answer, took, sent⟩ := turned
      obtain ⟨taken, rest, served⟩ := ih
      rw [serveRpcClient, turn]
      refine ⟨(frame, answer) :: taken, rest, ?_, ?_, ?_, ?_⟩
      · rw [took.1, served.bytes, List.flatMap_cons, List.append_assoc]
      · rw [served.handled, took.2, List.append_assoc]
        rfl
      · intro ended
        refine ⟨(served.closed ended).1, ?_⟩
        rw [(served.closed ended).2, sent, List.flatMap_cons, List.append_assoc]
      · intro ended
        rcases served.broken ended with failed | failed | torn
        · exact .inl fun lasting => failed (lasting.suffix onward.1)
        · exact .inr (.inl fun lasting => failed (lasting.suffix onward.2))
        · exact .inr (.inr torn)
  | case2 connection after turn =>
      have turned := serve_frame_ends setup elsewhere connection
      rw [Ends, turn] at turned
      obtain ⟨empty, same, quiet⟩ := turned
      rw [serveRpcClient, turn]
      refine ⟨[], [], empty, ?_, fun _ => ⟨rfl, ?_⟩, fun ended => absurd rfl ended⟩
      · exact same.trans (List.append_nil _).symm
      · exact (congrArg Outgoing.sent quiet).trans (List.append_nil _).symm
  | case3 connection thrown after turn =>
      have turned := serve_frame_ends setup elsewhere connection
      rw [Ends, turn] at turned
      obtain ⟨broken, same | ⟨frame, answer, took⟩⟩ := turned
      · rw [serveRpcClient, turn]
        refine ⟨[], connection.incoming.bytes, rfl, ?_, (by simp), fun _ => broken⟩
        exact same.trans (List.append_nil _).symm
      · rw [serveRpcClient, turn]
        refine ⟨[(frame, answer)], after.incoming.bytes, ?_, took.2, (by simp), fun _ => ?_⟩
        · rw [took.1]
          simp
        · rcases broken with failed | failed | torn
          · exact .inl failed
          · exact .inr (.inl failed)
          · exact absurd took.1 (torn.2 frame _)

end Serving

end Q38.RpcFraming
