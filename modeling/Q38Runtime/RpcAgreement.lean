import Q38Runtime.FallibleRuns
import Q38Runtime.RpcFraming

/-! The two ends of the executor's socket agree: what the client packs is what the server
copies out of its records, and the other way round, however the bytes are split on the way. -/
namespace Q38.RpcFraming
open ByteStreams Contracts ExecutorRpc FallibleRuns FixedCodec Imperative

section Fields

theorem word_packed {width : Nat} {value : Int} {bytes : List UInt8}
    (packed : packWord width value = some bytes) :
    0 ≤ value ∧ value.toNat < 256 ^ width ∧ bytes = toBytes width value.toNat := by
  unfold packWord at packed
  split at packed
  case isTrue fits =>
    cases packed
    exact ⟨fits.1, (Int.toNat_lt fits.1).mpr (by exact_mod_cast fits.2), rfl⟩
  case isFalse => cases packed

theorem fields_packed {fields : List (Nat × Int)} {bytes : List UInt8}
    (packed : packFields fields = some bytes) :
    (∀ field ∈ fields, 0 ≤ field.2 ∧ field.2.toNat < 256 ^ field.1) ∧
      bytes = fields.flatMap fun field => toBytes field.1 field.2.toNat := by
  obtain ⟨words, each, same⟩ := Option.bind_eq_some_iff.mp packed
  cases same
  have all := map_some_all each
  clear packed each
  induction all with
  | nil => exact ⟨fun _ member => absurd member List.not_mem_nil, rfl⟩
  | cons first _ ih =>
      obtain ⟨positive, fits, rfl⟩ := word_packed first
      refine ⟨?_, ?_⟩
      · intro other member
        rcases List.mem_cons.mp member with rfl | member
        · exact ⟨positive, fits⟩
        · exact ih.1 other member
      · rw [List.flatMap_cons, ← ih.2, List.flatten_cons]

theorem fields_unpacked (fields : List (Nat × Nat))
    (fits : ∀ field ∈ fields, field.2 < 256 ^ field.1) :
    unpackFields (fields.map Prod.fst) (fields.flatMap fun field => toBytes field.1 field.2) =
      fields.map Prod.snd := by
  induction fields with
  | nil => rfl
  | cons field fields ih =>
      have later := ih fun other member => fits other (List.mem_cons_of_mem _ member)
      have read := of_bytes_to_bytes field.1 field.2
      rw [Nat.mod_eq_of_lt (fits field List.mem_cons_self)] at read
      rw [List.map_cons, List.flatMap_cons, List.map_cons, unpackFields,
        List.take_left' (to_bytes_length _ _), List.drop_left' (to_bytes_length _ _), later, read]

theorem token_packed {token : Int} {word : List UInt8} (packed : packToken token = some word) :
    word = Codec.i32.encode (Int32.ofInt token) ∧ (Int32.ofInt token).toInt = token := by
  unfold packToken at packed
  split at packed
  case isTrue fits =>
    cases packed
    exact ⟨rfl, Int32.toInt_ofInt_of_le fits.1 fits.2⟩
  case isFalse => cases packed

theorem tokens_packed {tokens : List Int} {words : List (List UInt8)}
    (packed : tokens.mapM packToken = some words) :
    words.flatten = Codec.i32.encodeAll (tokens.map Int32.ofInt) ∧
      (tokens.map Int32.ofInt).map Int32.toInt = tokens := by
  have all := map_some_all packed
  clear packed
  induction all with
  | nil => exact ⟨rfl, rfl⟩
  | cons first _ ih =>
      obtain ⟨rfl, read⟩ := token_packed first
      refine ⟨?_, ?_⟩
      · rw [List.flatten_cons, ih.1]
        rfl
      · rw [List.map_cons, List.map_cons, ih.2, read]

theorem opcode_of_code (value : UInt32) : (opcodeOf value).code = value := by
  unfold opcodeOf
  split
  case h_12 => rfl
  all_goals exact UInt32.toNat_inj.mp (by rename_i same; rw [same]; rfl)

end Fields

/-- The request as the server has it is the call as the client has it. -/
structure Carries (call : Call) (request : ExecutorRpcRequestV1) : Prop where
  magic : request.header.magic = kExecutorRpcMagic
  version : request.header.version = kExecutorRpcVersion
  headerBytes : request.header.headerBytes = 56
  requestId : (request.header.requestId.toNat : Int) = call.requestId
  sessionHash : (request.header.sessionHash.toNat : Int) = call.sessionHash
  opcode : (request.header.opcode.code.toNat : Int) = call.opcode
  flags : request.header.flags = if call.timeoutMs = 0 then 0 else 1
  tokenCount : request.header.tokenCount.toNat = call.tokens.length
  argument0 : (request.header.argument0.toNat : Int) = call.argument0
  argument1 : (request.header.argument1.toNat : Int) = call.argument1
  timeoutMs : (request.header.timeoutMs.toNat : Int) = call.timeoutMs
  payloadBytes : request.header.payloadBytes.toNat = call.tokens.length * 4
  tokens : request.tokens.map Int32.toInt = call.tokens

/-- The header of a call whose numbers fit, as the words of the record. -/
def Call.words (call : Call) : UInt32 × UInt16 × UInt16 × UInt64 × UInt64 × UInt32 × UInt32 ×
    UInt32 × UInt32 × UInt32 × UInt32 × UInt64 :=
  (kExecutorRpcMagic, 1, 56, UInt64.ofNat call.requestId.toNat,
    UInt64.ofNat call.sessionHash.toNat, UInt32.ofNat call.opcode.toNat,
    if call.timeoutMs = 0 then 0 else 1, UInt32.ofNat call.tokens.length,
    UInt32.ofNat call.argument0.toNat, UInt32.ofNat call.argument1.toNat,
    UInt32.ofNat call.timeoutMs.toNat, UInt64.ofNat (call.tokens.length * 4))

theorem u32_word {value : Nat} (fits : value < 256 ^ 4) :
    Codec.u32.encode (UInt32.ofNat value) = toBytes 4 value :=
  congrArg (toBytes 4) (UInt32.toNat_ofNat_of_lt' fits)

theorem u64_word {value : Nat} (fits : value < 256 ^ 8) :
    Codec.u64.encode (UInt64.ofNat value) = toBytes 8 value :=
  congrArg (toBytes 8) (UInt64.toNat_ofNat_of_lt' fits)

theorem u32_read {value : Int} (fits : 0 ≤ value ∧ value.toNat < 256 ^ 4) :
    ((UInt32.ofNat value.toNat).toNat : Int) = value := by
  rw [UInt32.toNat_ofNat_of_lt' fits.2, Int.toNat_of_nonneg fits.1]

theorem u64_read {value : Int} (fits : 0 ≤ value ∧ value.toNat < 256 ^ 8) :
    ((UInt64.ofNat value.toNat).toNat : Int) = value := by
  rw [UInt64.toNat_ofNat_of_lt' fits.2, Int.toNat_of_nonneg fits.1]

theorem words_read (call : Call) :
    readHeader (requestWords.encode call.words) = {
      requestId := UInt64.ofNat call.requestId.toNat
      sessionHash := UInt64.ofNat call.sessionHash.toNat
      opcode := opcodeOf (UInt32.ofNat call.opcode.toNat)
      flags := if call.timeoutMs = 0 then 0 else 1
      tokenCount := UInt32.ofNat call.tokens.length
      argument0 := UInt32.ofNat call.argument0.toNat
      argument1 := UInt32.ofNat call.argument1.toNat
      timeoutMs := UInt32.ofNat call.timeoutMs.toNat
      payloadBytes := UInt64.ofNat (call.tokens.length * 4) } := by
  have read := requestWords.decode_encode call.words []
  rw [List.append_nil] at read
  unfold readHeader
  rw [read]
  rfl

theorem call_frame {call : Call} {bytes : List UInt8} (sent : call.frame = some bytes)
    (fits : call.tokens.length * 4 ≤ kExecutorRpcMaximumPayload.toNat) :
    ∃ frame : Frame, bytes = frame.bytes ∧ Carries call frame.request := by
  obtain ⟨payload, listed, sent⟩ := Option.bind_eq_some_iff.mp sent
  obtain ⟨header, packed, same⟩ := Option.bind_eq_some_iff.mp sent
  cases same
  obtain ⟨words, read⟩ := tokens_packed listed
  have sized : payload.flatten.length = call.tokens.length * 4 := by
    rw [words, Codec.encode_all_length, List.length_map]
    rfl
  rw [sized] at packed
  obtain ⟨fitting, written⟩ := fields_packed packed
  have requestId := fitting (8, call.requestId) (by simp)
  have sessionHash := fitting (8, call.sessionHash) (by simp)
  have opcode := fitting (4, call.opcode) (by simp)
  have tokenCount := fitting (4, call.tokens.length) (by simp)
  have argument0 := fitting (4, call.argument0) (by simp)
  have argument1 := fitting (4, call.argument1) (by simp)
  have timeoutMs := fitting (4, call.timeoutMs) (by simp)
  have payloadBytes := fitting (8, ((call.tokens.length * 4 : Nat) : Int)) (by simp)
  dsimp only at requestId sessionHash opcode tokenCount argument0 argument1 timeoutMs payloadBytes
  rw [Int.toNat_natCast] at tokenCount payloadBytes
  have flagged : toBytes 4 (if call.timeoutMs = 0 then (0 : Int) else 1).toNat =
      Codec.u32.encode (if call.timeoutMs = 0 then 0 else 1) := by
    split <;> rfl
  have headed : header = requestWords.encode call.words := by
    rw [written]
    simp only [List.flatMap_cons, List.flatMap_nil, Int.toNat_natCast, flagged,
      ← u64_word requestId.2, ← u64_word sessionHash.2, ← u32_word opcode.2,
      ← u32_word tokenCount.2, ← u32_word argument0.2, ← u32_word argument1.2,
      ← u32_word timeoutMs.2, ← u64_word payloadBytes.2, List.append_nil]
    rfl
  have found := words_read call
  rw [← headed] at found
  have paid : (readHeader header).payloadBytes.toNat = call.tokens.length * 4 := by
    rw [found]
    exact UInt64.toNat_ofNat_of_lt' payloadBytes.2
  refine ⟨⟨header, payload.flatten, ?_, ?_, ?_, ?_⟩, rfl, ?_⟩
  · rw [headed, Codec.encode_length]
    rfl
  · rw [sized, paid]
  · rw [UInt64.le_iff_toNat_le, paid]
    exact fits
  · apply UInt64.toNat_inj.mp
    rw [UInt64.toNat_mod, paid]
    exact Nat.mul_mod_left _ _
  · have tokens : (Codec.i32.decodeMany (payload.flatten.length / 4) payload.flatten) =
        call.tokens.map Int32.ofInt := by
      have decoded := Codec.decode_encode_all Codec.i32 (call.tokens.map Int32.ofInt) []
      rw [List.append_nil, ← words, List.length_map] at decoded
      rw [sized, Nat.mul_div_cancel _ (by omega), decoded]
    constructor
    case tokens => exact (congrArg (List.map Int32.toInt) tokens).trans read
    all_goals
      dsimp only [Frame.request]
      rw [found]
    case requestId => exact u64_read requestId
    case sessionHash => exact u64_read sessionHash
    case opcode =>
      rw [opcode_of_code]
      exact u32_read opcode
    case tokenCount => exact UInt32.toNat_ofNat_of_lt' tokenCount.2
    case argument0 => exact u32_read argument0
    case argument1 => exact u32_read argument1
    case timeoutMs => exact u32_read timeoutMs
    case payloadBytes => exact UInt64.toNat_ofNat_of_lt' payloadBytes.2

/-- What `call` builds out of an answer it finds no fault with. -/
def received (response : ExecutorRpcResponseV1) : Response where
  requestId := response.header.requestId.toNat
  sessionHash := response.header.sessionHash.toNat
  status := (statusCode response.header.status).toNat
  opcode := response.header.opcode.code.toNat
  tokens := response.tokens.map Int32.toInt
  message := response.message
  frontiers :=
    let frontiers := response.header.frontiers.toWords
    [frontiers.canonical, frontiers.target, frontiers.stage0, frontiers.stage1, frontiers.draft,
      frontiers.epoch].map UInt64.toNat

theorem header_length (header : ExecutorRpcResponseHeaderV1) : (headerBytes header).length = 96 :=
  Codec.encode_length responseWords _

theorem header_unpacked (header : ExecutorRpcResponseHeaderV1) :
    unpackFields [4, 2, 2, 8, 8, 4, 4, 4, 4, 8, 8, 8, 8, 8, 8, 8] (headerBytes header) =
      [header.magic.toNat, header.version.toNat, header.headerBytes.toNat,
        header.requestId.toNat, header.sessionHash.toNat, (statusCode header.status).toNat,
        header.opcode.code.toNat, header.tokenCount.toNat, header.messageBytes.toNat,
        header.payloadBytes.toNat, header.frontiers.toWords.canonical.toNat,
        header.frontiers.toWords.target.toNat, header.frontiers.toWords.stage0.toNat,
        header.frontiers.toWords.stage1.toNat, header.frontiers.toWords.draft.toNat,
        header.frontiers.toWords.epoch.toNat] := by
  let fields : List (Nat × Nat) := [(4, header.magic.toNat), (2, header.version.toNat),
    (2, header.headerBytes.toNat), (8, header.requestId.toNat), (8, header.sessionHash.toNat),
    (4, (statusCode header.status).toNat), (4, header.opcode.code.toNat),
    (4, header.tokenCount.toNat), (4, header.messageBytes.toNat), (8, header.payloadBytes.toNat),
    (8, header.frontiers.toWords.canonical.toNat), (8, header.frontiers.toWords.target.toNat),
    (8, header.frontiers.toWords.stage0.toNat), (8, header.frontiers.toWords.stage1.toNat),
    (8, header.frontiers.toWords.draft.toNat), (8, header.frontiers.toWords.epoch.toNat)]
  have written : headerBytes header = fields.flatMap fun field => toBytes field.1 field.2 := by
    simp only [fields, List.flatMap_cons, List.flatMap_nil, List.append_nil]
    rfl
  have fits : ∀ field ∈ fields, field.2 < 256 ^ field.1 := by
    intro field member
    simp only [fields, List.mem_cons, List.not_mem_nil, or_false] at member
    rcases member with rfl | rfl | rfl | rfl | rfl | rfl | rfl | rfl | rfl | rfl | rfl | rfl |
      rfl | rfl | rfl | rfl
    all_goals first | exact UInt32.toNat_lt _ | exact UInt16.toNat_lt _ | exact UInt64.toNat_lt _
  rw [written]
  exact fields_unpacked fields fits

theorem message_decoded (message : String) : decodeUtf8 (messageBytes message) = some message := by
  have whole : (messageBytes message).toByteArray = message.toByteArray := by
    apply ByteArray.ext
    rw [List.data_toByteArray]
    exact Array.toArray_toList
  unfold decodeUtf8 String.fromUTF8?
  rw [whole, dif_pos message.isValidUTF8]
  rfl

theorem message_length (message : String) :
    (messageBytes message).length = message.utf8ByteSize :=
  Array.length_toList

theorem exact_ends {count : Nat} {record rest : List UInt8} {turns : List Turn}
    {returns : List UInt8 → Incoming → Prop} {throws : ClientError → Incoming → Prop}
    (lasting : Lasting turns) (sized : record.length = count)
    (full : ∀ later, Lasting later → returns record ⟨rest, later⟩) :
    Ends (readExact count) returns throws ⟨record ++ rest, turns⟩ := by
  obtain ⟨later, unfailing, gathered⟩ := @gather_whole turns record rest lasting
  unfold Ends readExact
  rw [← sized, gathered]
  exact full later unfailing

/-- The counts of a response are those of what it carries. -/
structure Counted (response : ExecutorRpcResponseV1) : Prop where
  magic : response.header.magic = kExecutorRpcMagic
  version : response.header.version = kExecutorRpcVersion
  headerBytes : response.header.headerBytes = 96
  tokenCount : response.header.tokenCount.toNat = response.tokens.length
  messageBytes : response.header.messageBytes.toNat = response.message.utf8ByteSize
  payloadBytes : response.header.payloadBytes.toNat =
    response.tokens.length * 4 + response.message.utf8ByteSize

theorem response_received {call : Call} {response : ExecutorRpcResponseV1} {turns : List Turn}
    {rest : List UInt8} (lasting : Lasting turns) (counted : Counted response)
    (answers : (response.header.requestId.toNat : Int) = call.requestId)
    (operates : (response.header.opcode.code.toNat : Int) = call.opcode) :
    Ends call.receive
      (fun value after => value = received response ∧ after.bytes = rest ∧ Lasting after.turns)
      (fun _ _ => False) ⟨responseBytes response ++ rest, turns⟩ := by
  unfold Call.receive
  rw [ends_bind, responseBytes, List.append_assoc, List.append_assoc]
  apply exact_ends lasting (header_length _)
  intro later lasting
  rw [header_unpacked]
  dsimp only
  rw [ends_bind, ends_ensure]
  constructor
  case right => exact fun wrong => wrong (by
    rw [counted.magic, counted.version, counted.headerBytes]
    exact ⟨rfl, rfl, rfl⟩)
  intro _
  rw [ends_bind, ends_ensure]
  constructor
  case right => exact fun wrong => wrong ⟨answers, operates⟩
  intro _
  rw [ends_bind, ends_ensure]
  constructor
  case right => exact fun wrong => wrong (by
    rw [counted.payloadBytes, counted.tokenCount, counted.messageBytes])
  intro _
  rw [ends_bind, ← List.append_assoc]
  have listed : (Codec.i32.encodeAll response.tokens).length = response.tokens.length * 4 :=
    Codec.encode_all_length _ _
  apply exact_ends lasting
  · rw [List.length_append, message_length, listed, counted.payloadBytes]
  intro last lasting
  rw [counted.tokenCount, Codec.decode_encode_all, List.drop_left' listed, message_decoded]
  exact ⟨rfl, rfl, lasting⟩

/-- An answer of the service to a request. -/
def answer (request : ExecutorRpcRequestV1) (sessionHash : UInt64) (status : ExecutorRpcStatusV1)
    (tokens : List Token) (message : String) (frontiers : SessionFrontiersV1 Nat) :
    ExecutorRpcResponseV1 :=
  finalizeResponse
    { refused (responseBase request sessionHash) status message with tokens := tokens } frontiers

section Answers
variable {request : ExecutorRpcRequestV1} {sessionHash : UInt64} {status : ExecutorRpcStatusV1}
  {tokens : List Token} {message : String} {frontiers : SessionFrontiersV1 Nat}

theorem answer_counted (listed : tokens.length < 2 ^ 32) (spoken : message.utf8ByteSize < 2 ^ 32) :
    Counted (answer request sessionHash status tokens message frontiers) where
  magic := rfl
  version := rfl
  headerBytes := rfl
  tokenCount := UInt32.toNat_ofNat_of_lt' listed
  messageBytes := UInt32.toNat_ofNat_of_lt' spoken
  payloadBytes := UInt64.toNat_ofNat_of_lt' (by
    change tokens.length * 4 + message.utf8ByteSize < 2 ^ 64
    omega)

/-- A message too long for its count is announced with fewer bytes than it has. -/
theorem long_refused {call : Call} {turns : List Turn} {rest : List UInt8}
    (lasting : Lasting turns) (long : message.utf8ByteSize = 2 ^ 32)
    (answers : (request.header.requestId.toNat : Int) = call.requestId)
    (operates : (request.header.opcode.code.toNat : Int) = call.opcode) :
    Ends call.receive (fun _ _ => False)
      (fun thrown _ => thrown = .valueError "invalid ExecutorRPC response payload length")
      ⟨responseBytes (answer request sessionHash status [] message frontiers) ++ rest, turns⟩ := by
  unfold Call.receive
  rw [ends_bind, responseBytes, List.append_assoc, List.append_assoc]
  apply exact_ends lasting (header_length _)
  intro later lasting
  rw [header_unpacked]
  dsimp only
  rw [ends_bind, ends_ensure]
  constructor
  case right => exact fun wrong => (wrong ⟨rfl, rfl, rfl⟩).elim
  intro _
  rw [ends_bind, ends_ensure]
  constructor
  case right => exact fun wrong => (wrong ⟨answers, operates⟩).elim
  intro _
  rw [ends_bind, ends_ensure]
  constructor
  case right => exact fun _ => rfl
  intro same
  have paid : (UInt64.ofNat ([].length * 4 + message.utf8ByteSize)).toNat =
      (UInt32.ofNat [].length).toNat * 4 + (UInt32.ofNat message.utf8ByteSize).toNat := same
  rw [long] at paid
  simp at paid

end Answers

theorem letters_length (count : Nat) :
    (String.ofList (List.replicate count 'a')).utf8ByteSize = count := by
  have bytes : (List.replicate count 'a').flatMap String.utf8EncodeChar =
      List.replicate count 97 := by
    induction count with
    | zero => rfl
    | succ count ih =>
        rw [List.replicate_succ, List.flatMap_cons, ih]
        rfl
  rw [← message_length, messageBytes, String.toByteArray_ofList, List.utf8Encode, bytes,
    List.data_toByteArray, List.length_replicate]

section Serving
variable {σ₀ σ₁ : Type} (setup : ServiceSetup σ₀ σ₁)
  (elsewhere : Nat → Service σ₀ σ₁ → Service σ₀ σ₁)

/-- A request whose token count is not that of its payload does nothing to the service. -/
theorem miscounted_refused {request : ExecutorRpcRequestV1} (service : Service σ₀ σ₁)
    (miscounted : request.tokens.length ≠ request.header.tokenCount.toNat) :
    (handle setup request service).2 = service ∧
      (handle setup request service).1.header.status = .badRequest := by
  unfold handle
  cases refusal : validateExecutorRpcRequest request setup.sessionHash with
  | some error => exact ⟨rfl, rfl⟩
  | none =>
      exfalso
      unfold validateExecutorRpcRequest at refusal
      simp only [miscounted, ne_eq, not_false_eq_true, if_true] at refusal
      split_ifs at refusal

/-- Frames behind each other are taken apart in only one way. -/
theorem frames_taken {frames taken : List Frame} {rest : List UInt8}
    (same : frames.flatMap Frame.bytes = taken.flatMap Frame.bytes ++ rest) :
    ∃ later, frames = taken ++ later ∧ rest = later.flatMap Frame.bytes := by
  induction taken generalizing frames with
  | nil => exact ⟨frames, rfl, same.symm⟩
  | cons first taken ih =>
      cases frames with
      | nil =>
          have long := first.long
          have short := congrArg List.length same
          rw [List.flatMap_cons, List.append_assoc, List.length_append, List.flatMap_nil,
            List.length_nil] at short
          omega
      | cons frame frames =>
          rw [List.flatMap_cons, List.flatMap_cons, List.append_assoc] at same
          obtain ⟨rfl, behind⟩ := Frame.unique same
          obtain ⟨later, rfl, left⟩ := ih behind
          exact ⟨later, rfl, left⟩

theorem frames_whole (frames : List Frame) : ¬ Torn (frames.flatMap Frame.bytes) := by
  rintro ⟨some_, torn⟩
  cases frames with
  | nil => exact some_ rfl
  | cons frame frames => exact torn frame _ List.flatMap_cons

theorem serve_frames {frames : List Frame} {connection : Connection σ₀ σ₁}
    (bytes : connection.incoming.bytes = frames.flatMap Frame.bytes)
    (reading : Lasting connection.incoming.turns) (writing : Lasting connection.outgoing.turns) :
    ∃ served : List (ExecutorRpcRequestV1 × ExecutorRpcResponseV1),
      served.map Prod.fst = frames.map Frame.request ∧
      (serveRpcClient setup elsewhere connection).1 = .ok () ∧
      (serveRpcClient setup elsewhere connection).2.handled = connection.handled ++ served ∧
      (serveRpcClient setup elsewhere connection).2.outgoing.sent =
        connection.outgoing.sent ++ served.flatMap fun pair => responseBytes pair.2 := by
  obtain ⟨taken, rest, served⟩ := serve_client setup elsewhere connection
  have same : frames.flatMap Frame.bytes = (taken.map Prod.fst).flatMap Frame.bytes ++ rest := by
    rw [← bytes, served.bytes, List.flatMap_map]
  obtain ⟨later, split_, behind⟩ := frames_taken same
  have ended : (serveRpcClient setup elsewhere connection).1 = .ok () := by
    by_contra broken
    rcases served.broken broken with failed | failed | torn
    · exact failed reading
    · exact failed writing
    · exact frames_whole later (behind ▸ torn)
  obtain ⟨empty, sent⟩ := served.closed ended
  have over_ : later = [] := by
    cases later with
    | nil => rfl
    | cons frame later =>
        have long := frame.long
        have short := congrArg List.length (behind.symm.trans empty)
        rw [List.flatMap_cons, List.length_append, List.length_nil] at short
        omega
  refine ⟨taken.map fun pair => (pair.1.request, pair.2), ?_, ended, served.handled, ?_⟩
  · rw [split_, over_, List.append_nil, List.map_map, List.map_map]
    rfl
  · rw [sent, List.flatMap_map]

theorem calls_frames {calls : List Call} {sent : List (List UInt8)}
    (packed : calls.mapM Call.frame = some sent)
    (fits : ∀ call ∈ calls, call.tokens.length * 4 ≤ kExecutorRpcMaximumPayload.toNat) :
    ∃ frames : List Frame, sent.flatten = frames.flatMap Frame.bytes ∧
      List.Forall₂ Carries calls (frames.map Frame.request) := by
  have all := map_some_all packed
  clear packed
  induction all with
  | nil => exact ⟨[], rfl, .nil⟩
  | cons first _ ih =>
      obtain ⟨frame, rfl, carried⟩ := call_frame first (fits _ List.mem_cons_self)
      obtain ⟨frames, same, each⟩ := ih fun call member => fits call (List.mem_cons_of_mem _ member)
      refine ⟨frame :: frames, ?_, .cons carried each⟩
      rw [List.flatten_cons, List.flatMap_cons, same]

/-- Calls come to the service as they were made, one frame behind the other, however the reads
split them; an answer whose counts fit comes back as it was given; and of any bytes whatsoever
whole frames are taken, then the connection is closed, and no writer runs whose token count is
not that of its payload. -/
theorem framing_agrees :
    (∀ (calls : List Call) (sent : List (List UInt8)) (connection : Connection σ₀ σ₁),
      calls.mapM Call.frame = some sent →
      (∀ call ∈ calls, call.tokens.length * 4 ≤ kExecutorRpcMaximumPayload.toNat) →
      connection.incoming.bytes = sent.flatten → Lasting connection.incoming.turns →
      Lasting connection.outgoing.turns →
      ∃ served : List (ExecutorRpcRequestV1 × ExecutorRpcResponseV1),
        List.Forall₂ Carries calls (served.map Prod.fst) ∧
        (serveRpcClient setup elsewhere connection).1 = .ok () ∧
        (serveRpcClient setup elsewhere connection).2.handled = connection.handled ++ served ∧
        (serveRpcClient setup elsewhere connection).2.outgoing.sent =
          connection.outgoing.sent ++ served.flatMap fun pair => responseBytes pair.2) ∧
    (∀ (call : Call) (request : ExecutorRpcRequestV1) (sessionHash : UInt64)
      (status : ExecutorRpcStatusV1) (tokens : List Token) (message : String)
      (frontiers : SessionFrontiersV1 Nat) (turns : List Turn) (rest : List UInt8),
      (request.header.requestId.toNat : Int) = call.requestId →
      (request.header.opcode.code.toNat : Int) = call.opcode →
      tokens.length < 2 ^ 32 → message.utf8ByteSize < 2 ^ 32 → Lasting turns →
      Ends call.receive
        (fun value after => value = received
          (answer request sessionHash status tokens message frontiers) ∧
          after.bytes = rest ∧ Lasting after.turns)
        (fun _ _ => False)
        ⟨responseBytes (answer request sessionHash status tokens message frontiers) ++ rest,
          turns⟩) ∧
    (∀ connection : Connection σ₀ σ₁, ∃ taken rest,
      Served connection (serveRpcClient setup elsewhere connection) taken rest) ∧
    ∀ (frame : Frame) (service : Service σ₀ σ₁),
      isWriterOpcode frame.request.header.opcode →
      frame.request.header.tokenCount.toNat * 4 ≠ frame.payload.length →
      (handle setup frame.request service).2 = service ∧
        (handle setup frame.request service).1.header.status = .badRequest := by
  refine ⟨?requests, ?answers, serve_client setup elsewhere, ?writers⟩
  case requests =>
    intro calls sent connection packed fits bytes reading writing
    obtain ⟨frames, same, each⟩ := calls_frames packed fits
    obtain ⟨served, taken, outcome⟩ := serve_frames setup elsewhere (bytes.trans same) reading
      writing
    exact ⟨served, taken ▸ each, outcome⟩
  case answers =>
    intro call request sessionHash status tokens message frontiers turns rest answers operates
      listed spoken lasting
    exact response_received lasting (answer_counted listed spoken) answers operates
  case writers =>
    intro frame service _ miscounted
    apply miscounted_refused
    intro counted
    apply miscounted
    rw [← counted]
    change (Codec.i32.decodeMany (frame.payload.length / 4) frame.payload).length * 4 = _
    rw [Codec.decode_many_length, frame.whole]

end Serving

/-- A ping is answered with a message of 2 ^ 32 bytes: its count is cut to none, and the client
takes the rest of the payload for an error. -/
theorem framing_too_long :
    ¬ ∀ (call : Call) (request : ExecutorRpcRequestV1) (sessionHash : UInt64)
      (status : ExecutorRpcStatusV1) (tokens : List Token) (message : String)
      (frontiers : SessionFrontiersV1 Nat),
      (request.header.requestId.toNat : Int) = call.requestId →
      (request.header.opcode.code.toNat : Int) = call.opcode →
      (call.receive
        ⟨responseBytes (answer request sessionHash status tokens message frontiers), []⟩).1 =
          .ok (received (answer request sessionHash status tokens message frontiers)) := by
  intro always
  obtain ⟨message, long⟩ : ∃ message : String, message.utf8ByteSize = 2 ^ 32 :=
    ⟨String.ofList (List.replicate (2 ^ 32) 'a'), letters_length (2 ^ 32)⟩
  let request : ExecutorRpcRequestV1 := { header := { requestId := 1, opcode := .ping } }
  let call : Call := { requestId := 1, sessionHash := 0, opcode := 1 }
  have read := always call request 0 .ok [] message .fresh rfl rfl
  have raised := @long_refused request 0 .ok message .fresh call [] [] List.not_mem_nil long
    rfl rfl
  rw [List.append_nil] at raised
  unfold Ends Lands at raised
  split at raised
  case h_1 => exact raised
  case h_2 thrown after ran =>
    rw [ran] at read
    cases read

end Q38.RpcFraming
