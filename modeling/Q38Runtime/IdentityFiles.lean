import Q38Runtime.BoundaryChecksum
import Q38Runtime.Identity
import Q38Runtime.TextFields

/-!
The text of a session identity: what `q38_identity.py` writes and `identity.cc` loads. A
checksum over the packed record sees every single byte that is changed outside of it.
-/
namespace Q38.IdentityFiles
open Contracts FixedCodec Identity PleLayout TensorLedger TextFields

section Loading

/-- `hex_digit`; `none` is -1. -/
def hexDigit (value : Char) : Option Nat :=
  if 48 ≤ value.toNat ∧ value.toNat ≤ 57 then some (value.toNat - 48)
  else if 97 ≤ value.toNat ∧ value.toNat ≤ 102 then some (value.toNat - 97 + 10)
  else if 65 ≤ value.toNat ∧ value.toNat ≤ 70 then some (value.toNat - 65 + 10)
  else none

/-- What `std::stoull` finds behind space and sign where the base is 0: the base is told
by the prefix. -/
def basePrefix : List Char → Nat × List Char
  | '0' :: mark :: digit :: rest =>
      if (mark = 'x' ∨ mark = 'X') ∧ (hexDigit digit).isSome then (16, digit :: rest)
      else (8, '0' :: mark :: digit :: rest)
  | '0' :: rest => (8, '0' :: rest)
  | text => (10, text)

/-- `std::stoull` with base 0: the value and what is left of the text. -/
def stoullAuto (value : List Char) : Except Thrown (Nat × List Char) :=
  let unspaced := value.dropWhile isSpace
  let negative := unspaced.head? = some '-'
  let unsigned := if negative ∨ unspaced.head? = some '+' then unspaced.tail else unspaced
  let (base, body) := basePrefix unsigned
  let digits := body.takeWhile fun letter => decide ((hexDigit letter).getD base < base)
  let magnitude := digits.foldl (fun parsed digit => base * parsed + (hexDigit digit).getD 0) 0
  if digits = [] then .error (.invalidArgument "stoull")
  else if 2 ^ 64 ≤ magnitude then .error (.outOfRange "stoull")
  else .ok (if negative then (2 ^ 64 - magnitude) % 2 ^ 64 else magnitude, body.drop digits.length)

def parseU64 (name : String) (value : List Char) : Except Thrown UInt64 := do
  let (parsed, rest) ← stoullAuto value
  if rest ≠ [] then refuse ("invalid session identity integer: " ++ name)
  else .ok (UInt64.ofNat parsed)

def digestBytes : List Char → Option (List UInt8)
  | [] => some []
  | [_] => none
  | high :: low :: rest => do
      let high ← hexDigit high
      let low ← hexDigit low
      let bytes ← digestBytes rest
      some (UInt8.ofNat (high <<< 4 ||| low) :: bytes)

def parseDigest256 (hex : List Char) : Except Thrown Digest256V1 :=
  if hex.length ≠ 64 then
    .error (.invalidArgument "SHA-256 digest must contain 64 hex digits")
  else match digestBytes hex with
    | none => .error (.invalidArgument "SHA-256 digest is not hexadecimal")
    | some bytes => .ok (digestCodec.decode bytes)

/-- One line of the file; the fields are in the order of their lines. -/
def readField (values : List (List Char × List Char)) (line : List Char) :
    Except Thrown (List (List Char × List Char)) :=
  if line = [] then .ok values
  else
    let key := line.takeWhile (· ≠ '=')
    match line.dropWhile (· ≠ '=') with
    | [] => refuse "invalid/duplicate session identity field"
    | _ :: value =>
        if key = [] ∨ key ∈ values.map Prod.fst then
          refuse "invalid/duplicate session identity field"
        else .ok (values ++ [(key, value)])

def required : List String :=
  ["session_hash", "model_checkpoint_sha256", "tokenizer_sha256", "chat_template_sha256",
    "runtime_sha256", "kernels_sha256", "ple_layout_sha256", "stage_plan_sha256",
    "sampling_parser_sha256", "context_limit", "flags", "identity_checksum"]

/-- `values.at(key)`. -/
def field (values : List (List Char × List Char)) (key : String) : List Char :=
  (values.lookup key.toList).getD []

def loadFields (values : List (List Char × List Char)) : Except Thrown SessionIdentityV1 := do
  let sessionHash ← parseU64 "session_hash" (field values "session_hash")
  let modelCheckpoint ← parseDigest256 (field values "model_checkpoint_sha256")
  let tokenizer ← parseDigest256 (field values "tokenizer_sha256")
  let chatTemplate ← parseDigest256 (field values "chat_template_sha256")
  let runtime ← parseDigest256 (field values "runtime_sha256")
  let kernels ← parseDigest256 (field values "kernels_sha256")
  let pleLayout ← parseDigest256 (field values "ple_layout_sha256")
  let stagePlan ← parseDigest256 (field values "stage_plan_sha256")
  let samplingParser ← parseDigest256 (field values "sampling_parser_sha256")
  let context ← parseU64 "context_limit" (field values "context_limit")
  let flags ← parseU64 "flags" (field values "flags")
  if 4294967295 < context ∨ 4294967295 < flags then refuse "session identity value overflows"
  else
    let identityChecksum ← parseU64 "identity_checksum" (field values "identity_checksum")
    let result : SessionIdentityV1 := {
      sessionHash, modelCheckpoint, tokenizer, chatTemplate, runtime, kernels, pleLayout,
      stagePlan, samplingParser, contextLimit := context.toUInt32, flags := flags.toUInt32,
      identityChecksum }
    match validateSessionIdentity result with
    | some error => refuse ("invalid session identity: " ++ error)
    | none => .ok result

/-- `none` is a file that cannot be opened. -/
def loadSessionIdentity (path : String) (document : Option (List Char)) :
    Except Thrown SessionIdentityV1 :=
  match document with
  | none => refuse ("cannot open session identity: " ++ path)
  | some text =>
      match split '\n' text [] with
      | [] => refuse "invalid session identity file header"
      | magic :: lines =>
          if magic ≠ "Q38_SESSION_IDENTITY_V1".toList then
            refuse "invalid session identity file header"
          else do
            let values ← lines.foldlM readField []
            match required.find? fun key => decide (key.toList ∉ values.map Prod.fst) with
            | some key => refuse ("missing identity field: " ++ key)
            | none =>
                if values.length ≠ required.length then
                  refuse "unexpected session identity field"
                else loadFields values

end Loading

section Writing

/-- `fnv64`: Python integers have no width, so the mask is applied by hand. -/
def fnv64 (data : List UInt8) : Nat :=
  data.foldl (fun value byte => ((value ^^^ byte.toNat) * 1099511628211) &&& ((1 <<< 64) - 1))
    1469598103934665603

/-- The digests of the inputs, in their order. -/
structure Digests where
  modelMetadata : Digest256V1
  tokenizer : Digest256V1
  chatTemplate : Digest256V1
  runtime : Digest256V1
  kernels : Digest256V1
  pleLayout : Digest256V1
  stagePlan : Digest256V1
  samplingParser : Digest256V1
  deriving DecidableEq

def Digests.list (digests : Digests) : List Digest256V1 :=
  [digests.modelMetadata, digests.tokenizer, digests.chatTemplate, digests.runtime,
    digests.kernels, digests.pleLayout, digests.stagePlan, digests.samplingParser]

def hexText (digest : Digest256V1) : List Char :=
  digest.toList.flatMap fun byte =>
    [Nat.digitChar (byte.toNat / 16), Nat.digitChar (byte.toNat % 16)]

def labels : List String :=
  ["model_checkpoint_sha256", "tokenizer_sha256", "chat_template_sha256", "runtime_sha256",
    "kernels_sha256", "ple_layout_sha256", "stage_plan_sha256", "sampling_parser_sha256"]

/-- `int.from_bytes(b"Q38I", "little")`. -/
def magic : Nat := ofBytes ("Q38I".toList.map fun letter => UInt8.ofNat letter.toNat)

/-- `struct.pack` of the record, with no checksum yet. -/
def packed (sessionHash : Nat) (digests : Digests) (contextLimit : Nat) : List UInt8 :=
  (toBytes 4 magic ++ toBytes 2 1 ++ toBytes 2 288 ++ toBytes 8 sessionHash) ++
    digests.list.flatMap Vector.toList ++
    (toBytes 4 contextLimit ++ toBytes 4 0 ++ toBytes 8 0)

def assigned (key : String) (value : List Char) : List Char := key.toList ++ '=' :: value

def identityLines (sessionHash : Nat) (digests : Digests) (contextLimit : Nat) :
    List (List Char) :=
  ["Q38_SESSION_IDENTITY_V1".toList, assigned "session_hash" (decimalText sessionHash)] ++
    (labels.zip digests.list).map (fun (label, digest) => assigned label (hexText digest)) ++
    [assigned "context_limit" (decimalText contextLimit), assigned "flags" ['0'],
      assigned "identity_checksum" (decimalText (fnv64 (packed sessionHash digests contextLimit)))]

/-- The output of `main`, from the arguments and the digests of their files. -/
def writeIdentity (sessionHash contextLimit : Int) (digests : Digests) :
    Except String (List Char) :=
  if ¬ (0 < sessionHash ∧ sessionHash < 1 <<< 64) then
    .error "session hash must be a nonzero uint64"
  else if ¬ (0 < contextLimit ∧ contextLimit < 1 <<< 32) then
    .error "context limit must be a nonzero uint32"
  else .ok (joined ['\n'] (identityLines sessionHash.toNat digests contextLimit.toNat) ++ ['\n'])

end Writing

section Checksum

theorem hash_bytes_injective (input : List UInt8) :
    Function.Injective fun value => hashBytes value input := by
  induction input with
  | nil => exact fun _ _ same => same
  | cons byte rest ih =>
      have step := BoundaryChecksum.mul_injective
        (show (1099511628211 : UInt64) * 0xce965057aff6957b = 1 by decide)
      intro first second same
      have mixed : first ^^^ byte.toUInt64 = second ^^^ byte.toUInt64 := step (ih same)
      exact (UInt64.xor_left_inj _).mp mixed

/-- Every step of FNV-1a keeps apart what differs, in the state and in the byte. -/
theorem single_byte_seen (input : List UInt8) {place : Nat} (inside : place < input.length)
    {byte : UInt8} (changed : byte ≠ input[place]) (value : UInt64) :
    hashBytes value (input.set place byte) ≠ hashBytes value input := by
  induction input generalizing place value with
  | nil => cases inside
  | cons first rest ih =>
      cases place with
      | zero =>
          have step := BoundaryChecksum.mul_injective
            (show (1099511628211 : UInt64) * 0xce965057aff6957b = 1 by decide)
          intro same
          have mixed := step (hash_bytes_injective rest same)
          have wide : byte.toUInt64 = first.toUInt64 := (UInt64.xor_right_inj _).mp mixed
          exact changed (UInt8.toNat_inj.mp (by simpa using congrArg UInt64.toNat wide))
      | succ place => exact ih (Nat.lt_of_succ_lt_succ inside) changed _

/-- The record before its checksum. -/
def head (identity : SessionIdentityV1) : List UInt8 :=
  Codec.u32.encode identity.magic ++ Codec.u16.encode identity.version ++
    Codec.u16.encode identity.headerBytes ++ Codec.u64.encode identity.sessionHash ++
    digestCodec.encode identity.modelCheckpoint ++ digestCodec.encode identity.tokenizer ++
    digestCodec.encode identity.chatTemplate ++ digestCodec.encode identity.runtime ++
    digestCodec.encode identity.kernels ++ digestCodec.encode identity.pleLayout ++
    digestCodec.encode identity.stagePlan ++ digestCodec.encode identity.samplingParser ++
    Codec.u32.encode identity.contextLimit ++ Codec.u32.encode identity.flags

theorem identity_encoded (identity : SessionIdentityV1) :
    identityCodec.encode identity =
      head identity ++ Codec.u64.encode identity.identityChecksum := by
  simp [identityCodec, Codec.pair, Codec.record, head]

theorem head_length (identity : SessionIdentityV1) : (head identity).length = 280 := by
  simp only [head, List.length_append, Codec.encode_length]
  rfl

theorem identity_whole : identityCodec.Whole := by
  have digest : digestCodec.Whole := Codec.bytes_whole 32
  refine Codec.record_whole ?_ fun _ => rfl
  refine Codec.pair_whole Codec.u32_whole (Codec.pair_whole Codec.u16_whole
    (Codec.pair_whole Codec.u16_whole (Codec.pair_whole Codec.u64_whole ?_)))
  refine Codec.pair_whole digest (Codec.pair_whole digest (Codec.pair_whole digest
    (Codec.pair_whole digest ?_)))
  refine Codec.pair_whole digest (Codec.pair_whole digest (Codec.pair_whole digest
    (Codec.pair_whole digest ?_)))
  exact Codec.pair_whole Codec.u32_whole (Codec.pair_whole Codec.u32_whole Codec.u64_whole)

theorem checksum_head (identity : SessionIdentityV1) :
    sessionIdentityChecksum identity =
      hashBytes fnvOffset (head identity ++ Codec.u64.encode 0) := by
  rw [sessionIdentityChecksum, identity_encoded]
  rfl

theorem accepted_checksum {identity : SessionIdentityV1}
    (accepted : validateSessionIdentity identity = none) :
    identity.identityChecksum = sessionIdentityChecksum identity := by
  by_contra differs
  unfold validateSessionIdentity at accepted
  rw [if_pos differs] at accepted
  repeat' split at accepted
  all_goals cases accepted

/-- The record with one byte replaced. -/
def tampered (identity : SessionIdentityV1) (place : Nat) (byte : UInt8) : SessionIdentityV1 :=
  identityCodec.decode ((identityCodec.encode identity).set place byte)

theorem tampered_encoded (identity : SessionIdentityV1) (place : Nat) (byte : UInt8) :
    identityCodec.encode (tampered identity place byte) =
      (identityCodec.encode identity).set place byte :=
  identity_whole _ (by rw [List.length_set, Codec.encode_length])

theorem tampered_refused {identity : SessionIdentityV1}
    (accepted : validateSessionIdentity identity = none) {place : Nat} (before : place < 280)
    {byte : UInt8} (changed : (identityCodec.encode identity)[place]? ≠ some byte) :
    validateSessionIdentity (tampered identity place byte) ≠ none := by
  intro passed
  have inside : place < (head identity).length := by
    rw [head_length]
    exact before
  have record := tampered_encoded identity place byte
  rw [identity_encoded, identity_encoded, List.set_append_left _ _ inside] at record
  obtain ⟨heads, tails⟩ := List.append_inj record
    (by rw [List.length_set, head_length, head_length])
  have kept : (tampered identity place byte).identityChecksum = identity.identityChecksum := by
    have read := congrArg (fun tail => Codec.u64.decode (tail ++ [])) tails
    simpa only [Codec.decode_encode] using read
  have first := accepted_checksum accepted
  have second := accepted_checksum passed
  rw [kept, first, checksum_head, checksum_head, heads,
    ← List.set_append_left _ _ inside] at second
  apply single_byte_seen (head identity ++ Codec.u64.encode 0) _ _ fnvOffset second.symm
  · rw [List.length_append]
    exact Nat.lt_add_right _ inside
  · rw [List.getElem_append_left inside]
    intro same
    rw [identity_encoded, List.getElem?_append_left inside,
      List.getElem?_eq_getElem inside] at changed
    exact changed (congrArg some same.symm)

end Checksum

section Numerals

theorem hex_digit_decimal {letter : Char} (digit : letter.isDigit = true) :
    hexDigit letter = some (letter.toNat - 48) ∧ letter.toNat - 48 < 10 := by
  simp only [Char.isDigit, Bool.and_eq_true, decide_eq_true_eq, ge_iff_le, UInt32.le_iff_toNat_le]
    at digit
  have low : 48 ≤ letter.toNat := digit.1
  have high : letter.toNat ≤ 57 := digit.2
  exact ⟨if_pos ⟨low, high⟩, by omega⟩

/-- A positive numeral has no zero in front, so that its base is told to be ten. -/
theorem decimal_first {value : Nat} (positive : 0 < value) :
    (decimalText value).head? ≠ some '0' := by
  induction value using Nat.strongRecOn with
  | ind value ih =>
      by_cases small : value < 10
      · rw [decimalText, Nat.toDigits_of_lt_base small]
        interval_cases value <;> decide
      · have base := Nat.le_of_not_lt small
        have earlier := ih (value / 10) (Nat.div_lt_self positive (by decide))
          (Nat.div_pos base (by decide))
        rw [decimalText, Nat.toDigits_of_base_le (by decide) base, List.head?_append_of_ne_nil]
        · exact earlier
        · exact Nat.toDigits_ne_nil

theorem decimal_prefix {value : Nat} (positive : 0 < value) :
    basePrefix (decimalText value) = (10, decimalText value) := by
  have first := decimal_first positive
  unfold basePrefix
  split
  · next text => simp [text] at first
  · next text => simp [text] at first
  · rfl

theorem decimal_magnitude (value : Nat) :
    (decimalText value).foldl (fun parsed digit => 10 * parsed + (hexDigit digit).getD 0) 0 =
      value := by
  have worth : (decimalText value).foldl
      (fun parsed digit => 10 * parsed + (digit.toNat - 48)) 0 = value :=
    Nat.ofDigitChars_ten_toDigits
  refine (List.foldl_ext _ _ 0 ?_).trans worth
  intro parsed digit member
  rw [(hex_digit_decimal (decimal_digit member)).1]
  rfl

theorem stoull_auto_decimal {value : Nat} (small : value < 2 ^ 64) :
    stoullAuto (decimalText value) = .ok (value, []) := by
  rcases Nat.eq_zero_or_pos value with rfl | positive
  · rfl
  · have unspaced : (decimalText value).dropWhile isSpace = decimalText value := by
      obtain ⟨first, rest, shape⟩ := List.exists_cons_of_ne_nil (decimal_some value)
      have member : first ∈ decimalText value := shape ▸ List.mem_cons_self
      rw [shape, List.dropWhile_cons, digit_not_space (decimal_digit member)]
      rfl
    have unsigned (sign : Char) (mark : sign.isDigit = false) :
        (decimalText value).head? ≠ some sign := fun first =>
      decimal_plain mark (List.mem_of_mem_head? first)
    have whole : (decimalText value).takeWhile
        (fun letter => decide ((hexDigit letter).getD 10 < 10)) = decimalText value := by
      apply List.takeWhile_eq_self_iff.mpr
      intro letter member
      obtain ⟨read, less⟩ := hex_digit_decimal (decimal_digit member)
      rw [read]
      simpa using less
    simp only [stoullAuto, unspaced, unsigned '-' (by decide), unsigned '+' (by decide), or_self,
      if_false, decimal_prefix positive, whole, decimal_magnitude, decimal_some,
      if_neg (Nat.not_le.mpr small), List.drop_length]

theorem parse_decimal (name : String) {value : Nat} (small : value < 2 ^ 64) :
    parseU64 name (decimalText value) = .ok (UInt64.ofNat value) := by
  unfold parseU64
  rw [stoull_auto_decimal small]
  rfl

theorem parse_word (name : String) (word : UInt64) :
    parseU64 name (decimalText word.toNat) = .ok word := by
  rw [parse_decimal name word.toNat_lt, UInt64.ofNat_toNat]

theorem hex_digit_char : ∀ value < 16, hexDigit (Nat.digitChar value) = some value := by decide

theorem hex_pair (value : Nat) : (value / 16) <<< 4 ||| value % 16 = value := by
  rw [← Nat.shiftLeft_add_eq_or_of_lt (Nat.mod_lt value (by decide : 0 < 2 ^ 4)),
    Nat.shiftLeft_eq]
  omega

theorem digest_bytes_hex (bytes : List UInt8) :
    digestBytes (bytes.flatMap fun byte =>
      [Nat.digitChar (byte.toNat / 16), Nat.digitChar (byte.toNat % 16)]) = some bytes := by
  induction bytes with
  | nil => rfl
  | cons byte rest ih =>
      have small := byte.toNat_lt
      have high := hex_digit_char (byte.toNat / 16) (by omega)
      have low := hex_digit_char (byte.toNat % 16) (by omega)
      rw [List.flatMap_cons, List.cons_append, List.cons_append, List.nil_append, digestBytes,
        high, low, ih]
      change some (UInt8.ofNat ((byte.toNat / 16) <<< 4 ||| byte.toNat % 16) :: rest) = _
      rw [hex_pair, UInt8.ofNat_toNat]

theorem hex_length (digest : Digest256V1) : (hexText digest).length = 64 := by
  simp [hexText, List.length_flatMap]

theorem parse_hex (digest : Digest256V1) : parseDigest256 (hexText digest) = .ok digest := by
  have read := digestCodec.decode_encode digest []
  rw [List.append_nil] at read
  rw [parseDigest256, if_neg (not_not_intro (hex_length digest)), hexText, digest_bytes_hex]
  exact congrArg Except.ok read

end Numerals

section Fields

/-- Fields with names of their own are read back in their order. -/
theorem read_fields {fields values : List (List Char × List Char)}
    (named : ∀ entry ∈ fields, entry.1 ≠ [] ∧ '=' ∉ entry.1)
    (apart : ((values ++ fields).map Prod.fst).Nodup) :
    (fields.map fun entry => entry.1 ++ '=' :: entry.2).foldlM readField values =
      .ok (values ++ fields) := by
  induction fields generalizing values with
  | nil =>
      rw [List.append_nil]
      rfl
  | cons entry rest ih =>
      obtain ⟨some_, plain⟩ := named entry List.mem_cons_self
      have before : ∀ letter ∈ entry.1, decide (letter ≠ '=') = true := by
        intro letter member
        rw [decide_eq_true_eq]
        rintro rfl
        exact plain member
      have key : (entry.1 ++ '=' :: entry.2).takeWhile (· ≠ '=') = entry.1 := by
        rw [List.takeWhile_append_of_pos before]
        simp
      have value : (entry.1 ++ '=' :: entry.2).dropWhile (· ≠ '=') = '=' :: entry.2 := by
        rw [List.dropWhile_append_of_pos before]
        simp
      have fresh : entry.1 ∉ values.map Prod.fst := by
        intro known
        rw [List.map_append, List.map_cons] at apart
        exact (List.nodup_append.mp apart).2.2 _ known _ List.mem_cons_self rfl
      have first : readField values (entry.1 ++ '=' :: entry.2) = .ok (values ++ [entry]) := by
        unfold readField
        rw [if_neg (by simp)]
        dsimp only
        rw [key, value]
        exact if_neg (not_or.mpr ⟨some_, fresh⟩)
      rw [List.map_cons, List.foldlM_cons, first]
      have later := @ih (values ++ [entry])
        (fun other member => named other (List.mem_cons_of_mem _ member))
        (by simpa using apart)
      rw [List.append_assoc] at later
      exact later

/-- The record with the values that were written. -/
def identityOf (sessionHash : Nat) (digests : Digests) (contextLimit : Nat) : SessionIdentityV1 :=
  stamped {
    sessionHash := UInt64.ofNat sessionHash
    modelCheckpoint := digests.modelMetadata
    tokenizer := digests.tokenizer
    chatTemplate := digests.chatTemplate
    runtime := digests.runtime
    kernels := digests.kernels
    pleLayout := digests.pleLayout
    stagePlan := digests.stagePlan
    samplingParser := digests.samplingParser
    contextLimit := UInt32.ofNat contextLimit }

theorem fnv64_eq (data : List UInt8) : fnv64 data = (hashBytes fnvOffset data).toNat := by
  have each (value : UInt64) : data.foldl (fun value byte =>
      ((value ^^^ byte.toNat) * 1099511628211) &&& ((1 <<< 64) - 1)) value.toNat =
        (hashBytes value data).toNat := by
    induction data generalizing value with
    | nil => rfl
    | cons byte rest ih =>
        have step : ((value.toNat ^^^ byte.toNat) * 1099511628211) &&& ((1 <<< 64) - 1) =
            ((value ^^^ byte.toUInt64) * 1099511628211).toNat := by
          rw [Nat.shiftLeft_eq, Nat.one_mul, Nat.and_two_pow_sub_one_eq_mod, UInt64.toNat_mul,
            UInt64.toNat_xor, UInt8.toNat_toUInt64]
          rfl
        rw [List.foldl_cons, step, ih]
        rfl
  exact each fnvOffset

/-- Python packs the bytes of the struct. -/
theorem packed_eq {sessionHash contextLimit : Nat} (digests : Digests)
    (session : sessionHash < 2 ^ 64) (context : contextLimit < 2 ^ 32) :
    packed sessionHash digests contextLimit =
      identityCodec.encode
        { identityOf sessionHash digests contextLimit with identityChecksum := 0 } := by
  have fixed : toBytes 4 magic = Codec.u32.encode kSessionIdentityMagic ∧
      toBytes 2 1 = Codec.u16.encode kContractVersion ∧ toBytes 2 288 = Codec.u16.encode 288 ∧
      toBytes 4 0 = Codec.u32.encode 0 ∧ toBytes 8 0 = Codec.u64.encode 0 := by decide
  obtain ⟨magic_, version, headerBytes, flags, checksum⟩ := fixed
  have listed : digests.list.flatMap Vector.toList =
      digestCodec.encode digests.modelMetadata ++ (digestCodec.encode digests.tokenizer ++
        (digestCodec.encode digests.chatTemplate ++ (digestCodec.encode digests.runtime ++
          (digestCodec.encode digests.kernels ++ (digestCodec.encode digests.pleLayout ++
            (digestCodec.encode digests.stagePlan ++
              (digestCodec.encode digests.samplingParser ++ []))))))) := rfl
  have sessionBytes : toBytes 8 sessionHash = Codec.u64.encode (UInt64.ofNat sessionHash) := by
    change _ = toBytes 8 (UInt64.ofNat sessionHash).toNat
    rw [UInt64.toNat_ofNat_of_lt' session]
  have contextBytes : toBytes 4 contextLimit = Codec.u32.encode (UInt32.ofNat contextLimit) := by
    change _ = toBytes 4 (UInt32.ofNat contextLimit).toNat
    rw [UInt32.toNat_ofNat_of_lt' context]
  rw [packed, identity_encoded, magic_, version, headerBytes, sessionBytes, contextBytes, flags,
    checksum, listed]
  have front : head { identityOf sessionHash digests contextLimit with identityChecksum := 0 } =
      Codec.u32.encode kSessionIdentityMagic ++ Codec.u16.encode kContractVersion ++
        Codec.u16.encode 288 ++ Codec.u64.encode (UInt64.ofNat sessionHash) ++
        digestCodec.encode digests.modelMetadata ++ digestCodec.encode digests.tokenizer ++
        digestCodec.encode digests.chatTemplate ++ digestCodec.encode digests.runtime ++
        digestCodec.encode digests.kernels ++ digestCodec.encode digests.pleLayout ++
        digestCodec.encode digests.stagePlan ++ digestCodec.encode digests.samplingParser ++
        Codec.u32.encode (UInt32.ofNat contextLimit) ++ Codec.u32.encode 0 := rfl
  rw [front]
  simp only [List.append_assoc, List.nil_append]

theorem checksum_written {sessionHash contextLimit : Nat} (digests : Digests)
    (session : sessionHash < 2 ^ 64) (context : contextLimit < 2 ^ 32) :
    fnv64 (packed sessionHash digests contextLimit) =
      (identityOf sessionHash digests contextLimit).identityChecksum.toNat := by
  rw [fnv64_eq, packed_eq digests session context]
  exact congrArg UInt64.toNat (stamped_checksum _)

end Fields

section RoundTrip
variable (sessionHash contextLimit : Nat) (digests : Digests)

def identityFields : List (List Char × List Char) :=
  [("session_hash".toList, decimalText sessionHash),
    ("model_checkpoint_sha256".toList, hexText digests.modelMetadata),
    ("tokenizer_sha256".toList, hexText digests.tokenizer),
    ("chat_template_sha256".toList, hexText digests.chatTemplate),
    ("runtime_sha256".toList, hexText digests.runtime),
    ("kernels_sha256".toList, hexText digests.kernels),
    ("ple_layout_sha256".toList, hexText digests.pleLayout),
    ("stage_plan_sha256".toList, hexText digests.stagePlan),
    ("sampling_parser_sha256".toList, hexText digests.samplingParser),
    ("context_limit".toList, decimalText contextLimit), ("flags".toList, decimalText 0),
    ("identity_checksum".toList,
      decimalText (fnv64 (packed sessionHash digests contextLimit)))]

theorem lines_fields : identityLines sessionHash digests contextLimit =
    "Q38_SESSION_IDENTITY_V1".toList ::
      (identityFields sessionHash contextLimit digests).map
        fun entry => entry.1 ++ '=' :: entry.2 := rfl

theorem fields_keys : (identityFields sessionHash contextLimit digests).map Prod.fst =
    required.map String.toList := rfl

theorem required_keys : (required.map String.toList).Nodup ∧
    ∀ key ∈ required.map String.toList, key ≠ [] ∧ '=' ∉ key ∧ '\n' ∉ key := by
  decide

theorem hex_plain (digest : Digest256V1) : '\n' ∉ hexText digest := by
  have digit : ∀ value < 16, Nat.digitChar value ≠ '\n' := by decide
  intro member
  obtain ⟨byte, -, among⟩ := List.mem_flatMap.mp member
  have small := byte.toNat_lt
  simp only [List.mem_cons, List.not_mem_nil, or_false] at among
  rcases among with high | low
  · exact digit _ (by omega) high.symm
  · exact digit _ (by omega) low.symm

theorem values_plain :
    ∀ entry ∈ identityFields sessionHash contextLimit digests, '\n' ∉ entry.2 := by
  have decimal (value : Nat) : '\n' ∉ decimalText value := decimal_plain (by decide)
  simp only [identityFields, List.forall_mem_cons, List.not_mem_nil, false_implies, implies_true,
    decimal, hex_plain, not_false_eq_true, and_self]

theorem lines_split :
    split '\n' (joined ['\n'] (identityLines sessionHash digests contextLimit) ++ ['\n']) [] =
      identityLines sessionHash digests contextLimit := by
  apply split_lines
  · intro line member
    rw [lines_fields] at member
    rcases List.mem_cons.mp member with rfl | member
    · decide
    · obtain ⟨entry, listed, rfl⟩ := List.mem_map.mp member
      have key : entry.1 ∈ required.map String.toList :=
        fields_keys sessionHash contextLimit digests ▸ List.mem_map_of_mem listed
      have value := values_plain sessionHash contextLimit digests entry listed
      simp only [List.mem_append, List.mem_cons, not_or]
      exact ⟨(required_keys.2 _ key).2.2, by decide, value⟩
  · exact List.cons_ne_nil _ _

theorem fields_read :
    ((identityFields sessionHash contextLimit digests).map
      fun entry => entry.1 ++ '=' :: entry.2).foldlM readField [] =
        .ok (identityFields sessionHash contextLimit digests) := by
  have read := @read_fields (identityFields sessionHash contextLimit digests) []
  rw [List.nil_append] at read
  apply read
  · intro entry listed
    have key : entry.1 ∈ required.map String.toList :=
      fields_keys sessionHash contextLimit digests ▸ List.mem_map_of_mem listed
    exact ⟨(required_keys.2 _ key).1, (required_keys.2 _ key).2.1⟩
  · rw [fields_keys]
    exact required_keys.1

theorem none_missing :
    (required.find? fun key => decide
      (key.toList ∉ (identityFields sessionHash contextLimit digests).map Prod.fst)) = none := by
  rw [fields_keys, List.find?_eq_none]
  intro key member
  simpa using ⟨key, member, rfl⟩

theorem fields_found :
    let values := identityFields sessionHash contextLimit digests
    field values "session_hash" = decimalText sessionHash ∧
      field values "model_checkpoint_sha256" = hexText digests.modelMetadata ∧
      field values "tokenizer_sha256" = hexText digests.tokenizer ∧
      field values "chat_template_sha256" = hexText digests.chatTemplate ∧
      field values "runtime_sha256" = hexText digests.runtime ∧
      field values "kernels_sha256" = hexText digests.kernels ∧
      field values "ple_layout_sha256" = hexText digests.pleLayout ∧
      field values "stage_plan_sha256" = hexText digests.stagePlan ∧
      field values "sampling_parser_sha256" = hexText digests.samplingParser ∧
      field values "context_limit" = decimalText contextLimit ∧
      field values "flags" = decimalText 0 ∧
      field values "identity_checksum" =
        decimalText (fnv64 (packed sessionHash digests contextLimit)) :=
  ⟨rfl, rfl, rfl, rfl, rfl, rfl, rfl, rfl, rfl, rfl, rfl, rfl⟩

theorem identity_valid {sessionHash contextLimit : Nat} {digests : Digests}
    (session : 0 < sessionHash ∧ sessionHash < 2 ^ 64)
    (context : 0 < contextLimit ∧ contextLimit < 2 ^ 32)
    (nonzero : ∀ digest ∈ digests.list, digest ≠ zeroDigest) :
    validateSessionIdentity (identityOf sessionHash digests contextLimit) = none := by
  have hash : UInt64.ofNat sessionHash ≠ 0 := by
    intro zero
    have same := congrArg UInt64.toNat zero
    rw [UInt64.toNat_ofNat_of_lt' session.2] at same
    exact session.1.ne' same
  have limit : UInt32.ofNat contextLimit ≠ 0 := by
    intro zero
    have same := congrArg UInt32.toNat zero
    rw [UInt32.toNat_ofNat_of_lt' context.2] at same
    exact context.1.ne' same
  have digested : hasZeroDigest (identityOf sessionHash digests contextLimit) = false := by
    rw [hasZeroDigest, List.any_eq_false]
    intro digest listed
    simpa using nonzero digest listed
  have matched : (identityOf sessionHash digests contextLimit).identityChecksum =
      sessionIdentityChecksum (identityOf sessionHash digests contextLimit) :=
    (stamped_checksum _).symm
  unfold validateSessionIdentity
  rw [if_neg (by simp [identityOf, stamped]), if_neg (by simp [identityOf, stamped, hash, limit]),
    if_neg (by simp [identityOf, stamped]),
    if_neg (not_not_intro matched), digested]
  exact if_neg (by simp)

theorem load_fields_written {sessionHash contextLimit : Nat} {digests : Digests}
    (session : 0 < sessionHash ∧ sessionHash < 2 ^ 64)
    (context : 0 < contextLimit ∧ contextLimit < 2 ^ 32)
    (nonzero : ∀ digest ∈ digests.list, digest ≠ zeroDigest) :
    loadFields (identityFields sessionHash contextLimit digests) =
      .ok (identityOf sessionHash digests contextLimit) := by
  have wide : contextLimit < 2 ^ 64 := context.2.trans (by decide)
  have narrow : ¬ ((4294967295 : UInt64) < UInt64.ofNat contextLimit ∨
      (4294967295 : UInt64) < UInt64.ofNat 0) := by
    rw [UInt64.lt_iff_toNat_lt, UInt64.lt_iff_toNat_lt, UInt64.toNat_ofNat_of_lt' wide]
    change ¬ (4294967295 < contextLimit ∨ 4294967295 < 0)
    omega
  have words : parseU64 "session_hash" (decimalText sessionHash) =
        .ok (UInt64.ofNat sessionHash) ∧
      parseU64 "context_limit" (decimalText contextLimit) = .ok (UInt64.ofNat contextLimit) ∧
      parseU64 "flags" (decimalText 0) = .ok (UInt64.ofNat 0) ∧
      parseU64 "identity_checksum" (decimalText (fnv64 (packed sessionHash digests contextLimit))) =
        .ok (identityOf sessionHash digests contextLimit).identityChecksum := by
    refine ⟨parse_decimal _ session.2, parse_decimal _ wide, parse_decimal _ (by decide), ?_⟩
    rw [checksum_written digests session.2 context.2]
    exact parse_word _ _
  obtain ⟨hash, limit, flags, checksum⟩ := words
  have found := fields_found sessionHash contextLimit digests
  have valid := identity_valid session context nonzero
  simp only [loadFields, found, hash, limit, flags, checksum, parse_hex, bind, Except.bind,
    if_neg narrow]
  have built : ({
      sessionHash := UInt64.ofNat sessionHash
      modelCheckpoint := digests.modelMetadata
      tokenizer := digests.tokenizer
      chatTemplate := digests.chatTemplate
      runtime := digests.runtime
      kernels := digests.kernels
      pleLayout := digests.pleLayout
      stagePlan := digests.stagePlan
      samplingParser := digests.samplingParser
      contextLimit := UInt32.ofNat contextLimit
      flags := 0
      identityChecksum := (identityOf sessionHash digests contextLimit).identityChecksum } :
      SessionIdentityV1) = identityOf sessionHash digests contextLimit := by
    dsimp only [identityOf, stamped]
  have none_ : (UInt64.ofNat 0).toUInt32 = 0 := rfl
  rw [UInt64.toUInt32_ofNat', none_, built, valid]

/-- What the Python writer emits is loaded as the values it was given, and both languages
have one checksum. In an accepted record a single byte outside the checksum, which are
the last eight bytes, cannot be changed unseen. -/
theorem session_identity_sealed :
    (∀ (path : String) (sessionHash contextLimit : Int) (digests : Digests) (text : List Char),
      (∀ digest ∈ digests.list, digest ≠ zeroDigest) →
      writeIdentity sessionHash contextLimit digests = .ok text →
      ∃ identity, loadSessionIdentity path (some text) = .ok identity ∧
        (identity.sessionHash.toNat : Int) = sessionHash ∧
        (identity.contextLimit.toNat : Int) = contextLimit ∧ identity.flags = 0 ∧
        [identity.modelCheckpoint, identity.tokenizer, identity.chatTemplate, identity.runtime,
          identity.kernels, identity.pleLayout, identity.stagePlan, identity.samplingParser] =
          digests.list ∧
        fnv64 (packed sessionHash.toNat digests contextLimit.toNat) =
          (sessionIdentityChecksum identity).toNat) ∧
    ∀ identity, validateSessionIdentity identity = none → ∀ place < 280, ∀ byte,
      (identityCodec.encode identity)[place]? ≠ some byte →
      validateSessionIdentity (tampered identity place byte) ≠ none := by
  constructor
  · intro path sessionHash contextLimit digests text nonzero written
    unfold writeIdentity at written
    split at written
    case isTrue => cases written
    case isFalse session =>
      split at written
      case isTrue => cases written
      case isFalse context =>
        cases written
        rw [not_not] at session context
        have hash : 0 < sessionHash.toNat ∧ sessionHash.toNat < 2 ^ 64 := by
          have small : sessionHash < 2 ^ 64 := session.2
          omega
        have limit : 0 < contextLimit.toNat ∧ contextLimit.toNat < 2 ^ 32 := by
          have small : contextLimit < 2 ^ 32 := context.2
          omega
        refine ⟨identityOf sessionHash.toNat digests contextLimit.toNat, ?_, ?_, ?_, rfl, rfl, ?_⟩
        · unfold loadSessionIdentity
          dsimp only
          rw [lines_split, lines_fields]
          dsimp only
          rw [if_neg (not_not_intro rfl), fields_read]
          dsimp only [bind, Except.bind]
          rw [none_missing]
          dsimp only
          rw [if_neg (by simp [identityFields, required])]
          exact load_fields_written hash limit nonzero
        · change ((UInt64.ofNat sessionHash.toNat).toNat : Int) = sessionHash
          rw [UInt64.toNat_ofNat_of_lt' hash.2]
          omega
        · change ((UInt32.ofNat contextLimit.toNat).toNat : Int) = contextLimit
          rw [UInt32.toNat_ofNat_of_lt' limit.2]
          omega
        · rw [checksum_written digests hash.2 limit.2]
          exact congrArg UInt64.toNat (stamped_checksum _).symm
  · intro identity accepted place before byte changed
    exact tampered_refused accepted before changed

/-- The record of a session with bytes of ones for its digests, written and loaded. -/
theorem session_identity_sealed_ones :
    let digests : Digests := ⟨.replicate 32 1, .replicate 32 1, .replicate 32 1, .replicate 32 1,
      .replicate 32 1, .replicate 32 1, .replicate 32 1, .replicate 32 1⟩
    ∃ identity, (writeIdentity 7 262144 digests).toOption.map
        (fun text => (loadSessionIdentity "session.q38i" (some text)).toOption) =
      some (some identity) ∧ (identity.sessionHash.toNat : Int) = 7 ∧
      validateSessionIdentity (tampered (makeDevelopmentIdentity 7 262144 {}) 0 0) ≠ none := by
  intro digests
  obtain ⟨identity, loaded, hash, -⟩ := session_identity_sealed.1 "session.q38i" 7 262144 digests
    _ (by decide) rfl
  refine ⟨identity, ?_, hash, ?_⟩
  · change some (loadSessionIdentity _ _).toOption = _
    rw [loaded]
    rfl
  · have accepted := development_identity_valid 7 262144 {} (by decide) (by decide)
    apply session_identity_sealed.2 _ accepted 0 (by decide) 0
    rw [identity_encoded]
    decide

end RoundTrip

end Q38.IdentityFiles
