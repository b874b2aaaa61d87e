import Mathlib

/-! Fixed-size little-endian layouts. A `Codec` carries the two facts a reader
of packed records needs: what it writes has one length, and reading it back,
with anything behind it, gives the value that was written. -/
namespace FixedCodec

/-- The low `width` bytes of a number, least significant first. -/
def toBytes : Nat → Nat → List UInt8
  | 0, _ => []
  | width + 1, value => UInt8.ofNat value :: toBytes width (value / 256)

def ofBytes : List UInt8 → Nat
  | [] => 0
  | byte :: rest => byte.toNat + 256 * ofBytes rest

@[simp] theorem to_bytes_length (width value : Nat) : (toBytes width value).length = width := by
  induction width generalizing value with
  | zero => rfl
  | succ width ih => simp [toBytes, ih]

theorem of_bytes_to_bytes (width value : Nat) :
    ofBytes (toBytes width value) = value % 256 ^ width := by
  induction width generalizing value with
  | zero => simp [toBytes, ofBytes, Nat.mod_one]
  | succ width ih =>
      have low : (UInt8.ofNat value).toNat = value % 256 := by simp
      rw [toBytes, ofBytes, ih, low, Nat.pow_succ', Nat.mod_mul]

theorem of_bytes_lt (input : List UInt8) : ofBytes input < 256 ^ input.length := by
  induction input with
  | nil => simp [ofBytes]
  | cons byte rest ih =>
      have small := byte.toNat_lt
      rw [ofBytes, List.length_cons, Nat.pow_succ]
      omega

theorem to_bytes_of_bytes (input : List UInt8) : toBytes input.length (ofBytes input) = input := by
  induction input with
  | nil => rfl
  | cons byte rest ih =>
      have small := byte.toNat_lt
      have low : UInt8.ofNat (byte.toNat + 256 * ofBytes rest) = byte := by
        apply UInt8.toNat_inj.mp
        simp
      have high : (byte.toNat + 256 * ofBytes rest) / 256 = ofBytes rest := by omega
      rw [List.length_cons, ofBytes, toBytes, low, high, ih]

structure Codec (α : Type) where
  size : Nat
  encode : α → List UInt8
  decode : List UInt8 → α
  encode_length : ∀ value, (encode value).length = size
  decode_encode : ∀ value rest, decode (encode value ++ rest) = value

attribute [simp] Codec.encode_length Codec.decode_encode

namespace Codec
variable {α β : Type}

/-- Two layouts back to back. -/
def pair (first : Codec α) (second : Codec β) : Codec (α × β) where
  size := first.size + second.size
  encode value := first.encode value.1 ++ second.encode value.2
  decode bytes := (first.decode bytes, second.decode (bytes.drop first.size))
  encode_length value := by simp
  decode_encode value rest := by
    have skipped : ((first.encode value.1 ++ second.encode value.2) ++ rest).drop first.size =
        second.encode value.2 ++ rest := by
      rw [List.append_assoc, ← first.encode_length value.1, List.drop_left]
    rw [skipped, second.decode_encode, List.append_assoc, first.decode_encode]

/-- The layout of a record whose fields are those of `α`. -/
def record (codec : Codec α) (fields : β → α) (build : α → β)
    (built : ∀ value, build (fields value) = value) : Codec β where
  size := codec.size
  encode value := codec.encode (fields value)
  decode bytes := build (codec.decode bytes)
  encode_length value := codec.encode_length _
  decode_encode value rest := by rw [codec.decode_encode, built]

/-- A word of `width` bytes read and written through naturals. -/
def word (width : Nat) (toNat : α → Nat) (ofNat : Nat → α)
    (fits : ∀ value, toNat value < 256 ^ width)
    (exact : ∀ value, ofNat (toNat value) = value) : Codec α where
  size := width
  encode value := toBytes width (toNat value)
  decode bytes := ofNat (ofBytes (bytes.take width))
  encode_length value := to_bytes_length _ _
  decode_encode value rest := by
    rw [List.take_left' (to_bytes_length _ _), of_bytes_to_bytes, Nat.mod_eq_of_lt (fits value),
      exact]

def u16 : Codec UInt16 :=
  word 2 UInt16.toNat UInt16.ofNat (fun value => value.toNat_lt) (fun _ => UInt16.ofNat_toNat)

def u32 : Codec UInt32 :=
  word 4 UInt32.toNat UInt32.ofNat (fun value => value.toNat_lt) (fun _ => UInt32.ofNat_toNat)

def u64 : Codec UInt64 :=
  word 8 UInt64.toNat UInt64.ofNat (fun value => value.toNat_lt) (fun _ => UInt64.ofNat_toNat)

/-- Two's complement, so the bytes are those of the unsigned word. -/
def i32 : Codec Int32 :=
  u32.record Int32.toUInt32 Int32.ofUInt32 (fun _ => rfl)

/-- A byte array of known length, stored as it is. -/
def bytes (count : Nat) : Codec (Vector UInt8 count) where
  size := count
  encode value := value.toList
  decode input := Vector.ofFn fun index => input.getD index 0
  encode_length value := by simp
  decode_encode value rest := by
    ext index bound
    have inside : index < value.toList.length := by simpa using bound
    simp [List.getElem?_append_left inside, bound]

/-- Values of one layout in a row. -/
def encodeAll (codec : Codec α) (values : List α) : List UInt8 :=
  values.flatMap codec.encode

def decodeMany (codec : Codec α) : Nat → List UInt8 → List α
  | 0, _ => []
  | count + 1, input => codec.decode input :: decodeMany codec count (input.drop codec.size)

@[simp] theorem encode_all_length (codec : Codec α) (values : List α) :
    (codec.encodeAll values).length = values.length * codec.size := by
  induction values with
  | nil => simp [encodeAll]
  | cons value rest ih =>
      have step : codec.encodeAll (value :: rest) = codec.encode value ++ codec.encodeAll rest := rfl
      rw [step, List.length_append, ih, codec.encode_length, List.length_cons]
      ring

@[simp] theorem decode_many_length (codec : Codec α) (count : Nat) (input : List UInt8) :
    (codec.decodeMany count input).length = count := by
  induction count generalizing input with
  | zero => rfl
  | succ count ih => rw [decodeMany, List.length_cons, ih]

theorem decode_many_at (codec : Codec α) {count index : Nat} (inside : index < count)
    (input : List UInt8) : (codec.decodeMany count input)[index]? =
      some (codec.decode (input.drop (codec.size * index))) := by
  induction count generalizing index input with
  | zero => cases inside
  | succ count ih =>
      cases index with
      | zero => rfl
      | succ index =>
          rw [decodeMany, List.getElem?_cons_succ, ih (by omega), List.drop_drop, Nat.mul_succ,
            Nat.add_comm codec.size]

theorem decode_encode_all (codec : Codec α) (values : List α) (rest : List UInt8) :
    codec.decodeMany values.length (codec.encodeAll values ++ rest) = values := by
  induction values with
  | nil => rfl
  | cons value tail ih =>
      have step : codec.encodeAll (value :: tail) ++ rest =
          codec.encode value ++ (codec.encodeAll tail ++ rest) := by
        simp [encodeAll]
      rw [step, List.length_cons, decodeMany, codec.decode_encode]
      rw [← codec.encode_length value, List.drop_left, ih]

/-- Every byte string of the size is what some value is written as. -/
def Whole (codec : Codec α) : Prop :=
  ∀ input, input.length = codec.size → codec.encode (codec.decode input) = input

theorem pair_whole {first : Codec α} {second : Codec β} (head : first.Whole) (tail : second.Whole) :
    (first.pair second).Whole := by
  intro input sized
  change input.length = first.size + second.size at sized
  have front : (input.take first.size).length = first.size := by
    rw [List.length_take, Nat.min_eq_left (by omega)]
  have back : (input.drop first.size).length = second.size := by
    rw [List.length_drop]
    omega
  have read : first.decode input = first.decode (input.take first.size) := by
    have again := first.decode_encode (first.decode (input.take first.size))
      (input.drop first.size)
    rw [head _ front, List.take_append_drop] at again
    exact again
  change first.encode (first.decode input) ++ second.encode (second.decode _) = input
  rw [read, head _ front, tail _ back, List.take_append_drop]

theorem record_whole {codec : Codec α} {fields : β → α} {build : α → β}
    {built : ∀ value, build (fields value) = value} (whole : codec.Whole)
    (kept : ∀ value, fields (build value) = value) :
    (codec.record fields build built).Whole := by
  intro input sized
  change codec.encode (fields (build (codec.decode input))) = input
  rw [kept, whole input sized]

theorem word_whole {width : Nat} {toNat : α → Nat} {ofNat : Nat → α}
    {fits : ∀ value, toNat value < 256 ^ width} {exact_ : ∀ value, ofNat (toNat value) = value}
    (kept : ∀ value < 256 ^ width, toNat (ofNat value) = value) :
    (word width toNat ofNat fits exact_).Whole := by
  intro input sized
  change input.length = width at sized
  change toBytes width (toNat (ofNat (ofBytes (input.take width)))) = input
  rw [List.take_of_length_le sized.le, kept _ (sized ▸ of_bytes_lt input), ← sized,
    to_bytes_of_bytes]

theorem u16_whole : u16.Whole := word_whole fun _ small => UInt16.toNat_ofNat_of_lt' small

theorem u32_whole : u32.Whole := word_whole fun _ small => UInt32.toNat_ofNat_of_lt' small

theorem u64_whole : u64.Whole := word_whole fun _ small => UInt64.toNat_ofNat_of_lt' small

theorem bytes_whole (count : Nat) : (bytes count).Whole := by
  intro input sized
  change input.length = count at sized
  subst sized
  change (Vector.ofFn fun index => input.getD index 0).toList = input
  apply List.ext_getElem
  · simp
  · intro index bound inside
    simp

end Codec
end FixedCodec
