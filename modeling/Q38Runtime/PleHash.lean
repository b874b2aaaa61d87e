import Q38Runtime.Contracts

/-!
The rolling hash that names the embedding rows of each token: two previous tokens
are kept, and every token yields one row for each head.
-/
namespace Q38.PleHash
open Contracts

abbrev Row := BitVec 64

def kPleHeads : Nat := 16
def kPleHeadsPerNgram : Nat := 8

structure PleHashConfig where
  unigramVocabSize : Nat
  eosTokenId : Nat
  multipliers : Fin 3 → BitVec 64
  headVocabSizes : Fin 16 → BitVec 64
  headOffsets : Fin 16 → BitVec 64

/-- The older and the newer of the two previous tokens. -/
structure PleHashState where
  older : Int
  newer : Int
  deriving DecidableEq

def reset (config : PleHashConfig) : PleHashState where
  older := config.eosTokenId
  newer := config.eosTokenId

def tokenRows (config : PleHashConfig) (state : PleHashState) (token : Token) : List Row :=
  let current := BitVec.ofInt 64 token.toInt
  let previous1 := BitVec.ofInt 64 state.newer
  let previous2 := BitVec.ofInt 64
    (if state.newer = config.eosTokenId then (config.eosTokenId : Int) else state.older)
  let bigram := current * config.multipliers 0 ^^^ previous1 * config.multipliers 1
  let trigram := bigram ^^^ previous2 * config.multipliers 2
  List.ofFn fun head : Fin 16 =>
    (if head.val < kPleHeadsPerNgram then bigram else trigram) % config.headVocabSizes head +
      config.headOffsets head

def shift (state : PleHashState) (token : Token) : PleHashState where
  older := state.newer
  newer := token.toInt

def advance (state : PleHashState) (tokens : List Token) : PleHashState := tokens.foldl shift state

def rowsFrom (config : PleHashConfig) : PleHashState → List Token → List Row
  | _, [] => []
  | state, token :: tokens =>
      tokenRows config state token ++ rowsFrom config (shift state token) tokens

def known (config : PleHashConfig) (token : Token) : Bool :=
  0 ≤ token.toInt && token.toInt < config.unigramVocabSize

/-- `none` where a token is outside the vocabulary; the state is then unchanged. -/
def rows (config : PleHashConfig) (state : PleHashState) (tokens : List Token) :
    Option (List Row × PleHashState) :=
  if tokens.all (known config) then some (rowsFrom config state tokens, advance state tokens)
  else none

@[simp] theorem token_rows_length (config : PleHashConfig) (state : PleHashState) (token : Token) :
    (tokenRows config state token).length = kPleHeads := by
  simp [tokenRows, kPleHeads]

@[simp] theorem rows_from_length (config : PleHashConfig) (state : PleHashState)
    (tokens : List Token) : (rowsFrom config state tokens).length = tokens.length * kPleHeads := by
  induction tokens generalizing state with
  | nil => simp [rowsFrom]
  | cons token tokens ih =>
      rw [rowsFrom, List.length_append, token_rows_length, ih, List.length_cons, Nat.succ_mul,
        Nat.add_comm]

theorem advance_append (state : PleHashState) (first second : List Token) :
    advance state (first ++ second) = advance (advance state first) second :=
  List.foldl_append

/-- Hashing a text in two pieces yields the rows of the whole text. -/
theorem rows_from_append (config : PleHashConfig) (state : PleHashState)
    (first second : List Token) :
    rowsFrom config state (first ++ second) =
      rowsFrom config state first ++ rowsFrom config (advance state first) second := by
  induction first generalizing state with
  | nil => rfl
  | cons token tokens ih =>
      rw [List.cons_append, rowsFrom, ih, rowsFrom, List.append_assoc]
      rfl

/-- The rows of a piece are where the rows of the whole text have them. -/
theorem rows_from_slice (config : PleHashConfig) (state : PleHashState)
    (before piece after : List Token) :
    ((rowsFrom config state (before ++ (piece ++ after))).drop (before.length * kPleHeads)).take
        (piece.length * kPleHeads) =
      rowsFrom config (advance state before) piece := by
  rw [rows_from_append, rows_from_append,
    List.drop_left' (rows_from_length config state before),
    List.take_left' (rows_from_length config (advance state before) piece)]

end Q38.PleHash
