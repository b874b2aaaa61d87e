import Q38Runtime.ControlPlane
import Mathlib.Data.List.Infix

/-! `_chat_stream` of `q38_sidecar.py` for a request without tools: after each event the
tokens of all events so far are decoded again and what the decoding adds is sent.
The tokenizer is a parameter; a text is its list of code points. -/
namespace Q38.ChatStream
open ControlPlane

abbrev Text := List Char

/-- The members a stream reads, and its request's values. -/
structure ChatRequest where
  decode : List Int → Text
  model : String
  requestId : String
  sessionId : String
  tokenizeNs : Nat

structure ChatChunk (Timing : Type) where
  id : String
  model : String
  content : Text
  finishReason : Option String
  sessionId : String
  revision : Nat
  committedTokens : Nat
  remainingTokens : Int
  tokenizeNs : Nat
  timing : Timing
  deriving DecidableEq, Repr

variable {Timing : Type}

def fragment (previous decoded : Text) : Text :=
  if previous.isPrefixOf decoded then decoded.drop previous.length else decoded

def chatStreamFrom (request : ChatRequest) (accumulated : List Int) (previous : Text) :
    List (CommittedTokenEvent × Timing) → List (ChatChunk Timing)
  | [] => []
  | (event, timing) :: pairs =>
      let accumulated := accumulated ++ event.tokenIds
      let decoded := request.decode accumulated
      { id := request.requestId, model := request.model,
        content := fragment previous decoded, finishReason := event.finishReason,
        sessionId := request.sessionId, revision := event.revision,
        committedTokens := event.committedTokens, remainingTokens := event.remainingTokens,
        tokenizeNs := request.tokenizeNs, timing := timing } ::
      chatStreamFrom request accumulated decoded pairs

def chatStream (request : ChatRequest) (pairs : List (CommittedTokenEvent × Timing)) :
    List (ChatChunk Timing) :=
  chatStreamFrom request [] [] pairs

/-- `output_tokens` of `_chat_completion`. -/
def outputTokens (pairs : List (CommittedTokenEvent × Timing)) : List Int :=
  pairs.flatMap fun pair => pair.1.tokenIds

/-- What a client that joins the fragments shows. -/
def streamedText (chunks : List (ChatChunk Timing)) : Text :=
  chunks.flatMap ChatChunk.content

/-- The decoding the loop holds in `previous` after `pairs`. -/
def previousText (request : ChatRequest) (pairs : List (CommittedTokenEvent × Timing)) : Text :=
  if pairs.isEmpty then [] else request.decode (outputTokens pairs)

/-- Each event's decoding continues the one before it. -/
def Continues (request : ChatRequest) (pairs : List (CommittedTokenEvent × Timing)) : Prop :=
  ∀ done pair rest, pairs = done ++ pair :: rest →
    previousText request done <+: previousText request (done ++ [pair])

theorem fragment_continuing {previous decoded : Text} (continuing : previous <+: decoded) :
    previous ++ fragment previous decoded = decoded := by
  obtain ⟨added, rfl⟩ := continuing
  simp [fragment]

theorem fragment_restarting {previous decoded : Text} (restarting : ¬ previous <+: decoded) :
    fragment previous decoded = decoded := by
  simp [fragment, restarting]

theorem suffix_fragment (previous decoded : Text) :
    decoded <:+ previous ++ fragment previous decoded := by
  by_cases continuing : previous <+: decoded
  · rw [fragment_continuing continuing]
  · rw [fragment_restarting continuing]
    exact List.suffix_append previous decoded

/-- The fragments alone, without the other data of the chunks. -/
def fragmentsFrom (request : ChatRequest) (done : List (CommittedTokenEvent × Timing)) :
    List (CommittedTokenEvent × Timing) → Text
  | [] => []
  | pair :: rest =>
      fragment (previousText request done) (previousText request (done ++ [pair])) ++
        fragmentsFrom request (done ++ [pair]) rest

theorem previous_text_append (request : ChatRequest)
    (done : List (CommittedTokenEvent × Timing)) (pair : CommittedTokenEvent × Timing) :
    previousText request (done ++ [pair]) =
      request.decode (outputTokens done ++ pair.1.tokenIds) := by
  simp [previousText, outputTokens]

theorem streamed_from (request : ChatRequest)
    (done pairs : List (CommittedTokenEvent × Timing)) :
    streamedText (chatStreamFrom request (outputTokens done) (previousText request done) pairs) =
      fragmentsFrom request done pairs := by
  induction pairs generalizing done with
  | nil => rfl
  | cons pair rest ih =>
      have held : outputTokens done ++ pair.1.tokenIds = outputTokens (done ++ [pair]) := by
        simp [outputTokens]
      have following := ih (done ++ [pair])
      rw [previous_text_append, ← held] at following
      simp only [fragmentsFrom, previous_text_append, ← following]
      rfl

/-- Whatever was sent before, the text ends with the last decoding. -/
theorem last_decoding_shown (request : ChatRequest)
    (done pairs : List (CommittedTokenEvent × Timing)) :
    previousText request (done ++ pairs) <:+
      previousText request done ++ fragmentsFrom request done pairs := by
  induction pairs generalizing done with
  | nil => simp [fragmentsFrom]
  | cons pair rest ih =>
      have later := ih (done ++ [pair])
      rw [List.append_assoc, List.singleton_append] at later
      rw [fragmentsFrom, ← List.append_assoc]
      obtain ⟨earlier, shown⟩ :=
        suffix_fragment (previousText request done) (previousText request (done ++ [pair]))
      rw [← shown, List.append_assoc]
      exact later.trans (List.suffix_append earlier _)

theorem continues_from_iff (request : ChatRequest)
    (done pairs : List (CommittedTokenEvent × Timing)) :
    previousText request done ++ fragmentsFrom request done pairs =
        previousText request (done ++ pairs) ↔
      ∀ more pair rest, pairs = more ++ pair :: rest →
        previousText request (done ++ more) <+:
          previousText request (done ++ more ++ [pair]) := by
  induction pairs generalizing done with
  | nil => simp [fragmentsFrom]
  | cons pair rest ih =>
      have following := ih (done ++ [pair])
      rw [List.append_assoc, List.singleton_append] at following
      by_cases continuing :
          previousText request done <+: previousText request (done ++ [pair])
      · rw [fragmentsFrom, ← List.append_assoc, fragment_continuing continuing, following]
        constructor
        · intro continued more next after split
          cases more with
          | nil =>
              obtain ⟨rfl, rfl⟩ := List.cons.inj split
              simpa using continuing
          | cons head more =>
              obtain ⟨rfl, rfl⟩ := List.cons.inj split
              simpa using continued more next after rfl
        · intro continued more next after split
          have here := continued (pair :: more) next after (by rw [split, List.cons_append])
          simpa using here
      · constructor
        · intro equal
          -- The restarted text is too long unless nothing was shown, and nothing is a prefix.
          rw [fragmentsFrom, fragment_restarting continuing] at equal
          have long := (last_decoding_shown request (done ++ [pair]) rest).length_le
          rw [List.append_assoc, List.singleton_append, ← equal, List.length_append] at long
          have nothing : previousText request done = [] :=
            List.eq_nil_of_length_eq_zero (by omega)
          exact absurd (nothing ▸ List.nil_prefix) continuing
        · intro continued
          exact absurd (by simpa using continued [] pair rest rfl) continuing

/-- A client sees the decoded text exactly when no decoding takes back what an earlier
one showed and, with no events at all, nothing decodes to nothing. -/
theorem streamed_text_iff (request : ChatRequest)
    (pairs : List (CommittedTokenEvent × Timing)) :
    streamedText (chatStream request pairs) = request.decode (outputTokens pairs) ↔
      Continues request pairs ∧ (pairs = [] → request.decode [] = []) := by
  have sent : streamedText (chatStream request pairs) = fragmentsFrom request [] pairs :=
    streamed_from request [] pairs
  cases pairs with
  | nil =>
      have nothing : Continues request ([] : List (CommittedTokenEvent × Timing)) := by
        simp [Continues]
      simp [sent, fragmentsFrom, outputTokens, nothing]
  | cons pair rest =>
      have whole : request.decode (outputTokens (pair :: rest)) =
          previousText request (pair :: rest) := by simp [previousText]
      have split := continues_from_iff request [] (pair :: rest)
      simp only [List.nil_append] at split
      rw [sent, whole, Continues, ← split]
      simp [previousText]

/-- UTF-8 with replacement for tokens that are bytes, as far as two-byte characters. -/
def decodeBytes : List Int → Text
  | [] => []
  | [byte] => if byte < 128 then [Char.ofNat byte.toNat] else ['\uFFFD']
  | lead :: next :: rest =>
      if lead < 128 then Char.ofNat lead.toNat :: decodeBytes (next :: rest)
      else if 194 ≤ lead ∧ lead ≤ 223 ∧ 128 ≤ next ∧ next ≤ 191 then
        Char.ofNat ((lead - 192) * 64 + (next - 128)).toNat :: decodeBytes rest
      else '\uFFFD' :: decodeBytes (next :: rest)

def byteRequest : ChatRequest :=
  { decode := decodeBytes, model := "Qwen3.8-Flash-Next", requestId := "chatcmpl-q38-1",
    sessionId := "resident", tokenizeNs := 0 }

/-- One character, its two bytes published by two events. -/
def splitCharacter : List (CommittedTokenEvent × Unit) :=
  [({ tokenIds := [195], revision := 1, committedTokens := 5, remainingTokens := 1,
      finishReason := none }, ()),
   ({ tokenIds := [169], revision := 2, committedTokens := 6, remainingTokens := 0,
      finishReason := some "length" }, ())]

theorem split_character_shown_twice :
    streamedText (chatStream byteRequest splitCharacter) = ['\uFFFD', 'é'] ∧
      byteRequest.decode (outputTokens splitCharacter) = ['é'] := by
  decide

end Q38.ChatStream
