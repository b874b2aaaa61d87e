import Q38Runtime.PleReadAhead

/-! The hash as its callers run it. A batch is checked before anything is
written; a chunk is hashed token by token, with the state behind each token
kept as a candidate. Both come to the rows of the whole text, wherever it was
cut. -/
namespace Q38.PleHash
open Contracts Imperative PleReadAhead

def outsideVocabulary : Thrown := .runtimeError "PLE hash token is outside vocabulary"

section Calls
variable (config : PleHashConfig)

/-- The first loop of `rows`. -/
def checkTokens : List Token → Proc Thrown PleHashState Unit
  | [] => pure ()
  | token :: rest => do
      Proc.ensure (known config token = true) outsideVocabulary
      checkTokens rest

/-- The second loop, with the rows so far and the two tokens behind them. -/
def hashTokens : List Row × PleHashState → List Token → List Row × PleHashState
  | hashed, [] => hashed
  | (result, state), token :: rest =>
      hashTokens (result ++ tokenRows config state token, shift state token) rest

/-- `PleHashState::rows`. -/
def PleHashState.rows (tokens : List Token) : Proc Thrown PleHashState (List Row) := do
  checkTokens config tokens
  let state ← Proc.read id
  let hashed := hashTokens config ([], state) tokens
  Proc.write fun _ => hashed.2
  pure hashed.1

/-- The local of the loops below, and what they append to. -/
structure Hashing where
  candidate : PleHashState
  candidatePleHashes : List PleHashState
  deriving DecidableEq

/-- The loop over the tokens of a chunk in `start_ple_read` and in
`PleStage0Backend::execute`; the latter also reads the rows of each token. -/
def hashEach : List Token → Proc Thrown Hashing (List Row)
  | [] => pure []
  | token :: rest => do
      let row ← Proc.within Hashing.candidate
        (fun candidate hashing => { hashing with candidate := candidate })
        (PleHashState.rows config [token])
      Proc.write fun hashing =>
        { hashing with candidatePleHashes := hashing.candidatePleHashes ++ [hashing.candidate] }
      let others ← hashEach rest
      pure (row ++ others)

/-- A chunk starts from the last candidate, or from the committed hash. -/
def hashChunk (committed : PleHashState) (tokens : List Token) :
    Proc Thrown (List PleHashState) (List Row) :=
  Proc.within (fun candidates => ⟨candidates.getLastD committed, candidates⟩)
    (fun hashing _ => hashing.candidatePleHashes) (hashEach config tokens)

/-- The chunks of a transaction, one after the other. -/
def hashChunks (committed : PleHashState) :
    List (List Token) → Proc Thrown (List PleHashState) (List Row)
  | [] => pure []
  | chunk :: rest => do
      let first ← hashChunk config committed chunk
      let others ← hashChunks committed rest
      pure (first ++ others)

/-- The batches of a history, one after the other. -/
def hashBatches : List (List Token) → Proc Thrown PleHashState (List Row)
  | [] => pure []
  | batch :: rest => do
      let first ← PleHashState.rows config batch
      let others ← hashBatches rest
      pure (first ++ others)

end Calls

section Batches
variable {config : PleHashConfig} {state : PleHashState} {tokens : List Token}

theorem check_tokens_known (all : tokens.all (known config) = true) :
    checkTokens config tokens state = (.ok (), state) := by
  induction tokens with
  | nil => rfl
  | cons token rest ih =>
      obtain ⟨here, later⟩ := Bool.and_eq_true_iff.mp (List.all_cons ▸ all)
      simp only [checkTokens, Proc.ensure, if_pos here]
      exact ih later

theorem check_tokens_unknown (some : ¬ tokens.all (known config) = true) :
    checkTokens config tokens state = (.error outsideVocabulary, state) := by
  induction tokens with
  | nil => exact absurd rfl some
  | cons token rest ih =>
      by_cases here : known config token = true
      · simp only [checkTokens, Proc.ensure, if_pos here]
        apply ih
        simpa [here] using some
      · simp only [checkTokens, Proc.ensure, if_neg here]
        rfl

theorem hash_tokens_eq (result : List Row) :
    hashTokens config (result, state) tokens =
      (result ++ rowsFrom config state tokens, advance state tokens) := by
  induction tokens generalizing result state with
  | nil => simp [hashTokens, rowsFrom, advance]
  | cons token rest ih =>
      rw [hashTokens, ih, rowsFrom, List.append_assoc]
      rfl

theorem rows_known (all : tokens.all (known config) = true) :
    PleHashState.rows config tokens state =
      (.ok (rowsFrom config state tokens), advance state tokens) := by
  have checked := @check_tokens_known _ state _ all
  change Proc.bind (checkTokens config tokens) _ state = _
  simp only [Proc.bind, checked, hash_tokens_eq, List.nil_append]
  rfl

/-- A token outside the vocabulary fails the batch and leaves the state alone. -/
theorem rows_unknown (some : ¬ tokens.all (known config) = true) :
    PleHashState.rows config tokens state = (.error outsideVocabulary, state) := by
  have checked := @check_tokens_unknown _ state _ some
  change Proc.bind (checkTokens config tokens) _ state = _
  simp only [Proc.bind, checked]

/-- One batch is as good as two. -/
theorem rows_append (first second : List Token) :
    (PleHashState.rows config (first ++ second) state).1 =
        ((do
          let early ← PleHashState.rows config first
          let late ← PleHashState.rows config second
          pure (early ++ late)) state).1 ∧
      ((first ++ second).all (known config) = true →
        (PleHashState.rows config (first ++ second) state).2 =
          (PleHashState.rows config second (PleHashState.rows config first state).2).2) := by
  by_cases early : first.all (known config) = true
  · by_cases late : second.all (known config) = true
    · have all : (first ++ second).all (known config) = true := by
        rw [List.all_append, early, late]
        rfl
      rw [rows_known all, rows_known early, rows_known late]
      refine ⟨?_, fun _ => advance_append state first second⟩
      change _ = (Proc.bind (PleHashState.rows config first) _ state).1
      simp only [Proc.bind, rows_known early]
      change _ = (Proc.bind (PleHashState.rows config second) _ (advance state first)).1
      simp only [Proc.bind, rows_known late]
      exact congrArg Except.ok (rows_from_append config state first second)
    · have some : ¬ (first ++ second).all (known config) = true := by
        rw [List.all_append, early, Bool.true_and]
        exact late
      refine ⟨?_, fun all => absurd all some⟩
      rw [rows_unknown some]
      change _ = (Proc.bind (PleHashState.rows config first) _ state).1
      simp only [Proc.bind, rows_known early]
      change _ = (Proc.bind (PleHashState.rows config second) _ (advance state first)).1
      simp only [Proc.bind, rows_unknown late]
  · have some : ¬ (first ++ second).all (known config) = true := by
      rw [List.all_append, Bool.and_eq_true]
      exact fun both => early both.1
    refine ⟨?_, fun all => absurd all some⟩
    rw [rows_unknown some]
    change _ = (Proc.bind (PleHashState.rows config first) _ state).1
    simp only [Proc.bind, rows_unknown early]

/-- The last two tokens of a history, behind the two that a reset leaves. -/
def lastTwo (config : PleHashConfig) (history : List Token) : PleHashState :=
  match history.reverse with
  | [] => reset config
  | [token] => ⟨config.eosTokenId, token.toInt⟩
  | newer :: older :: _ => ⟨older.toInt, newer.toInt⟩

theorem shift_last_two (history : List Token) (token : Token) :
    shift (lastTwo config history) token = lastTwo config (history ++ [token]) := by
  unfold lastTwo
  rw [List.reverse_append, List.reverse_singleton, List.singleton_append]
  rcases history.reverse with _ | ⟨newer, _ | ⟨older, earlier⟩⟩ <;> rfl

theorem advance_last_two (history tokens : List Token) :
    advance (lastTwo config history) tokens = lastTwo config (history ++ tokens) := by
  induction tokens generalizing history with
  | nil => rw [List.append_nil]; rfl
  | cons token rest ih =>
      change advance (shift (lastTwo config history) token) rest = _
      rw [shift_last_two, ih, List.append_assoc]
      rfl

theorem hash_batches_known {batches : List (List Token)}
    (all : batches.flatten.all (known config) = true) :
    hashBatches config batches state =
      (.ok (rowsFrom config state batches.flatten), advance state batches.flatten) := by
  induction batches generalizing state with
  | nil => rfl
  | cons batch rest ih =>
      rw [List.flatten_cons, List.all_append, Bool.and_eq_true] at all
      change Proc.bind (PleHashState.rows config batch) _ state = _
      simp only [Proc.bind, rows_known all.1]
      change Proc.bind (hashBatches config rest) _ (advance state batch) = _
      simp only [Proc.bind, ih all.2, List.flatten_cons, rows_from_append, advance_append]
      rfl

end Batches

section Chunks
variable {config : PleHashConfig} {committed candidate : PleHashState}
  {candidates : List PleHashState} {tokens : List Token}

theorem hashes_after_last (committed : PleHashState) (tokens : List Token) :
    (hashesAfter committed tokens).getLastD committed = advance committed tokens := by
  induction tokens generalizing committed with
  | nil => rfl
  | cons token rest ih =>
      rw [hashesAfter, List.getLastD_cons, ih]
      rfl

theorem last_hash (committed : PleHashState) (candidates : List PleHashState)
    (tokens : List Token) :
    (candidates ++ hashesAfter (candidates.getLastD committed) tokens).getLastD committed =
      advance (candidates.getLastD committed) tokens := by
  rcases tokens with _ | ⟨token, rest⟩
  · rw [hashesAfter, List.append_nil]
    rfl
  · rw [← hashes_after_last, List.getLastD_eq_getLast?, List.getLastD_eq_getLast?,
      List.getLast?_append]
    cases found : (hashesAfter (candidates.getLastD committed) (token :: rest)).getLast? with
    | none => simp [hashesAfter] at found
    | some hash => rfl

theorem hashes_after_append (candidate : PleHashState) (first second : List Token) :
    hashesAfter candidate (first ++ second) =
      hashesAfter candidate first ++ hashesAfter (advance candidate first) second := by
  induction first generalizing candidate with
  | nil => rfl
  | cons token rest ih =>
      rw [List.cons_append, hashesAfter, ih, hashesAfter, List.cons_append]
      rfl

theorem hashes_after_get (committed : PleHashState) {rows : List Token} {count : Nat}
    (positive : 0 < count) (within : count ≤ rows.length) (fallback : PleHashState) :
    (hashesAfter committed rows).getD (count - 1) fallback = advance committed (rows.take count) := by
  induction rows generalizing committed count with
  | nil =>
      rw [List.length_nil] at within
      omega
  | cons token rest ih =>
      obtain ⟨count, rfl⟩ := Nat.exists_eq_succ_of_ne_zero positive.ne'
      cases count with
      | zero => rfl
      | succ count =>
          have later := ih (shift committed token) (Nat.succ_pos count) (by simpa using within)
          simpa [hashesAfter, advance] using later

theorem advance_one (candidate : PleHashState) (token : Token) :
    advance candidate [token] = shift candidate token := rfl

/-- Token by token the rows and the candidates are those of the batch. -/
theorem hash_each_known (all : tokens.all (known config) = true) :
    hashEach config tokens ⟨candidate, candidates⟩ =
      (.ok (rowsFrom config candidate tokens),
        ⟨advance candidate tokens, candidates ++ hashesAfter candidate tokens⟩) := by
  induction tokens generalizing candidate candidates with
  | nil => simp [hashEach, rowsFrom, hashesAfter, advance, pure, Proc.pure]
  | cons token rest ih =>
      obtain ⟨here, later⟩ := Bool.and_eq_true_iff.mp (List.all_cons ▸ all)
      have alone : [token].all (known config) = true := by simp [here]
      simp only [hashEach, bind, Proc.bind, Proc.within, rows_known alone, Proc.write]
      rw [advance_one, ih later, List.append_assoc]
      simp only [rowsFrom, List.append_nil]
      rfl

theorem hash_each_unknown (some : ¬ tokens.all (known config) = true) :
    (hashEach config tokens ⟨candidate, candidates⟩).1 = .error outsideVocabulary := by
  induction tokens generalizing candidate candidates with
  | nil => exact absurd rfl some
  | cons token rest ih =>
      by_cases here : known config token = true
      · have alone : [token].all (known config) = true := by simp [here]
        have later : ¬ rest.all (known config) = true := by simpa [here] using some
        have refused := @ih (shift candidate token) (candidates ++ [shift candidate token]) later
        simp only [hashEach, bind, Proc.bind, Proc.within, rows_known alone, Proc.write]
        rw [advance_one]
        rcases answer : hashEach config rest ⟨shift candidate token, candidates ++
          [shift candidate token]⟩ with ⟨outcome, after⟩
        rw [answer] at refused
        cases refused
        rfl
      · have alone : ¬ [token].all (known config) = true := by simp [here]
        simp only [hashEach, bind, Proc.bind, Proc.within, rows_unknown alone]

theorem hash_chunk_known (all : tokens.all (known config) = true) :
    hashChunk config committed tokens candidates =
      (.ok (rowsFrom config (candidates.getLastD committed) tokens),
        candidates ++ hashesAfter (candidates.getLastD committed) tokens) := by
  simp only [hashChunk, Proc.within, hash_each_known all]

/-- However a transaction is cut into chunks, they are given the rows of the
whole of it. -/
theorem hash_chunks_known {chunks : List (List Token)}
    (all : chunks.flatten.all (known config) = true) :
    hashChunks config committed chunks candidates =
      (.ok (rowsFrom config (candidates.getLastD committed) chunks.flatten),
        candidates ++ hashesAfter (candidates.getLastD committed) chunks.flatten) := by
  induction chunks generalizing candidates with
  | nil => simp [hashChunks, rowsFrom, hashesAfter, pure, Proc.pure]
  | cons chunk rest ih =>
      rw [List.flatten_cons, List.all_append, Bool.and_eq_true] at all
      simp only [hashChunks, bind, Proc.bind, hash_chunk_known all.1, ih all.2, last_hash,
        List.flatten_cons, rows_from_append, hashes_after_append, List.append_assoc]
      rfl

theorem hash_chunk_unknown (some : ¬ tokens.all (known config) = true) :
    (hashChunk config committed tokens candidates).1 = .error outsideVocabulary :=
  hash_each_unknown some

/-- A transaction hashes chunk by chunk and token by token what one batch does. -/
theorem hash_chunks_whole (chunks : List (List Token)) :
    (hashChunks config committed chunks candidates).1 =
      (PleHashState.rows config chunks.flatten (candidates.getLastD committed)).1 := by
  by_cases all : chunks.flatten.all (known config) = true
  · rw [hash_chunks_known all, rows_known all]
  · rw [rows_unknown all]
    induction chunks generalizing candidates with
    | nil => exact absurd rfl all
    | cons chunk rest ih =>
        by_cases here : chunk.all (known config) = true
        · have later : ¬ rest.flatten.all (known config) = true := by
            rw [List.flatten_cons, List.all_append, here, Bool.true_and] at all
            exact all
          have refused := @ih (candidates ++ hashesAfter (candidates.getLastD committed) chunk)
            later
          simp only [hashChunks, bind, Proc.bind, hash_chunk_known here]
          rcases answer : hashChunks config committed rest
            (candidates ++ hashesAfter (candidates.getLastD committed) chunk) with ⟨outcome, after⟩
          rw [answer] at refused
          cases refused
          rfl
        · have refused := @hash_chunk_unknown _ committed candidates _ here
          simp only [hashChunks, bind, Proc.bind]
          rcases answer : hashChunk config committed chunk candidates with ⟨outcome, after⟩
          rw [answer] at refused
          cases refused
          rfl

end Chunks

end Q38.PleHash
