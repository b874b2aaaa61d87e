import Q38Runtime.ControlPlane

/-! The requests of `q38_sidecar.py` that generate: `_token_execute` and
`_chat_completion`, up to the events they answer with. A body is given by the fields
that are read of it. The tokenizer, `json.loads` and the new session ids are
parameters. -/
namespace Q38.SidecarRequests
open ControlPlane Imperative

inductive Json where
  | null
  | boolean (value : Bool)
  | integer (value : Int)
  | decimal (digits : String)
  | text (value : String)
  | list (items : List Json)
  | object (fields : List (String × Json))

namespace Json

/-- `value.get(key)` of a dictionary. -/
def field (fields : List (String × Json)) (key : String) : Option Json :=
  (fields.find? fun entry => entry.1 = key).map Prod.snd

/-- `{**fields, key: value}`. -/
def withField (fields : List (String × Json)) (key : String) (value : Json) :
    List (String × Json) :=
  if fields.any fun entry => entry.1 = key then
    fields.map fun entry => if entry.1 = key then (key, value) else entry
  else fields ++ [(key, value)]

def isText (expected : String) : Option Json → Bool
  | some (.text value) => value == expected
  | _ => false

end Json

def refuse {α : Type} (status : Nat) (code message : String) : Except ControlPlaneError α :=
  .error ⟨status, code, message⟩

/-- `FUNCTION_NAME.fullmatch`. -/
def functionName (name : String) : Bool :=
  !name.isEmpty && name.toList.all fun letter =>
    letter.isAlphanum || letter == '_' || letter == '.' || letter == ':' || letter == '-'

/-- The name of a tool that passes. -/
def functionToolName : Json → Except ControlPlaneError String
  | .object tool =>
      if !Json.isText "function" (Json.field tool "type") then
        refuse 400 "invalid_tools" "only function tools are supported"
      else match Json.field tool "function" with
        | some (.object function) =>
            match Json.field function "name" with
            | some (.text name) =>
                if functionName name then .ok name
                else refuse 400 "invalid_tools" "tool function name is invalid"
            | _ => refuse 400 "invalid_tools" "tool function name is invalid"
        | _ => refuse 400 "invalid_tools" "tool.function must be an object"
  | _ => refuse 400 "invalid_tools" "only function tools are supported"

/-- The tools, each with its name. -/
def functionToolsFrom (names : List String) :
    List Json → Except ControlPlaneError (List (String × Json))
  | [] => .ok []
  | tool :: tools => do
      let name ← functionToolName tool
      if names.contains name then
        refuse 400 "invalid_tools" "tool function names must be unique"
      let others ← functionToolsFrom (name :: names) tools
      pure ((name, tool) :: others)

def functionTools : Json → Except ControlPlaneError (List (String × Json))
  | .null => .ok []
  | .list tools => functionToolsFrom [] tools
  | _ => refuse 400 "invalid_tools" "tools must be a list"

def toolChoice (value : Json) (tools : List (String × Json)) :
    Except ControlPlaneError (List (String × Json) × Option String) :=
  match value with
  | .null | .text "auto" => .ok (tools, none)
  | .text "none" => .ok ([], none)
  | .text "required" =>
      if tools.isEmpty then refuse 400 "invalid_tool_choice" "required needs tools"
      else .ok (tools, some "You must call at least one available function in this response.")
  | .object choice =>
      if !Json.isText "function" (Json.field choice "type") then
        refuse 400 "invalid_tool_choice" "tool_choice is invalid"
      else
        let name := match Json.field choice "function" with
          | some (.object function) => Json.field function "name"
          | _ => none
        match name with
        | some (.text name) =>
            let selected := tools.filter fun tool => tool.1 = name
            if selected.isEmpty then
              refuse 400 "invalid_tool_choice" "selected tool is not available"
            else .ok (selected, some ("You must call the " ++ name ++
              " function in this response."))
        | _ => refuse 400 "invalid_tool_choice" "selected tool is not available"
  | _ => refuse 400 "invalid_tool_choice" "tool_choice is invalid"

section Messages
variable (loads : String → Option Json)

def callArguments (function : List (String × Json)) : Except ControlPlaneError Json := do
  let arguments ← match (Json.field function "arguments").getD (.object []) with
    | .text source =>
        match loads source with
        | some value => .ok value
        | none => refuse 400 "invalid_messages" "tool call arguments are not JSON"
    | value => .ok value
  match arguments with
  | .object fields => .ok (.object fields)
  | _ => refuse 400 "invalid_messages" "tool call arguments must be an object"

def normalizeCall : Json → Except ControlPlaneError Json
  | .object call =>
      if !Json.isText "function" (some ((Json.field call "type").getD (.text "function"))) then
        refuse 400 "invalid_messages" "tool call is invalid"
      else match Json.field call "function" with
        | some (.object function) =>
            match Json.field function "name" with
            | some (.text _) => do
                let arguments ← callArguments loads function
                pure (.object (Json.withField call "function"
                  (.object (Json.withField function "arguments" arguments))))
            | _ => refuse 400 "invalid_messages" "tool call function is invalid"
        | _ => refuse 400 "invalid_messages" "tool call function is invalid"
  | _ => refuse 400 "invalid_messages" "tool call is invalid"

/-- One message, as the fields of a dictionary. -/
def normalizeMessage : Json → Except ControlPlaneError (List (String × Json))
  | .object message =>
      match Json.field message "role" with
      | some (.text role) =>
          match Json.field message "tool_calls" with
          | none | some .null => .ok message
          | some (.list calls) =>
              if role ≠ "assistant" then
                refuse 400 "invalid_messages" "tool_calls are invalid"
              else do
                let normalized ← calls.mapM (normalizeCall loads)
                pure (Json.withField message "tool_calls" (.list normalized))
          | some _ => refuse 400 "invalid_messages" "tool_calls are invalid"
      | _ => refuse 400 "invalid_messages" "each message needs a role"
  | _ => refuse 400 "invalid_messages" "each message needs a role"

/-- The instruction of a tool choice joins the system message, or becomes one. -/
def instructMessages (instruction : String) :
    List (List (String × Json)) → Except ControlPlaneError (List (List (String × Json)))
  | [] => .ok []
  | first :: rest =>
      if Json.isText "system" (Json.field first "role") then
        match Json.field first "content" with
        | none | some .null | some (.text "") =>
            .ok (Json.withField first "content" (.text instruction) :: rest)
        | some (.text content) =>
            .ok (Json.withField first "content" (.text (content ++ "\n\n" ++ instruction)) :: rest)
        | some _ =>
            refuse 400 "invalid_messages" "system content must be text for tool_choice"
      else .ok ([("role", .text "system"), ("content", .text instruction)] :: first :: rest)

def normalizeMessages (value : Json) (instruction : Option String) :
    Except ControlPlaneError (List (List (String × Json))) :=
  match value with
  | .list (first :: rest) => do
      let messages ← (first :: rest).mapM (normalizeMessage loads)
      match instruction with
      | none => pure messages
      | some instruction => instructMessages instruction messages
  | _ => refuse 400 "invalid_messages" "messages must be a non-empty list"

end Messages

/-- An output limit of a body: an integer, or a value of another type. -/
inductive Limit where
  | integer (value : Int)
  | other
  deriving DecidableEq, Repr

def outputTokenFields : List String :=
  ["max_completion_tokens", "max_tokens", "max_new_tokens", "max_output_tokens"]

/-- The first of the fields that the body gives. -/
def selectedLimit (limits : List (String × Limit)) : List String → Option (String × Limit)
  | [] => none
  | name :: names =>
      match limits.find? fun entry => entry.1 = name with
      | some entry => some entry
      | none => selectedLimit limits names

def resolveOutputTokens (limits : List (String × Limit)) (defaultTokens maximumTokens : Option Int)
    (availableTokens : Int) : Except ControlPlaneError Nat :=
  let selected := selectedLimit limits outputTokenFields
  let value := match selected with
    | some (_, value) => value
    | none => .integer (defaultTokens.getD availableTokens)
  let described := match selected with
    | some (name, _) => name
    | none => "default output limit"
  if availableTokens ≤ 0 then
    refuse 422 "context_length_exceeded" "the prompt leaves no context capacity for output tokens"
  else match value with
    | .other => refuse 400 "invalid_max_tokens" (described ++ " must be a positive integer")
    | .integer value =>
        if value ≤ 0 then
          refuse 400 "invalid_max_tokens" (described ++ " must be a positive integer")
        else if selected.isSome ∧ value > availableTokens then
          refuse 422 "context_length_exceeded" (described ++ "=" ++ toString value ++
            " exceeds the " ++ toString availableTokens ++ " output tokens remaining in context")
        else .ok (min value (min (maximumTokens.getD availableTokens) availableTokens)).toNat

/-- `SidecarApplication`, with the plane it owns. -/
structure Sidecar (σ₀ σ₁ : Type) where
  plane : Plane σ₀ σ₁
  defaultMaxTokens : Option Int := none
  maxOutputTokens : Option Int := none
  loads : String → Option Json
  freshId : String
  /-- `codec.encode_chat`; a template may raise. -/
  encodeChat : Option (List (List (String × Json)) → List (String × Json) → Option Bool →
    Option String → Option (List Int))

/-- What a request raises: an error of the control plane or of its transport, the
`ValueError` of `int()`, or what the chat template raises. -/
inductive SidecarError where
  | control (raised : Raised)
  | value
  | template
  deriving DecidableEq, Repr

section Requests
variable {σ₀ σ₁ : Type}

abbrev SidecarCall (σ₀ σ₁ α : Type) := Proc SidecarError (ControlWorld σ₀ σ₁) α

def onControl {α : Type} (call : ControlCall σ₀ σ₁ α) : SidecarCall σ₀ σ₁ α := fun world =>
  match call world with
  | (.ok value, after) => (.ok value, after)
  | (.error raised, after) => (.error (.control raised), after)

def checking {α : Type} : Except ControlPlaneError α → SidecarCall σ₀ σ₁ α
  | .ok value => pure value
  | .error error => Proc.throwing (.control (.controlPlane error))

def parsed {α : Type} (error : SidecarError) : Option α → SidecarCall σ₀ σ₁ α
  | some value => pure value
  | none => Proc.throwing error

/-- How a request wants its tokens; `none` for a width that `int()` refuses. A width
below one is refused like zero. -/
structure Generation where
  limits : List (String × Limit) := []
  mode : Mode := .plain
  mtpWidth : Option Int := some 1
  timeoutMs : Option Nat := none

/-- The two lists are `none` where the field is not a list. -/
structure TokenBody where
  fullTokenIds : Option (Option (List Int)) := none
  appendTokenIds : Option (List Int) := some []
  generation : Generation := {}

structure ChatBody where
  tools : Json := .null
  toolChoice : Json := .null
  messages : Json
  enableThinking : Json := .null
  reasoningEffort : Json := .null
  sessionId : Option String := none
  generation : Generation := {}

variable (sidecar : Sidecar σ₀ σ₁)

def outputTokens (generation : Generation) (available : Int) : Except ControlPlaneError Nat :=
  resolveOutputTokens generation.limits sidecar.defaultMaxTokens sidecar.maxOutputTokens available

/-- `complete_full_history`, taken to its end. -/
def completion (sessionId : String) (history : List Int) (maxTokens : Nat)
    (generation : Generation) (width : Int) : SidecarCall σ₀ σ₁ (List CommittedTokenEvent) :=
  onControl (completeFullHistory sidecar.plane sessionId history maxTokens generation.mode
    width.toNat generation.timeoutMs (maxTokens + 1))

def invalidTokens (field : String) : SidecarError :=
  .control (raising 400 "invalid_tokens" (field ++ " must be a list"))

/-- `Q38ControlPlane.session`, as far as the handler reads it. -/
def remainingTokens (sessionId : String) : SidecarCall σ₀ σ₁ Int := do
  let record ← onControl (sessionChecked sessionId)
  pure (record.contextLimit - record.canonicalTokens.length)

def tokenExecute (sessionId : String) (body : TokenBody) :
    SidecarCall σ₀ σ₁ (List CommittedTokenEvent) := do
  let width ← parsed .value body.generation.mtpWidth
  match body.fullTokenIds with
  | some full => do
      let history ← parsed (invalidTokens "full_token_ids") full
      let maxTokens ← checking (outputTokens sidecar body.generation
        (sidecar.plane.contextLimit - history.length))
      completion sidecar sessionId history maxTokens body.generation width
  | none => do
      let tokens ← parsed (invalidTokens "append_token_ids") body.appendTokenIds
      let remaining ← remainingTokens sessionId
      let maxTokens ← checking (outputTokens sidecar body.generation (remaining - tokens.length))
      Proc.whenever (tokens ≠ []) do
        let _ ← onControl (appendTokens sidecar.plane sessionId tokens body.generation.timeoutMs)
        pure ()
      onControl (generate sidecar.plane sessionId maxTokens body.generation.mode width.toNat
        body.generation.timeoutMs (maxTokens + 1))

def reasoningFlag : Json → Except ControlPlaneError (Option Bool)
  | .null => .ok none
  | .boolean value => .ok (some value)
  | _ => refuse 400 "invalid_reasoning" "enable_thinking must be a boolean"

def reasoningText : Json → Except ControlPlaneError (Option String)
  | .null => .ok none
  | .text value => .ok (some value)
  | _ => refuse 400 "invalid_reasoning" "reasoning_effort must be a string"

/-- What a chat request is checked for before the session is looked at: the codec's
answer to its messages, still to be given. -/
def chatHistory (body : ChatBody) : Except ControlPlaneError (Option (List Int)) :=
  match sidecar.encodeChat with
  | none => refuse 503 "tokenizer_unavailable"
      ("OpenAI message input requires --tokenizer; use token-native endpoints otherwise")
  | some encodeChat => do
      let tools ← functionTools body.tools
      let chosen ← toolChoice body.toolChoice tools
      let messages ← normalizeMessages sidecar.loads body.messages chosen.2
      let thinking ← reasoningFlag body.enableThinking
      let effort ← reasoningText body.reasoningEffort
      pure (encodeChat messages chosen.1 thinking effort)

/-- `session_id or f"q38-{uuid.uuid4().hex}"`. -/
def newSessionId (requested : Option String) : String :=
  match requested with
  | some requested => if requested = "" then sidecar.freshId else requested
  | none => sidecar.freshId

/-- The resident session of a chat: created if there is none, replaced if another one
is asked for. -/
def residentSession (requested : Option String) : SidecarCall σ₀ σ₁ String := do
  let session ← Proc.read (·.session)
  match session with
  | none => do
      let record ← onControl (createSession sidecar.plane (newSessionId sidecar requested))
      pure record.sessionId
  | some record =>
      match requested with
      | some requested =>
          if requested ≠ "" ∧ requested ≠ record.sessionId then do
            let replaced ← onControl (replaceSession sidecar.plane requested)
            pure replaced.sessionId
          else pure record.sessionId
      | none => pure record.sessionId

def chatCompletion (body : ChatBody) : SidecarCall σ₀ σ₁ (List CommittedTokenEvent) := do
  let encoded ← checking (chatHistory sidecar body)
  let sessionId ← residentSession sidecar body.sessionId
  let history ← parsed .template encoded
  let maxTokens ← checking (outputTokens sidecar body.generation
    (sidecar.plane.contextLimit - history.length))
  let width ← parsed .value body.generation.mtpWidth
  completion sidecar sessionId history maxTokens body.generation width

/-- A request that generates; `complete_full_history` can also be called directly. -/
inductive Request where
  | completeFullHistory (sessionId : String) (history : List Int) (maxNewTokens : Nat)
      (generation : Generation) (width : Int)
  | execute (sessionId : String) (body : TokenBody)
  | chat (body : ChatBody)

def serve : Request → SidecarCall σ₀ σ₁ (List CommittedTokenEvent)
  | .completeFullHistory sessionId history maxNewTokens generation width =>
      completion sidecar sessionId history maxNewTokens generation width
  | .execute sessionId body => tokenExecute sidecar sessionId body
  | .chat body => chatCompletion sidecar body

end Requests

end Q38.SidecarRequests
