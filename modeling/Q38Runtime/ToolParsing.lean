import Q38Runtime.MarkerSearch
import Q38Runtime.SidecarRequests
import Q38Runtime.TextFields

/-!
`_parse_tool_output` of `q38_sidecar.py`: what the model wrote is split at the end of its
reasoning, and the blocks between markers are read as calls.
-/
namespace Q38.ToolParsing
open ControlPlane MarkerSearch SidecarRequests

section Parsing

/-- `str.isspace` of one character. -/
def whitespace (letter : Char) : Bool :=
  let code := letter.toNat
  decide (9 ≤ code ∧ code ≤ 13) || decide (28 ≤ code ∧ code ≤ 32) || decide (code = 0x85) ||
    decide (code = 0xA0) || decide (code = 0x1680) || decide (0x2000 ≤ code ∧ code ≤ 0x200A) ||
    decide (code = 0x2028) || decide (code = 0x2029) || decide (code = 0x202F) ||
    decide (code = 0x205F) || decide (code = 0x3000)

def thinkMark : List Char := "<think>".toList
def thinkClose : List Char := "</think>".toList
def imEnd : List Char := "<|im_end|>".toList
def callMark : List Char := "<tool_call>".toList
def callClose : List Char := "</tool_call>".toList
def functionMark : List Char := "<function=".toList
def functionClose : List Char := "</function>".toList
def parameterMark : List Char := "<parameter=".toList
def parameterClose : List Char := "</parameter>".toList

/-- What `json.loads` does: a value, a `JSONDecodeError`, or another exception. -/
inductive Loaded
  | value (json : Json)
  | decodeError
  | raised

/-- `unfinished` is the end of the fuel. -/
inductive ParseError
  | controlPlane (error : ControlPlaneError)
  | loads
  | unfinished
  deriving DecidableEq

structure ToolCall where
  id : List Char
  kind : String := "function"
  name : List Char
  arguments : List Char
  deriving DecidableEq

structure Python where
  loads : List Char → Loaded
  dumps : List (List Char × Json) → List Char

def invalid {α : Type} (message : String) : Except ParseError α :=
  .error (.controlPlane ⟨502, "invalid_tool_call", message⟩)

def validName (name : List Char) : Bool := functionName (String.ofList name)

/-- `text or None`. -/
def someText (text : List Char) : Option (List Char) := if text = [] then none else some text

def stripReasoning (text : List Char) : Option (List Char) × List Char :=
  let value := strip whitespace text
  let value := if thinkMark <+: value then value.drop thinkMark.length else value
  match find value thinkClose 0 with
  | none => (none, value)
  | some place =>
      (someText (strip whitespace (value.take place)),
        strip whitespace (value.drop (place + thinkClose.length)))

variable (python : Python)

def parameterValue (value : List Char) : Except ParseError Json :=
  match python.loads (strip whitespace value) with
  | .value json => .ok json
  | .decodeError => .ok (.text (String.ofList (strip whitespace value)))
  | .raised => .error .loads

/-- The loop over the parameters of a function. -/
def parseParameters : Nat → List Char → Nat → List (List Char × Json) →
    Except ParseError (List (List Char × Json))
  | 0, _, _, _ => .error .unfinished
  | fuel + 1, parameters, cursor, arguments =>
      if parameters.length ≤ cursor then .ok arguments
      else if strip whitespace (parameters.drop cursor) = [] then .ok arguments
      else
        let cursor := cursor + ((parameters.drop cursor).length -
          ((parameters.drop cursor).dropWhile whitespace).length)
        if ¬ parameterMark <+: parameters.drop cursor then invalid "invalid parameter block"
        else match find parameters ['>'] cursor with
          | none => invalid "invalid parameter header"
          | some headerEnd =>
              let name := slice parameters (cursor + parameterMark.length) headerEnd
              if validName name = false ∨ name ∈ arguments.map Prod.fst then
                invalid "invalid parameter name"
              else match find parameters parameterClose headerEnd with
                | none => invalid "unterminated parameter"
                | some parameterEnd => do
                    let text := slice parameters (headerEnd + 1) parameterEnd
                    let value ← parameterValue python text
                    parseParameters fuel parameters (parameterEnd + parameterClose.length)
                      (arguments ++ [(name, value)])

/-- One stripped block: the name of its function and the arguments. -/
def parseBlock (block : List Char) :
    Except ParseError (List Char × List (List Char × Json)) :=
  match find block functionMark 0 with
  | some 0 =>
      match find block ['>'] 0, rfind functionClose block with
      | some headerEnd, some functionEnd =>
          if functionEnd < headerEnd then invalid "invalid function block"
          else
            let name := slice block functionMark.length headerEnd
            if validName name = false then invalid "invalid function name"
            else do
              let parameters := slice block (headerEnd + 1) functionEnd
              let arguments ← parseParameters python (parameters.length + 1) parameters 0 []
              return (name, arguments)
      | _, _ => invalid "invalid function block"
  | _ => invalid "invalid function block"

/-- `request_id.rsplit('-', 1)[-1]`. -/
def lastPart (requestId : List Char) : List Char := requestId.rtakeWhile (· ≠ '-')

def callId (requestId : List Char) (index : Nat) : List Char :=
  "call_q38_".toList ++ lastPart requestId ++ '_' :: TensorLedger.decimalText index

/-- The loop over the calls, with what stands between them. -/
def parseCalls (requestId : List Char) : Nat → List Char → Nat → List (List Char) →
    List ToolCall → Except ParseError (List (List Char) × List ToolCall)
  | 0, _, _, _, _ => .error .unfinished
  | fuel + 1, visible, cursor, parts, calls =>
      match find visible callMark cursor with
      | none => .ok (parts ++ [visible.drop cursor], calls)
      | some start =>
          match find visible callClose start with
          | none => invalid "unterminated tool_call"
          | some stop => do
              let block := strip whitespace (slice visible (start + callMark.length) stop)
              let (name, arguments) ← parseBlock python block
              parseCalls requestId fuel visible (stop + callClose.length)
                (parts ++ [slice visible cursor start])
                (calls ++ [{ id := callId requestId calls.length, name := name,
                             arguments := python.dumps arguments }])

/-- The visible text without what ends a turn. -/
def visibleText (text : List Char) : List Char :=
  let visible := (stripReasoning text).2
  strip whitespace
    (if imEnd <:+ visible then visible.take (visible.length - imEnd.length) else visible)

def parseToolOutput (text requestId : List Char) :
    Except ParseError (Option (List Char) × Option (List Char) × List ToolCall) := do
  let visible := visibleText text
  let (parts, calls) ← parseCalls python requestId (visible.length + 1) visible 0 [] []
  return ((stripReasoning text).1, someText (strip whitespace parts.flatten), calls)

end Parsing

section Rendering

/-- One parameter with the space before it. -/
structure Parameter where
  space : List Char
  name : List Char
  value : List Char
  spaces : ∀ letter ∈ space, whitespace letter
  named : validName name
  closed : ¬ parameterClose <:+: value
  ended : ¬ callClose <:+: value

/-- One call with the space around its elements. -/
structure Call where
  before : List Char
  name : List Char
  parameters : List Parameter
  after : List Char
  last : List Char
  spaces : ∀ letter ∈ before ++ (after ++ last), whitespace letter
  named : validName name
  distinct : (parameters.map Parameter.name).Nodup

/-- Text that is shown, which has no marker. -/
structure Segment where
  text : List Char
  plain : ∀ mark ∈ [thinkMark, thinkClose, callMark, imEnd], ¬ mark <:+: text

structure Output where
  first : Segment
  rest : List (Call × Segment)

def Parameter.text (parameter : Parameter) : List Char :=
  parameter.space ++ (parameterMark ++ (parameter.name ++
    (['>'] ++ (parameter.value ++ parameterClose))))

def Call.inner (call : Call) : List Char :=
  call.before ++ (functionMark ++ (call.name ++ (['>'] ++
    (call.parameters.flatMap Parameter.text ++ (call.after ++ (functionClose ++ call.last))))))

def Call.text (call : Call) : List Char := callMark ++ (call.inner ++ callClose)

def Output.calls (output : Output) : List Call := output.rest.map Prod.fst

def Output.shown (output : Output) : List Char :=
  output.first.text ++ output.rest.flatMap fun entry => entry.2.text

def Output.text (output : Output) : List Char :=
  output.first.text ++ output.rest.flatMap fun entry => entry.1.text ++ entry.2.text

end Rendering

section Markers

theorem think_mark_headed : Headed thinkMark := by decide
theorem think_close_headed : Headed thinkClose := by decide
theorem call_mark_headed : Headed callMark := by decide
theorem call_close_headed : Headed callClose := by decide
theorem function_mark_headed : Headed functionMark := by decide
theorem parameter_close_headed : Headed parameterClose := by decide
theorem bracket_headed : Headed ['>'] := by decide

theorem whitespace_bracket {letter : Char} (space : whitespace letter) :
    letter ≠ '<' ∧ letter ≠ '>' := by
  constructor <;> rintro rfl <;> exact absurd space (by decide)

theorem name_letters {name : List Char} (named : validName name) :
    name ≠ [] ∧ ∀ letter ∈ name, letter ≠ '<' ∧ letter ≠ '>' := by
  unfold validName functionName at named
  rw [Bool.and_eq_true, String.toList_ofList, List.all_eq_true] at named
  refine ⟨?_, fun letter member => ?_⟩
  · rintro rfl
    exact absurd named.1 (by decide)
  · have here := named.2 letter member
    constructor <;> rintro rfl <;> exact absurd here (by decide)

end Markers

section Parameters
variable (python : Python)

def readParameter (parameter : Parameter) : Except ParseError (List Char × Json) := do
  let value ← parameterValue python parameter.value
  return (parameter.name, value)

variable {python} {front after : List Char} {met : List (List Char × Json)}

theorem bracket_among {text : List Char} : ['>'] <:+: text ↔ '>' ∈ text :=
  List.singleton_infix_iff _ _

/-- One turn of the loop, where a parameter is next. -/
theorem parse_parameter (parameter : Parameter) (fuel : Nat)
    (fresh : parameter.name ∉ met.map Prod.fst) :
    parseParameters python (fuel + 1) (front ++ (parameter.text ++ after)) front.length met =
      (parameterValue python parameter.value >>= fun value =>
        parseParameters python fuel (front ++ (parameter.text ++ after))
          (front ++ parameter.text).length (met ++ [(parameter.name, value)])) := by
  obtain ⟨space, name, value, spaces, named, closed, ended⟩ := parameter
  obtain ⟨some_, letters⟩ := name_letters named
  dsimp only at fresh ⊢
  generalize whole_ : front ++ (Parameter.text ⟨space, name, value, spaces, named, closed, ended⟩ ++
    after) = whole
  have atSpace : whole = front ++ (space ++ (parameterMark ++ (name ++ (['>'] ++ (value ++
      (parameterClose ++ after)))))) := by
    simp [← whole_, Parameter.text]
  have atMark : whole = (front ++ space) ++ ((parameterMark ++ name) ++ (['>'] ++ (value ++
      (parameterClose ++ after)))) := by
    simp [atSpace]
  have atName : whole = (front ++ space ++ parameterMark) ++ (name ++ (['>'] ++ (value ++
      (parameterClose ++ after)))) := by
    simp [atSpace]
  have atBracket : whole = (front ++ space ++ parameterMark ++ name) ++ ((['>'] ++ value) ++
      (parameterClose ++ after)) := by
    simp [atSpace]
  have atValue : whole = (front ++ space ++ parameterMark ++ name ++ ['>']) ++ (value ++
      (parameterClose ++ after)) := by
    simp [atSpace]
  have rest : whole.drop front.length = space ++ (parameterMark ++ (name ++ (['>'] ++ (value ++
      (parameterClose ++ after))))) := by
    rw [atSpace, List.drop_left]
  have long : ¬ whole.length ≤ front.length := by
    simp only [atSpace, List.length_append, List.length_singleton]
    omega
  have visible : strip whitespace (whole.drop front.length) ≠ [] := by
    have bracket : '>' ∈ whole.drop front.length := by
      rw [rest]
      simp only [List.mem_append, List.mem_singleton, true_or, or_true]
    exact strip_some bracket (by decide)
  have unspaced : (whole.drop front.length).dropWhile whitespace = parameterMark ++ (name ++
      (['>'] ++ (value ++ (parameterClose ++ after)))) := by
    rw [rest]
    exact dropWhile_padded spaces (by rintro letter ⟨⟩; decide)
  have skipped : front.length + ((whole.drop front.length).length -
      ((whole.drop front.length).dropWhile whitespace).length) = (front ++ space).length := by
    rw [unspaced, rest]
    simp only [List.length_append]
    omega
  have marked : parameterMark <+: whole.drop (front ++ space).length := by
    rw [atMark, List.drop_left, List.append_assoc]
    exact List.prefix_append _ _
  have header : find whole ['>'] (front ++ space).length =
      some (front ++ space ++ parameterMark ++ name).length := by
    have plain : ¬ ['>'] <:+: parameterMark ++ name := by
      rw [bracket_among, List.mem_append, not_or]
      exact ⟨by decide, fun member => (letters _ member).2 rfl⟩
    rw [atMark, find_placed bracket_headed plain]
    simp only [List.length_append, Nat.add_assoc]
  have name_ : slice whole ((front ++ space).length + parameterMark.length)
      (front ++ space ++ parameterMark ++ name).length = name := by
    rw [atName, ← List.length_append, @List.length_append _ _ name]
    exact slice_middle _ _ _
  have footer : find whole parameterClose (front ++ space ++ parameterMark ++ name).length =
      some (front ++ space ++ parameterMark ++ name ++ ['>'] ++ value).length := by
    have plain : ¬ parameterClose <:+: ['>'] ++ value := clears_free (by decide) closed
    rw [atBracket, find_placed parameter_close_headed plain]
    simp only [List.length_append, Nat.add_assoc]
  have value_ : slice whole ((front ++ space ++ parameterMark ++ name).length + 1)
      (front ++ space ++ parameterMark ++ name ++ ['>'] ++ value).length = value := by
    have one : (front ++ space ++ parameterMark ++ name).length + 1 =
        (front ++ space ++ parameterMark ++ name ++ ['>']).length := by
      rw [@List.length_append _ _ ['>'], List.length_singleton]
    rw [one, atValue, @List.length_append _ _ value]
    exact slice_middle _ _ _
  have next : (front ++ space ++ parameterMark ++ name ++ ['>'] ++ value).length +
      parameterClose.length = (front ++ Parameter.text ⟨space, name, value, spaces, named, closed,
        ended⟩).length := by
    simp only [Parameter.text, List.length_append]
    omega
  rw [parseParameters, if_neg long, if_neg visible]
  simp only [skipped, marked, header, name_, footer, value_, next]
  rw [if_neg (by simp), if_neg (by simp [named, fresh])]

/-- The loop over what parameters are written as. -/
theorem parse_parameters {parameters : List Parameter} {fuel : Nat}
    (spaces : ∀ letter ∈ after, whitespace letter)
    (distinct : (met.map Prod.fst ++ parameters.map Parameter.name).Nodup)
    (enough : parameters.length < fuel) :
    parseParameters python fuel (front ++ (parameters.flatMap Parameter.text ++ after))
        front.length met =
      (parameters.mapM (readParameter python) >>= fun read => pure (met ++ read)) := by
  induction parameters generalizing fuel front met with
  | nil =>
      obtain ⟨fuel, rfl⟩ := Nat.exists_eq_succ_of_ne_zero (by omega : fuel ≠ 0)
      rw [parseParameters, List.flatMap_nil, List.nil_append, List.drop_left, strip_empty spaces]
      simp only [if_true, ite_self, List.mapM_nil, pure_bind, List.append_nil]
      rfl
  | cons parameter parameters ih =>
      obtain ⟨fuel, rfl⟩ := Nat.exists_eq_succ_of_ne_zero (by omega : fuel ≠ 0)
      have fresh : parameter.name ∉ met.map Prod.fst := fun member =>
        List.disjoint_of_nodup_append distinct member List.mem_cons_self
      rw [List.flatMap_cons, List.append_assoc, parse_parameter parameter fuel fresh,
        List.mapM_cons, readParameter]
      simp only [bind_assoc, pure_bind]
      refine bind_congr fun value => ?_
      have distinct_ : ((met ++ [(parameter.name, value)]).map Prod.fst ++
          parameters.map Parameter.name).Nodup := by
        simpa using distinct
      have enough_ : parameters.length < fuel := by
        rw [List.length_cons] at enough
        omega
      have later := @ih (front ++ parameter.text) (met ++ [(parameter.name, value)]) fuel
        distinct_ enough_
      rw [List.append_assoc front] at later
      rw [later]
      simp only [List.append_assoc, List.singleton_append]

end Parameters

section Blocks
variable {python : Python}

theorem parameters_long (parameters : List Parameter) :
    parameters.length ≤ (parameters.flatMap Parameter.text).length := by
  induction parameters with
  | nil => exact Nat.le_refl 0
  | cons parameter parameters ih =>
      have some_ : 1 ≤ parameter.text.length := by
        simp only [Parameter.text, List.length_append, List.length_singleton]
        omega
      rw [List.flatMap_cons, List.length_append, List.length_cons]
      omega

/-- A block without the space around its function. -/
def Call.body (call : Call) : List Char :=
  functionMark ++ (call.name ++ (['>'] ++
    ((call.parameters.flatMap Parameter.text ++ call.after) ++ functionClose)))

theorem inner_body (call : Call) : call.inner = call.before ++ (call.body ++ call.last) := by
  simp only [Call.inner, Call.body, List.append_assoc]

theorem body_stripped (call : Call) : strip whitespace call.inner = call.body := by
  have spaces := call.spaces
  simp only [List.mem_append] at spaces
  rw [inner_body]
  apply strip_padded
  · exact fun letter member => spaces letter (.inl member)
  · exact fun letter member => spaces letter (.inr (.inr member))
  · rintro letter ⟨⟩
    decide
  · have ending : call.body.getLast? = some '>' := by
      simp only [Call.body, ← List.append_assoc]
      rw [List.getLast?_append_of_ne_nil _ (by decide)]
      rfl
    rw [ending]
    rintro letter ⟨⟩
    decide

theorem parse_block (call : Call) :
    parseBlock python (strip whitespace call.inner) =
      (call.parameters.mapM (readParameter python) >>= fun read => pure (call.name, read)) := by
  obtain ⟨some_, letters⟩ := name_letters call.named
  rw [body_stripped]
  generalize body_ : call.body = body
  let inside := call.parameters.flatMap Parameter.text ++ call.after
  have atName : body = functionMark ++ (call.name ++ (['>'] ++ (inside ++ functionClose))) :=
    body_.symm
  have atBracket : body = (functionMark ++ call.name) ++ (['>'] ++ (inside ++ functionClose)) := by
    simp only [atName, List.append_assoc]
  have atInside : body = (functionMark ++ call.name ++ ['>']) ++ (inside ++ functionClose) := by
    simp only [atName, List.append_assoc]
  have start : find body functionMark 0 = some 0 := by
    rw [atName]
    exact @find_placed _ _ functionMark [] _ [] function_mark_headed (by decide)
  have header : find body ['>'] 0 = some (functionMark ++ call.name).length := by
    have plain : ¬ ['>'] <:+: functionMark ++ call.name := by
      rw [bracket_among, List.mem_append, not_or]
      exact ⟨by decide, fun member => (letters _ member).2 rfl⟩
    have placed := @find_placed _ _ ['>'] _ (inside ++ functionClose) [] bracket_headed plain
    rw [List.nil_append, ← atBracket] at placed
    simpa using placed
  have footer : rfind functionClose body =
      some (functionMark ++ call.name ++ ['>'] ++ inside).length := by
    rw [atInside, ← List.append_assoc]
    exact rfind_last (by decide)
  have name_ : slice body functionMark.length (functionMark ++ call.name).length = call.name := by
    rw [atName, @List.length_append _ _ call.name]
    exact slice_middle _ _ _
  have one : (functionMark ++ call.name).length + 1 =
      (functionMark ++ call.name ++ ['>']).length := by
    rw [@List.length_append _ _ ['>'], List.length_singleton]
  have inside_ : slice body ((functionMark ++ call.name).length + 1)
      (functionMark ++ call.name ++ ['>'] ++ inside).length = inside := by
    rw [one, atInside, @List.length_append _ _ inside]
    exact slice_middle _ _ _
  have ordered : ¬ (functionMark ++ call.name ++ ['>'] ++ inside).length <
      (functionMark ++ call.name).length := by
    simp only [List.length_append]
    omega
  have read := @parse_parameters python [] call.after [] call.parameters (inside.length + 1)
    (fun letter member => call.spaces letter (by simp [member])) (by simpa using call.distinct)
    (by
      have long := parameters_long call.parameters
      simp only [inside, List.length_append]
      omega)
  rw [parseBlock, start]
  simp only [header, footer, if_neg ordered, name_, inside_, call.named]
  rw [if_neg (by simp)]
  simp only [List.nil_append, List.length_nil] at read
  rw [read]
  simp only [bind_assoc, pure_bind]

end Blocks

section Foreign
variable {marker tail : List Char}

/-- A marker that no other marker of a call runs into. -/
structure Foreign (marker : List Char) : Prop where
  headed : Headed marker
  bracket : '<' ∈ marker.head?
  clears : ∀ mark ∈ [callMark, functionMark, functionClose, parameterMark, parameterClose, ['>']],
    Clears marker mark

theorem call_close_foreign : Foreign callClose := ⟨by decide, by decide, by decide⟩

theorem think_close_foreign : Foreign thinkClose := ⟨by decide, by decide, by decide⟩

theorem Foreign.plain (foreign : Foreign marker) {text : List Char} (absent : '<' ∉ text) :
    Clears marker text := clears_absent foreign.bracket absent

theorem Foreign.joint (foreign : Foreign marker) {first second : List Char}
    (free : ¬ marker <:+: first) (free_ : ¬ marker <:+: second)
    (start : ∀ letter ∈ second.head?, letter = '<') : ¬ marker <:+: first ++ second := by
  have edge : ∀ letter ∈ second.head?, letter ∉ marker.tail := by
    intro letter member
    obtain ⟨other, rest, rfl⟩ := List.exists_cons_of_ne_nil foreign.headed.some_
    have same : other = '<' := by simpa using foreign.bracket
    rw [start letter member, ← same]
    exact foreign.headed
  intro inside
  rcases inside_append edge inside with here | here
  · exact free here
  · exact free_ here

theorem spaces_plain {text : List Char} (spaces : ∀ letter ∈ text, whitespace letter) :
    '<' ∉ text := fun member => (whitespace_bracket (spaces _ member)).1 rfl

theorem Foreign.parameter (foreign : Foreign marker) {parameter : Parameter}
    (free : ¬ marker <:+: parameter.value) (rest : ¬ marker <:+: tail) :
    ¬ marker <:+: parameter.text ++ tail := by
  obtain ⟨space, name, value, spaces, named, closed, ended⟩ := parameter
  have letters := (name_letters named).2
  have name_ : '<' ∉ name := fun member => (letters _ member).1 rfl
  simp only [Parameter.text, List.append_assoc]
  apply clears_free (foreign.plain (spaces_plain spaces))
  apply clears_free (foreign.clears _ (by simp))
  apply clears_free (foreign.plain name_)
  apply clears_free (foreign.clears _ (by simp))
  refine foreign.joint free (clears_free (foreign.clears _ (by simp)) rest) ?_
  rintro letter ⟨⟩
  decide

theorem Foreign.parameters (foreign : Foreign marker) {parameters : List Parameter}
    (free : ∀ parameter ∈ parameters, ¬ marker <:+: parameter.value) (rest : ¬ marker <:+: tail) :
    ¬ marker <:+: parameters.flatMap Parameter.text ++ tail := by
  induction parameters with
  | nil => exact rest
  | cons parameter parameters ih =>
      rw [List.flatMap_cons, List.append_assoc]
      exact foreign.parameter (free parameter List.mem_cons_self)
        (ih fun other member => free other (List.mem_cons_of_mem parameter member))

theorem Foreign.inner (foreign : Foreign marker) {call : Call}
    (free : ∀ parameter ∈ call.parameters, ¬ marker <:+: parameter.value)
    (rest : ¬ marker <:+: tail) : ¬ marker <:+: call.inner ++ tail := by
  have spaces := call.spaces
  simp only [List.mem_append] at spaces
  have letters := (name_letters call.named).2
  have name_ : '<' ∉ call.name := fun member => (letters _ member).1 rfl
  simp only [Call.inner, List.append_assoc]
  apply clears_free (foreign.plain (spaces_plain fun _ member => spaces _ (.inl member)))
  apply clears_free (foreign.clears _ (by simp))
  apply clears_free (foreign.plain name_)
  apply clears_free (foreign.clears _ (by simp))
  apply foreign.parameters free
  apply clears_free (foreign.plain (spaces_plain fun _ member => spaces _ (.inr (.inl member))))
  apply clears_free (foreign.clears _ (by simp))
  exact clears_free
    (foreign.plain (spaces_plain fun _ member => spaces _ (.inr (.inr member)))) rest

end Foreign

section Calls
variable (python : Python) (requestId : List Char)

def readCall (call : Call) : Except ParseError (List Char × List (List Char × Json)) := do
  let read ← call.parameters.mapM (readParameter python)
  return (call.name, read)

/-- The calls as they are answered, numbered from one on. -/
def numbered : Nat → List (List Char × List (List Char × Json)) → List ToolCall
  | _, [] => []
  | index, read :: rest =>
      { id := callId requestId index, name := read.1, arguments := python.dumps read.2 } ::
        numbered (index + 1) rest

variable {python requestId} {front segment : List Char} {parts : List (List Char)}
  {calls : List ToolCall}

theorem call_closed (call : Call) : ¬ callClose <:+: callMark ++ call.inner := by
  apply clears_free (by decide)
  rw [← List.append_nil call.inner]
  apply call_close_foreign.inner
  · exact fun parameter _ => parameter.ended
  · exact fun inside => absurd (List.infix_nil.mp inside) (by decide)

/-- One turn of the loop, where a call is next. -/
theorem parse_call (call : Call) (fuel : Nat) (rest : List Char)
    (free : ¬ callMark <:+: segment) :
    parseCalls python requestId (fuel + 1) (front ++ (segment ++ (call.text ++ rest)))
        front.length parts calls =
      (readCall python call >>= fun read =>
        parseCalls python requestId fuel (front ++ (segment ++ (call.text ++ rest)))
          (front ++ segment ++ call.text).length (parts ++ [segment])
          (calls ++ [{ id := callId requestId calls.length, name := read.1,
                       arguments := python.dumps read.2 }])) := by
  generalize whole_ : front ++ (segment ++ (call.text ++ rest)) = whole
  have atSegment : whole = front ++ (segment ++ (callMark ++ (call.inner ++ (callClose ++
      rest)))) := by
    simp only [← whole_, Call.text, List.append_assoc]
  have atMark : whole =
      (front ++ segment) ++ ((callMark ++ call.inner) ++ (callClose ++ rest)) := by
    simp only [atSegment, List.append_assoc]
  have atInner : whole = (front ++ segment ++ callMark) ++ (call.inner ++ (callClose ++ rest)) := by
    simp only [atSegment, List.append_assoc]
  have start : find whole callMark front.length = some (front ++ segment).length := by
    rw [atSegment, find_placed call_mark_headed free, List.length_append]
  have stop : find whole callClose (front ++ segment).length =
      some (front ++ segment ++ callMark ++ call.inner).length := by
    rw [atMark, find_placed call_close_headed (call_closed call)]
    simp only [List.length_append, Nat.add_assoc]
  have part : slice whole front.length (front ++ segment).length = segment := by
    rw [atSegment, List.length_append]
    exact slice_middle _ _ _
  have block : slice whole ((front ++ segment).length + callMark.length)
      (front ++ segment ++ callMark ++ call.inner).length = call.inner := by
    rw [atInner, ← List.length_append, @List.length_append _ _ call.inner]
    exact slice_middle _ _ _
  have next : (front ++ segment ++ callMark ++ call.inner).length + callClose.length =
      (front ++ segment ++ call.text).length := by
    simp only [Call.text, List.length_append]
    omega
  rw [parseCalls, start]
  simp only [stop, part, block, next, parse_block, readCall, bind_assoc, pure_bind]

/-- The loop over what calls and segments are written as. -/
theorem parse_calls {rest : List (Call × Segment)} {fuel : Nat}
    (free : ¬ callMark <:+: segment) (enough : rest.length < fuel) :
    parseCalls python requestId fuel (front ++ (segment ++ rest.flatMap fun entry =>
        entry.1.text ++ entry.2.text)) front.length parts calls =
      ((rest.map Prod.fst).mapM (readCall python) >>= fun read =>
        pure (parts ++ segment :: rest.map fun entry => entry.2.text,
          calls ++ numbered python requestId calls.length read)) := by
  induction rest generalizing fuel front segment parts calls with
  | nil =>
      obtain ⟨fuel, rfl⟩ := Nat.exists_eq_succ_of_ne_zero (by omega : fuel ≠ 0)
      rw [List.flatMap_nil, List.append_nil, parseCalls, find_missing call_mark_headed free,
        List.drop_left]
      simp only [List.map_nil, List.mapM_nil, pure_bind, numbered, List.append_nil]
      rfl
  | cons entry rest ih =>
      obtain ⟨call, next⟩ := entry
      obtain ⟨fuel, rfl⟩ := Nat.exists_eq_succ_of_ne_zero (by omega : fuel ≠ 0)
      have free_ : ¬ callMark <:+: next.text := next.plain callMark (by simp)
      have enough_ : rest.length < fuel := by
        rw [List.length_cons] at enough
        omega
      simp only [List.flatMap_cons, List.append_assoc]
      rw [parse_call call fuel _ free, List.map_cons, List.mapM_cons]
      simp only [bind_assoc, pure_bind]
      refine bind_congr fun read => ?_
      have later := @ih (front ++ segment ++ call.text) next.text (parts ++ [segment])
        (calls ++ [{ id := callId requestId calls.length, name := read.1,
                     arguments := python.dumps read.2 }]) fuel free_ enough_
      simp only [List.append_assoc] at later ⊢
      rw [later]
      simp only [numbered, List.map_cons, List.length_append, List.length_singleton,
        List.singleton_append]

end Calls

end Q38.ToolParsing
